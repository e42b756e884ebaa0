import Provisioning.Proofs.HashEffect

/-!
No update is lost. The hash of a record that a run has created is a number that the run has drawn,
and an accepted update draws a number above every hash that was handed out before it. The main
statement says what this means for clients that read a record and then update it.
-/

namespace Provisioning

namespace Cloud

variable {cloud start final : Cloud} {kind : Guarded} {id : ResourceId} {request : Request}

/-- The hash of a record, if there is one, is a number that was drawn above a floor. -/
structure HashAbove (cloud : Cloud) (floor : UInt64) (kind : Guarded) (id : ResourceId) : Prop where
  floored : floor ≤ cloud.lastId
  drawn : ∀ hash, cloud.settingsHash? kind id = some hash →
    ∃ number, hash = hashText number ∧ floor < number ∧ number ≤ cloud.lastId

/-- One call keeps the floor, since it draws its numbers above the counter. -/
theorem HashAbove.call {floor : UInt64} (above : cloud.HashAbove floor kind id)
    (counted : cloud.lastId ≤ (call request cloud).2.lastId) :
    (Cloud.call request cloud).2.HashAbove floor kind id where
  floored := UInt64.le_trans above.floored counted
  drawn := by
    intro hash stored
    have move := (call_effect counted kind).moves id
    rw [stored] at move
    generalize previous : cloud.settingsHash? kind id = before at move
    cases move with
    | kept =>
        obtain ⟨number, text, beyond, under⟩ := above.drawn hash previous
        exact ⟨number, text, beyond, UInt64.le_trans under counted⟩
    | drawn number beyond under =>
        exact ⟨number, rfl, UInt64.lt_of_le_of_lt above.floored beyond, under⟩

/-- A hash above a floor is followed by hashes above the same floor during a run. -/
theorem HashAbove.run {floor : UInt64} {history : List Exchange}
    (above : start.HashAbove floor kind id) (run : Run start history final) :
    final.HashAbove floor kind id :=
  run.keeps (motive := fun cloud => cloud.HashAbove floor kind id)
    (fun _ _ _ _ above => ⟨above.floored, by cases kind <;> exact above.drawn⟩)
    (fun _ _ counted above => above.call counted) above

/-- A creation and an accepted update raise the floor to the counter that they have met. -/
theorem hashAbove_of_shows (counted : cloud.lastId ≤ (call request cloud).2.lastId)
    {occasion : Occasion} {hash : String}
    (shows : (cloud.exchange request).shows? = some (occasion, kind, id, hash))
    (writes : occasion ≠ .read) : (call request cloud).2.HashAbove cloud.lastId kind id where
  floored := counted
  drawn := by
    intro other stored
    obtain ⟨shown, fresh⟩ := (call_effect counted kind).shows _ _ _ _ shows
    rw [shown] at stored
    cases stored
    exact fresh.resolve_left writes

end Cloud

/-- An accepted update shows its record. -/
theorem Exchange.Accepts.shows {exchange : Exchange} {kind : Guarded} {id : ResourceId}
    {given : String} (accepts : exchange.Accepts kind id given) :
    ∃ hash, exchange.shows? = some (.update, kind, id, hash) := by
  obtain ⟨request, answer⟩ := exchange
  obtain ⟨names, succeeds⟩ := accepts
  cases answer with
  | error error => nomatch succeeds
  | ok value =>
      dsimp only at names
      unfold Request.update? at names
      split at names
      all_goals cases names
      all_goals exact ⟨_, rfl⟩

namespace Cloud

variable {cloud start final : Cloud} {kind : Guarded} {id : ResourceId} {request : Request}

/-- A call of an update succeeds exactly with the stored hash, unless a failure was announced. -/
theorem call_update_isOk {given : String} (names : request.update? = some (kind, id, given))
    (quiet : request.endpoint.takeFirst cloud.failures = none) :
    (call request cloud).1.isOk ↔ cloud.settingsHash? kind id = some given := by
  have stored : ∀ failures, (cloud.logging request failures).settingsHash? kind id =
      cloud.settingsHash? kind id := by
    intro failures
    cases kind <;> exact rfl
  refine call_elim (motive := fun answer _ =>
    answer.isOk ↔ cloud.settingsHash? kind id = some given) ?_ ?_
  · intro error failures found
    rw [quiet] at found
    nomatch found
  · intro _
    apply (answerRequest_update names _).mono
    · intro value after accepted
      rw [stored] at accepted
      exact ⟨fun _ => accepted, fun _ => rfl⟩
    · intro error after refused
      rw [stored] at refused
      exact ⟨nofun, fun same => absurd same refused.1⟩

/-- An accepted update has named the stored hash. -/
theorem call_update_accepted {given : String}
    (accepts : (cloud.exchange request).Accepts kind id given) :
    cloud.settingsHash? kind id = some given := by
  cases quiet : request.endpoint.takeFirst cloud.failures with
  | none => exact (call_update_isOk accepts.1 quiet).mp accepts.2
  | some announcement =>
      have refused : (cloud.exchange request).answer.isOk = false := by
        rw [exchange, call, quiet]
        rfl
      exact nomatch refused.symm.trans accepts.2

/-- A refused update moves the counter, the log and the announcements, and nothing else. -/
theorem call_update_refused {given : String} (names : request.update? = some (kind, id, given))
    (refused : ¬ (call request cloud).1.isOk) :
    (call request cloud).2 =
      { cloud with
        lastId := (call request cloud).2.lastId
        calls := (call request cloud).2.calls
        failures := (call request cloud).2.failures } := by
  revert refused
  refine call_elim (motive := fun answer after => ¬ answer.isOk →
    after = { cloud with
      lastId := after.lastId
      calls := after.calls
      failures := after.failures }) ?_ ?_
  · intro error failures found _
    exact rfl
  · intro quiet
    apply (answerRequest_update names _).mono
    · intro value after accepted refused
      exact absurd rfl refused
    · intro error after refused _
      rw [refused.2]
      exact rfl

/-- Once a run has created a record, the hash of the record stays above a floor. -/
theorem Run.hashAbove {past later : List Exchange} {creation : Exchange}
    (run : Run start (past ++ creation :: later) final) (creates : creation.Creates kind id) :
    ∃ floor, final.HashAbove floor kind id := by
  obtain ⟨before, -, creating⟩ := run.split
  obtain ⟨cloud, request, -, counted, rfl, rest⟩ := creating.uncons
  obtain ⟨hash, shows⟩ := creates
  exact ⟨cloud.lastId, (hashAbove_of_shows counted shows nofun).run rest⟩

/-- The hash that an exchange hands out is a number that the run has drawn. -/
theorem Run.handsOut_drawn {past later early : List Exchange} {creation handout : Exchange}
    {hash : String} (run : Run start (early ++ [handout]) final)
    (creates : creation.Creates kind id) (created : early ++ [handout] = past ++ creation :: later)
    (hands : handout.HandsOut kind id hash) :
    ∃ number, hash = hashText number ∧ number ≤ final.lastId := by
  obtain ⟨middle, before, last⟩ := run.split
  obtain ⟨cloud, request, silent, counted, rfl, rest⟩ := last.uncons
  have handed := before.append (silent.append (.call request counted (.done _)))
  rw [List.nil_append, created] at handed
  obtain ⟨floor, above⟩ := handed.hashAbove creates
  obtain ⟨occasion, shows⟩ := hands
  have stored := ((call_effect counted kind).shows _ _ _ _ shows).1
  obtain ⟨number, text, -, drawn⟩ := above.drawn hash stored
  exact ⟨number, text, UInt64.le_trans drawn rest.lastId_le⟩

/-- After an accepted update no update succeeds with a number that was drawn before it. -/
theorem Run.no_accepts_after {between : List Exchange} {other update : Exchange} {number : UInt64}
    {given : String} (run : Run start (other :: between ++ [update]) final)
    (old : number ≤ start.lastId) (accepted : other.Accepts kind id given) :
    ¬ update.Accepts kind id (hashText number) := by
  intro accepts
  obtain ⟨middle, before, last⟩ := run.split
  obtain ⟨cloud, request, silent, counted, rfl, rest⟩ := before.uncons
  obtain ⟨current, updating, quiet, -, rfl, -⟩ := last.uncons
  obtain ⟨hash, shows⟩ := accepted.shows
  have above := ((hashAbove_of_shows counted shows nofun).run rest).run quiet
  obtain ⟨drawn, text, beyond, -⟩ := above.drawn _ (call_update_accepted accepts)
  rw [hashText_injective text] at old
  have below := UInt64.le_trans old silent.lastId_le
  exact UInt64.not_lt.mpr below beyond

/-- No update of a record succeeds between an exchange that hands out its hash and an update that
succeeds with this hash. -/
theorem Run.nothing_between {past later before between after : List Exchange}
    {creation handout update other : Exchange} {hash given : String}
    (run : Run start (past ++ creation :: later) final) (creates : creation.Creates kind id)
    (order : creation :: later = before ++ handout :: (between ++ update :: after))
    (hands : handout.HandsOut kind id hash) (accepts : update.Accepts kind id hash)
    (inside : other ∈ between) : ¬ other.Accepts kind id given := by
  intro accepted
  obtain ⟨early, late, rfl⟩ := List.append_of_mem inside
  -- The exchanges up to the handout begin with the creation.
  obtain ⟨shown, prefixed⟩ : ∃ shown, before ++ [handout] = creation :: shown := by
    cases before with
    | nil =>
        obtain ⟨rfl, -⟩ := List.cons.inj order
        exact ⟨[], rfl⟩
    | cons head tail =>
        obtain ⟨rfl, -⟩ := List.cons.inj order
        exact ⟨tail ++ [handout], rfl⟩
  have parts : past ++ creation :: later =
      (past ++ before ++ [handout]) ++ (early ++ ((other :: late ++ [update]) ++ after)) := by
    rw [order]
    simp only [List.append_assoc, List.cons_append, List.nil_append]
  rw [parts] at run
  obtain ⟨middle, handing, rest⟩ := run.split
  obtain ⟨current, waiting, rest⟩ := rest.split
  obtain ⟨last, updating, -⟩ := rest.split
  obtain ⟨number, rfl, drawn⟩ := handing.handsOut_drawn creates
    (by rw [List.append_assoc, prefixed]) hands
  exact updating.no_accepts_after (UInt64.le_trans drawn waiting.lastId_le) accepted accepts

end Cloud

/-- A client is handed the hash of a record, and later sends one update with this hash. -/
structure Client (history : List Exchange) (kind : Guarded) (id : ResourceId) (hash : String) where
  readAt : Nat
  updateAt : Nat
  order : readAt < updateAt
  reads : ∃ exchange, history[readAt]? = some exchange ∧ exchange.HandsOut kind id hash
  updates : ∃ exchange, history[updateAt]? = some exchange ∧
    exchange.request.update? = some (kind, id, hash)

/-- A client succeeds when its update is answered. -/
def Client.Succeeds {history : List Exchange} {kind : Guarded} {id : ResourceId} {hash : String}
    (client : Client history kind id hash) : Prop :=
  ∃ exchange, history[client.updateAt]? = some exchange ∧ exchange.answer.isOk

/-- The update of a client that succeeds is accepted. -/
theorem Client.Succeeds.accepts {history : List Exchange} {kind : Guarded} {id : ResourceId}
    {hash : String} {client : Client history kind id hash} (succeeds : client.Succeeds) :
    ∃ exchange, history[client.updateAt]? = some exchange ∧ exchange.Accepts kind id hash := by
  obtain ⟨exchange, found, names⟩ := client.updates
  obtain ⟨same, foundSame, answered⟩ := succeeds
  rw [found] at foundSame
  cases foundSame
  exact ⟨exchange, found, names, answered⟩

/-- A history is divided at any of its exchanges. -/
theorem getElem?_split {history : List Exchange} {index : Nat} {exchange : Exchange}
    (found : history[index]? = some exchange) :
    history = history.take index ++ exchange :: history.drop (index + 1) := by
  obtain ⟨inside, rfl⟩ := List.getElem?_eq_some_iff.mp found
  rw [← List.drop_eq_getElem_cons, List.take_append_drop]

/-- Three exchanges in order split a history. -/
theorem split_three {history : List Exchange} {first second third : Nat}
    {early inner late : Exchange} (firstOrder : first < second) (secondOrder : second < third)
    (foundEarly : history[first]? = some early) (foundInner : history[second]? = some inner)
    (foundLate : history[third]? = some late) :
    ∃ before between after,
      history = before ++ early :: (between ++ late :: after) ∧ inner ∈ between := by
  have later : ∀ index, first < index →
      (history.drop (first + 1))[index - (first + 1)]? = history[index]? := by
    intro index after
    rw [List.getElem?_drop]
    congr 1
    omega
  have lateSplit := getElem?_split ((later third (by omega)).trans foundLate)
  have split := getElem?_split foundEarly
  rw [lateSplit] at split
  have inside : inner ∈ (history.drop (first + 1)).take (third - (first + 1)) := by
    have below : second - (first + 1) < third - (first + 1) := by omega
    have found := (List.getElem?_take_of_lt below).trans (later second firstOrder)
    exact List.mem_of_getElem? (found.trans foundInner)
  exact ⟨_, _, _, split, inside⟩

namespace Cloud

variable {start cloud : Cloud} {kind : Guarded} {id : ResourceId}

/-- A client does not succeed after another client that has read the same hash. -/
theorem Run.not_overtaken {past later : List Exchange} {creation : Exchange} {hash : String}
    (run : Run start (past ++ creation :: later) cloud) (creates : creation.Creates kind id)
    (first second : Client (creation :: later) kind id hash) (succeeds : first.Succeeds)
    (ahead : first.updateAt < second.updateAt) : ¬ second.Succeeds := by
  intro succeedsToo
  obtain ⟨handout, handoutFound, hands⟩ := first.reads
  obtain ⟨other, otherFound, accepted⟩ := succeeds.accepts
  obtain ⟨update, updateFound, accepts⟩ := succeedsToo.accepts
  obtain ⟨before, between, after, parts, inside⟩ :=
    split_three first.order ahead handoutFound otherFound updateFound
  exact run.nothing_between creates parts hands accepts inside accepted

/-- No update of a guarded record is lost. Take any run that has created the record, and any order
of its calls. An update succeeds exactly with the stored hash. When it succeeds, no other update
succeeded since its hash was handed out, so of all the clients that were handed one hash at most
one succeeds. A refused update leaves every record as it was. -/
theorem Run.no_lost_update {past later : List Exchange} {creation : Exchange}
    (run : Run start (past ++ creation :: later) cloud) (creates : creation.Creates kind id) :
    (∀ request given, request.update? = some (kind, id, given) →
      request.endpoint.takeFirst cloud.failures = none →
        ((Cloud.call request cloud).1.isOk ↔ cloud.settingsHash? kind id = some given)) ∧
    (∀ before handout between update after hash,
      creation :: later = before ++ handout :: (between ++ update :: after) →
        handout.HandsOut kind id hash → update.Accepts kind id hash →
          ∀ other ∈ between, ∀ given, ¬ other.Accepts kind id given) ∧
    (∀ hash, ∀ first second : Client (creation :: later) kind id hash,
      first.Succeeds → second.Succeeds → first.updateAt = second.updateAt) ∧
    (∀ request given, request.update? = some (kind, id, given) →
      ¬ (Cloud.call request cloud).1.isOk →
      (Cloud.call request cloud).2 =
        { cloud with
          lastId := (Cloud.call request cloud).2.lastId
          calls := (Cloud.call request cloud).2.calls
          failures := (Cloud.call request cloud).2.failures }) := by
  refine ⟨?_, ?_, ?_, ?_⟩
  · intro request given names quiet
    exact call_update_isOk names quiet
  · intro before handout between update after hash order hands accepts other inside given
    exact run.nothing_between creates order hands accepts inside
  · intro hash first second succeeds succeedsToo
    rcases Nat.lt_trichotomy first.updateAt second.updateAt with ahead | same | behind
    · exact absurd succeedsToo (run.not_overtaken creates first second succeeds ahead)
    · exact same
    · exact absurd succeeds (run.not_overtaken creates second first succeedsToo behind)
  · intro request given names refused
    exact call_update_refused names refused

/-- A local router that has just been created takes an update with the hash of its creation. -/
theorem Run.new_router_takes_update :
    (Cloud.call (.localRouter (.updateSettings ⟨1001⟩ default "hash-1002"))
      (Cloud.call (.localRouter (.create default)) .empty).2).1.isOk :=
  have run : Run .empty ([] ++ [exchange .empty (.localRouter (.create default))])
      (Cloud.call (.localRouter (.create default)) .empty).2 :=
    .call _ (by decide) (.done _)
  have creates : (exchange .empty (.localRouter (.create default))).Creates .localRouter ⟨1001⟩ :=
    ⟨"hash-1002", by decide⟩
  ((run.no_lost_update creates).1 _ "hash-1002" rfl rfl).mpr (by decide)

end Cloud

end Provisioning
