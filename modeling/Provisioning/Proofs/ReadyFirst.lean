import Provisioning.Proofs.Blueprints
import Provisioning.Proofs.Readiness

/-!
Follow-up work comes after readiness. The main statement holds for every build that creates a
resource and waits for it, against any remote: until a read shows the resource ready there are only
looks, and afterwards all calls concern this resource and send the hash of that read.
-/

namespace Provisioning

open Program

/-- A journal is gated when every resource of the kind is awaited after its creation. -/
def JournalGated (kind : Awaited) (journal : List (Entry CloudService)) : Prop :=
  Honest journal → ∀ before creation after id, journal = before ++ creation :: after →
    creation.created? = some ⟨kind, id⟩ → Gated ⟨kind, id⟩ after

/-- No request of these entries creates a resource that is awaited. -/
def Uncreated (journal : List (Entry CloudService)) : Prop :=
  ∀ entry ∈ journal, entry.request.creates? = none

/-- No entry of these has created a resource that is awaited. -/
theorem Uncreated.created? {journal : List (Entry CloudService)} (uncreated : Uncreated journal)
    {entry : Entry CloudService} (member : entry ∈ journal) : entry.created? = none := by
  cases created : entry.created? with
  | none => rfl
  | some subject =>
      exact absurd (uncreated entry member) (Entry.creates?_of_created? created)

/-- The calls after a creation create no further resource. -/
theorem Gated.uncreated {subject : Subject} {after : List (Entry CloudService)}
    (gated : Gated subject after) : Uncreated after := by
  have looking : ∀ {entries : List (Entry CloudService)},
      (∀ entry ∈ entries, entry.Looks subject) → Uncreated entries :=
    fun looks entry member => Request.creates?_of_reads? (looks entry member).reads
  cases gated with
  | waiting looks => exact looking looks
  | ready looks followUps read seen divided waits shows same ready follows =>
      rw [divided]
      intro entry member
      rcases List.mem_append.mp member with earlier | ⟨⟩ | ⟨_, later⟩
      · exact looking waits entry earlier
      · exact Request.creates?_of_reads? (Entry.reads?_of_sighting? shows)
      · exact follows.creates entry later

namespace JournalGated

variable {kind : Awaited} {journal : List (Entry CloudService)}

/-- A journal that creates no resource is gated. -/
theorem of_uncreated (none : ∀ entry ∈ journal, entry.created? = none) :
    JournalGated kind journal := by
  rintro - before creation after id rfl created
  nomatch (none creation (List.mem_append_right _ List.mem_cons_self)).symm.trans created

/-- The only creation of a journal divides it. -/
theorem of_creation {before after : List (Entry CloudService)} {creation : Entry CloudService}
    {id : ResourceId} (uncreated : Uncreated before)
    (created : creation.created? = some ⟨kind, id⟩)
    (gated : Honest after → Gated ⟨kind, id⟩ after) :
    JournalGated kind (before ++ creation :: after) := by
  intro honest history other later otherId divided createdToo
  rw [List.append_cons] at honest
  have gated := gated honest.of_append
  obtain ⟨rfl, rfl, rfl⟩ := division_unique
    (fun entry : Entry CloudService => entry.created? ≠ none) divided
    (fun none => nomatch none.symm.trans createdToo)
    (fun earlier member some => some (uncreated.created? member))
    fun last member some => some (gated.uncreated.created? member)
  cases created.symm.trans createdToo
  exact gated

end JournalGated

section Plans

variable {Store α β ρ γ : Type} {context : Context} {remote : Remote CloudService Store}
  {world : World (Observed CloudService Store)}

/-- A creation is written down as such when it succeeds. -/
def Creates (kind : Awaited) (idOf : γ → ResourceId) (create : Build γ) : Prop :=
  ∀ (Store : Type) (context : Context) (remote : Remote CloudService Store)
    (world : World (Observed CloudService Store)),
    Yields context remote.observed create world
      (fun created => Wrote (fun made => ∃ entry, made = [entry] ∧
        entry.created? = some ⟨kind, idOf created⟩) world)
      (fun _ => Wrote (fun made => ∃ entry, made = [entry] ∧ entry.created? = none) world)

/-- A wait is written down as looks and a read that shows the resource ready. -/
def Awaits [Awaitable ρ] (id : ResourceId) (wait : Build ρ) : Prop :=
  ∀ (Store : Type) (context : Context) (remote : Remote CloudService Store)
    (world : World (Observed CloudService Store)),
    Yields context remote.observed wait world
      (fun record => Wrote (fun made => ∃ looks read, made = looks ++ [read] ∧
        (∀ look ∈ looks, look.Looks ⟨Awaitable.kind ρ, id⟩) ∧
          read.sighting? = some (.of id record) ∧ (Sighting.of id record).Ready) world)
      (fun _ => Wrote (fun looks => ∀ look ∈ looks, look.Looks ⟨Awaitable.kind ρ, id⟩) world)

/-- A program follows a sighting when it writes down nothing but calls that may follow. -/
def Follows (subject : Subject) (seen : Sighting) (program : Build β) : Prop :=
  ∀ (Store : Type) (context : Context) (remote : Remote CloudService Store)
    (world : World (Observed CloudService Store)),
    Yields context remote.observed program world (fun _ => Wrote (FollowUps subject seen) world)
      (fun _ => Wrote (FollowUps subject seen) world)

/-- A plan that creates, waits and goes on is gated. -/
theorem yields_gated [Awaitable ρ] (idOf : γ → ResourceId) {create : Build γ}
    {wait : γ → Build ρ} {finish : γ → ρ → Build β} (uncreated : Uncreated world.store.journal)
    (creates : Creates (Awaitable.kind ρ) idOf create)
    (waits : ∀ created, Awaits (idOf created) (wait created))
    (follows : ∀ created record, Awaitable.id record = idOf created →
      Follows ⟨Awaitable.kind ρ, idOf created⟩ (.of (idOf created) record)
        (finish created record)) :
    Yields context remote.observed
      (create >>= fun created => wait created >>= fun record => finish created record) world
      (fun _ after => JournalGated (Awaitable.kind ρ) after.store.journal)
      (fun _ after => JournalGated (Awaitable.kind ρ) after.store.journal) := by
  rw [yields_bind]
  apply (creates Store context remote world).mono
  · rintro created now ⟨_, grown, creation, rfl, isCreation⟩
    rw [yields_bind]
    apply (waits created Store context remote now).mono
    · rintro record seen ⟨_, grownToo, looks, read, rfl, waited, shows, ready⟩
      have gated : ∀ after : World (Observed CloudService Store),
          (∃ made, after.store.journal = seen.store.journal ++ made ∧
            (Awaitable.id record = idOf created →
              FollowUps ⟨Awaitable.kind ρ, idOf created⟩ (.of (idOf created) record) made)) →
          JournalGated (Awaitable.kind ρ) after.store.journal := by
        rintro after ⟨made, grownLast, follow⟩
        have whole : after.store.journal =
            world.store.journal ++ creation :: (looks ++ read :: made) := by
          rw [grownLast, grownToo, grown]
          simp only [List.append_assoc, List.cons_append, List.nil_append]
        rw [whole]
        refine .of_creation uncreated isCreation fun honest => ?_
        have member : read ∈ looks ++ read :: made :=
          List.mem_append_right _ List.mem_cons_self
        exact .ready looks made read _ rfl waited shows rfl ready
          (follow (honest _ (List.mem_filterMap.mpr ⟨read, member, shows⟩)))
      -- A read that answers with another identifier is not honest, so nothing is claimed then.
      by_cases same : Awaitable.id record = idOf created
      · apply (follows created record same Store context remote seen).mono
        · rintro value after ⟨made, grownLast, follow⟩
          exact gated after ⟨made, grownLast, fun _ => follow⟩
        · rintro error after ⟨made, grownLast, follow⟩
          exact gated after ⟨made, grownLast, fun _ => follow⟩
      · apply (yields_wrote (finish created record)).mono
        · rintro value after ⟨made, grownLast, -⟩
          exact gated after ⟨made, grownLast, fun claimed => absurd claimed same⟩
        · rintro error after ⟨made, grownLast, -⟩
          exact gated after ⟨made, grownLast, fun claimed => absurd claimed same⟩
    · rintro error after ⟨looks, grownToo, waited⟩
      have whole : after.store.journal = world.store.journal ++ creation :: looks := by
        rw [grownToo, grown]
        simp only [List.append_assoc, List.cons_append, List.nil_append]
      rw [whole]
      exact .of_creation uncreated isCreation fun _ => .waiting waited
  · rintro error after ⟨_, grown, creation, rfl, failed⟩
    rw [grown]
    refine .of_uncreated fun entry member => ?_
    rcases List.mem_append.mp member with earlier | last
    · exact uncreated.created? earlier
    · exact List.mem_singleton.mp last ▸ failed

/-- What is looked up or prepared before does not create the resource. -/
theorem yields_gated_after {check : Build α} {plan : α → Build β} {kind : Awaited}
    (checks : Orderly (fun request => request.creates? = none) check.run)
    (uncreated : Uncreated world.store.journal)
    (plans : ∀ value now, Uncreated now.store.journal →
      Yields context remote.observed (plan value) now
        (fun _ after => JournalGated kind after.store.journal)
        (fun _ after => JournalGated kind after.store.journal)) :
    Yields context remote.observed (check >>= plan) world
      (fun _ after => JournalGated kind after.store.journal)
      (fun _ after => JournalGated kind after.store.journal) := by
  have quiet : ∀ after : World (Observed CloudService Store),
      Wrote (fun made => ∀ entry ∈ made, entry.request.creates? = none) world after →
      Uncreated after.store.journal := by
    rintro after ⟨made, grown, unmade⟩ entry member
    rw [grown] at member
    exact (List.mem_append.mp member).elim (uncreated entry) (unmade entry)
  rw [yields_bind]
  apply checks.wrote.mono
  · exact fun value now written => plans value now (quiet now written)
  · intro error after written
    exact .of_uncreated fun entry member => (quiet after written).created? member

/-- A call that creates is a creation. -/
theorem Creates.call {kind : Awaited} {label : String} {request : Request}
    {idOf : request.Answer → ResourceId}
    (creates : ∀ record started completed,
      Entry.created? ⟨request, .ok record, started, completed⟩ = some ⟨kind, idOf record⟩) :
    Creates kind idOf (Build.call label request) := by
  intro Store context remote world
  apply Yields.called
  · exact fun record after written => ⟨_, written, _, rfl, creates record _ _⟩
  · exact fun error after written => ⟨_, written, _, rfl, Entry.created?_of_error rfl⟩

/-- A wait until a resource is ready awaits it when its look reads the resource. -/
theorem Awaits.untilReady {resource : String} {id : ResourceId} {request : Request}
    [Awaitable request.Answer] {options : WaitOptions}
    (reads : request.reads? = some ⟨Awaitable.kind request.Answer, id⟩)
    (shows : ∀ record started completed,
      Entry.sighting? ⟨request, .ok record, started, completed⟩ = some (.of id record)) :
    Awaits id (Wait.untilReady resource id (Build.attempt request) options) :=
  fun _ _ _ _ => Wait.untilReady_wrote reads shows

namespace Follows

variable {subject : Subject} {seen : Sighting}

/-- An orderly program of plain calls follows any sighting. -/
theorem of_plain {program : Build β}
    (plain : Orderly (fun request => request.Plain subject) program.run) :
    Follows subject seen program := by
  intro Store context remote world
  apply plain.wrote.mono
  · exact fun _ _ ⟨made, grown, plain⟩ => ⟨made, grown, .of_plain plain⟩
  · exact fun _ _ ⟨made, grown, plain⟩ => ⟨made, grown, .of_plain plain⟩

/-- Before an update there are plain calls that read nothing, and after it there are plain calls. -/
theorem of_update {label : String} {connect : Build Unit} {update : Request}
    {conclude : Build β} {sent : String}
    (connects : Orderly (fun request => request.Plain subject ∧ request.reads? = none) connect.run)
    (updates : update.Updates subject sent) (sees : seen.settingsHash = some sent)
    (concludes : Orderly (fun request => request.Plain subject) conclude.run) :
    Follows subject seen (connect >>= fun _ => Build.call label update >>= fun _ => conclude) := by
  intro Store context remote world
  rw [yields_bind]
  apply connects.wrote.mono
  · rintro - now ⟨earlier, grown, plain⟩
    have sends : ∀ (answer : Except RemoteError update.Answer)
        (after last : World (Observed CloudService Store)),
        after.store.journal = now.store.journal ++
          [⟨update, answer, now.timeline, after.timeline⟩] →
        Wrote (fun made => ∀ entry ∈ made, entry.request.Plain subject) after last →
        Wrote (FollowUps subject seen) world last := by
      rintro answer after last written ⟨later, grownLast, plainToo⟩
      refine ⟨earlier ++ ⟨update, answer, now.timeline, after.timeline⟩ :: later, ?_,
        .of_update plain updates sees plainToo⟩
      rw [grownLast, written, grown]
      simp only [List.append_assoc, List.cons_append, List.nil_append]
    rw [yields_bind]
    apply Yields.called
    · intro record after written
      apply concludes.wrote.mono
      · exact fun _ last plainToo => sends _ after last written plainToo
      · exact fun _ last plainToo => sends _ after last written plainToo
    · intro error after written
      exact sends _ after after written ⟨[], (List.append_nil _).symm, List.forall_mem_nil _⟩
  · exact fun _ _ ⟨made, grown, plain⟩ =>
      ⟨made, grown, .of_plain fun call member => (plain call member).1⟩

end Follows

end Plans

section Builds

variable {Store : Type} {context : Context} {remote : Remote CloudService Store}
  {world : World (Observed CloudService Store)} {zone : Zone}

theorem VpcRouterBlueprint.build_gated (blueprint : VpcRouterBlueprint)
    (uncreated : Uncreated world.store.journal) :
    Yields context remote.observed (blueprint.build zone) world
      (fun _ after => JournalGated .vpcRouter after.store.journal)
      (fun _ after => JournalGated .vpcRouter after.store.journal) := by
  rw [build_eq]
  apply yields_gated_after (blueprint.validate_orderly.mono fun _ => Request.creates?_of_looks)
    uncreated
  intro _ now uncreated
  refine yields_gated VpcRouter.id uncreated (.call fun _ _ _ => rfl)
    (fun created => .untilReady rfl fun _ _ _ => rfl) fun created ready same => ?_
  have subject : ready.id = created.id := same
  refine .of_update ?_ ?_ rfl ?_
  · exact blueprint.connectNics_orderly fun _ _ => ⟨.of_subject rfl rfl rfl rfl, rfl⟩
  · rw [subject]
    exact ⟨rfl, rfl, ⟨_, _, rfl⟩, rfl⟩
  · refine blueprint.conclude_orderly ready ?_ (.of_subject rfl rfl rfl rfl)
      (.of_subject rfl rfl rfl rfl)
    rw [subject]
    exact .of_subject rfl rfl rfl rfl

theorem MobileGatewayBlueprint.build_gated (blueprint : MobileGatewayBlueprint)
    (uncreated : Uncreated world.store.journal) :
    Yields context remote.observed (blueprint.build zone) world
      (fun _ after => JournalGated .mobileGateway after.store.journal)
      (fun _ after => JournalGated .mobileGateway after.store.journal) := by
  rw [build_eq]
  apply yields_gated_after (blueprint.validate_orderly.mono fun _ => Request.creates?_of_looks)
    uncreated
  intro _ now uncreated
  refine yields_gated MobileGateway.id uncreated (.call fun _ _ _ => rfl)
    (fun created => .untilReady rfl fun _ _ _ => rfl) fun created ready same => ?_
  have subject : ready.id = created.id := same
  refine .of_update ?_ ?_ rfl ?_
  · exact blueprint.connect_orderly fun _ => ⟨.of_subject rfl rfl rfl rfl, rfl⟩
  · rw [subject]
    exact ⟨rfl, rfl, ⟨_, _, rfl⟩, rfl⟩
  · refine blueprint.conclude_orderly ready ?_ (fun _ => .of_subject rfl rfl rfl rfl)
      (fun _ => .of_subject rfl rfl rfl rfl) (fun _ _ => .of_none rfl rfl rfl rfl)
      (fun _ => .of_subject rfl rfl rfl rfl) (.of_subject rfl rfl rfl rfl)
      (.of_subject rfl rfl rfl rfl)
    rw [subject]
    exact .of_subject rfl rfl rfl rfl

theorem ContainerRegistryBlueprint.build_gated (blueprint : ContainerRegistryBlueprint)
    (uncreated : Uncreated world.store.journal) :
    Yields context remote.observed blueprint.build world
      (fun _ after => JournalGated .containerRegistry after.store.journal)
      (fun _ after => JournalGated .containerRegistry after.store.journal) := by
  apply yields_gated_after (Orderly.lift blueprint.validate) uncreated
  intro _ now uncreated
  refine yields_gated ContainerRegistry.id uncreated (.call fun _ _ _ => rfl)
    (fun created => .untilReady rfl fun _ _ _ => rfl) fun created ready same => ?_
  refine .of_plain (Orderly.bind ?_ fun _ => .pure _)
  exact ContainerRegistryBlueprint.addUsers_orderly _ fun _ => .of_subject rfl rfl rfl rfl

theorem LocalRouterBlueprint.build_gated (blueprint : LocalRouterBlueprint)
    (uncreated : Uncreated world.store.journal) :
    Yields context remote.observed blueprint.build world
      (fun _ after => JournalGated .localRouter after.store.journal)
      (fun _ after => JournalGated .localRouter after.store.journal) := by
  apply yields_gated_after (blueprint.validate_orderly.mono fun _ => Request.creates?_of_looks)
    uncreated
  intro _ now uncreated
  refine yields_gated LocalRouter.id uncreated (.call fun _ _ _ => rfl)
    (fun created => .untilReady rfl fun _ _ _ => rfl) fun created ready same => ?_
  have updates : (blueprint.applySettings created.id ready.settingsHash >>= fun _ =>
      Pure.pure (BuildResult.ofId created.id)) = (Pure.pure () >>= fun _ =>
        Build.call "update local router settings" (.localRouter
          (.updateSettings created.id blueprint.settings ready.settingsHash)) >>= fun _ =>
            Pure.pure (BuildResult.ofId created.id)) := by
    simp only [applySettings, bind_assoc, pure_bind]
  rw [updates]
  exact .of_update (.pure _) ⟨rfl, rfl, ⟨_, _, rfl⟩, rfl⟩ rfl (.pure _)

/-- The parameters of a database follow the read that shows it up. -/
theorem DatabaseBlueprint.parameters_follow (blueprint : DatabaseBlueprint) (id : ResourceId)
    (seen : Sighting) :
    Follows ⟨.database, id⟩ seen (do
      let _ ← Wait.untilUp "database" id (Build.attempt (.database zone (.read id)))
        blueprint.timing.wait
      blueprint.applyParameters zone id
      return BuildResult.ofId id) := by
  intro Store context remote world
  have plain : ∀ {accepts : Database → Bool} {looks : List (Entry CloudService)},
      Fruitless (.database zone (.read id)) accepts looks →
      ∀ look ∈ looks, look.request.Plain ⟨.database, id⟩ := by
    rintro accepts looks fruitless look member
    obtain ⟨answer, started, completed, rfl, -⟩ := fruitless look member
    exact .of_reads? rfl
  rw [yields_bind]
  apply Wait.forState_wrote.mono
  · rintro record now ⟨_, grown, accepted, looks, started, completed, rfl, fruitless⟩
    let read : Entry CloudService := ⟨.database zone (.read id), .ok record, started, completed⟩
    have plainToo : ∀ call ∈ looks ++ [read], call.request.Plain ⟨.database, id⟩ := by
      intro call member
      rcases List.mem_append.mp member with earlier | last
      · exact plain fruitless call earlier
      · rw [List.mem_singleton.mp last]
        exact .of_reads? rfl
    rw [yields_bind, applyParameters, yields_ite]
    split
    next => exact ⟨_, grown, .of_plain plainToo⟩
    next =>
      have up : Lifecycle.runStatus record = some .up := eq_of_beq accepted
      have follows : ∀ answer started completed, FollowUps ⟨.database, id⟩ seen
          ((looks ++ [read]) ++ [⟨.database zone (.setParameters id blueprint.parameters), answer,
            started, completed⟩]) :=
        fun _ _ _ => .of_parameters plainToo (List.mem_append_right _ List.mem_cons_self) rfl rfl
          up rfl rfl rfl
      apply Yields.called
      · exact fun value after written =>
          ⟨_, written.trans (grown ▸ List.append_assoc _ _ _), follows _ _ _⟩
      · exact fun error after written =>
          ⟨_, written.trans (grown ▸ List.append_assoc _ _ _), follows _ _ _⟩
  · rintro error after ⟨looks, grown, fruitless⟩
    exact ⟨looks, grown, .of_plain (plain fruitless)⟩

theorem DatabaseBlueprint.build_gated (blueprint : DatabaseBlueprint)
    (uncreated : Uncreated world.store.journal) :
    Yields context remote.observed (blueprint.build zone) world
      (fun _ after => JournalGated .database after.store.journal)
      (fun _ after => JournalGated .database after.store.journal) := by
  apply yields_gated_after (blueprint.validate_orderly.mono fun _ => Request.creates?_of_looks)
    uncreated
  intro _ now uncreated
  exact yields_gated Database.id uncreated (.call fun _ _ _ => rfl)
    (fun created => .untilReady rfl fun _ _ _ => rfl)
    fun created ready same => blueprint.parameters_follow created.id _

theorem DiskBlueprint.build_gated (blueprint : DiskBlueprint) (serverId : ResourceId)
    (timing : Timing) (uncreated : Uncreated world.store.journal) :
    Yields context remote.observed (blueprint.build zone serverId timing) world
      (fun _ after => JournalGated .disk after.store.journal)
      (fun _ after => JournalGated .disk after.store.journal) := by
  apply yields_gated_after (blueprint.validate_orderly.mono fun _ => Request.creates?_of_looks)
    uncreated
  intro _ now uncreated
  refine yields_gated_after (blueprint.prepare_orderly serverId
    (fun _ => Request.creates?_of_looks) (fun _ => rfl) fun _ => rfl) uncreated ?_
  intro prepared now uncreated
  cases prepared with
  | none =>
      have connects : Orderly (fun request => request.creates? = none)
          (connect zone blueprint.targetId serverId).run := connect_orderly _ _ fun _ => rfl
      rw [← bind_pure (connect zone blueprint.targetId serverId)]
      exact yields_gated_after connects uncreated fun _ _ quiet =>
        .of_uncreated fun _ member => quiet.created? member
  | some creation =>
      have creates : Creates .disk Disk.id (create zone blueprint.spec creation) := by
        rw [create]
        split <;> exact .call fun _ _ _ => rfl
      simp only [awaitReady, bind_assoc, pure_bind]
      refine yields_gated Disk.id uncreated creates
        (fun created => .untilReady rfl fun _ _ _ => rfl) fun created ready same => ?_
      refine .of_plain (Orderly.bind ?_ fun _ => .pure _)
      exact creation.artifacts.dispose_orderly (fun _ _ => .of_none rfl rfl rfl rfl)
        fun _ _ => .of_none rfl rfl rfl rfl

end Builds

namespace Blueprint

/-- A build creates a resource of this kind and waits for it. The build of a server creates disks,
each of which is awaited by a build of its own. -/
def awaited? : Blueprint → Option Awaited
  | disk .. => some .disk
  | server .. => none
  | database .. => some .database
  | vpcRouter .. => some .vpcRouter
  | mobileGateway .. => some .mobileGateway
  | containerRegistry _ => some .containerRegistry
  | localRouter _ => some .localRouter

/-- Follow-up work comes after readiness, whatever the remote answers, provided that a read shows a
record with the identifier that it asks for. Take a build that creates a resource and waits for it.
After the creation there are only looks at the resource until a read shows it ready. Only then other
calls follow. They are addressed to the resource that was created, updates send the hash of this
last read, and the parameters of a database are set after a read that shows it up. -/
theorem build_is_gated (blueprint : Blueprint) {Store : Type} (context : Context)
    (remote : Remote CloudService Store) (world : World Store) (kind : Awaited)
    (awaits : blueprint.awaited? = some kind)
    (honest : Honest (blueprint.build.run.journal context remote world))
    (before after : List (Entry CloudService)) (creation : Entry CloudService) (id : ResourceId)
    (divided : blueprint.build.run.journal context remote world = before ++ creation :: after)
    (created : creation.created? = some ⟨kind, id⟩) : Gated ⟨kind, id⟩ after := by
  have gated : Yields context remote.observed blueprint.build world.watched
      (fun _ after => JournalGated kind after.store.journal)
      (fun _ after => JournalGated kind after.store.journal) := by
    have uncreated :
        Uncreated (world.watched : World (Observed CloudService Store)).store.journal :=
      List.forall_mem_nil _
    cases blueprint with
    | disk zone serverId timing blueprint =>
        cases awaits
        exact blueprint.build_gated serverId timing uncreated
    | server zone blueprint => nomatch awaits
    | database zone blueprint =>
        cases awaits
        exact blueprint.build_gated uncreated
    | vpcRouter zone blueprint =>
        cases awaits
        exact blueprint.build_gated uncreated
    | mobileGateway zone blueprint =>
        cases awaits
        exact blueprint.build_gated uncreated
    | containerRegistry blueprint =>
        cases awaits
        exact blueprint.build_gated uncreated
    | localRouter blueprint =>
        cases awaits
        exact blueprint.build_gated uncreated
  have journal := Yields.journal
    (fun _ (_ : World Store) journal => JournalGated kind journal) gated
  exact journal honest before creation after id divided created

/-- A local router is read while it migrates and once more, and then its settings are sent. -/
theorem local_router_is_awaited :
    let spec : LocalRouterBlueprint :=
      { (default : LocalRouterBlueprint) with
        name := "router"
        switch := { (default : LocalRouterSwitch) with code := "code" }
        interface := some { (default : LocalRouterInterface) with
          ipAddresses := [default, default], networkMaskLen := 24 }
        timing := .uniform 1 5 }
    let journal := (Blueprint.localRouter spec).build.run.journal default Cloud.remote
      ⟨default, Cloud.empty⟩
    ∃ creation after, journal = creation :: after ∧ after.length = 3 ∧
      Gated ⟨.localRouter, ⟨1001⟩⟩ after := by
  intro spec journal
  have honest : Honest journal := by decide
  have length : journal.length = 4 := by decide
  have creates : journal.head?.bind Entry.created? = some ⟨.localRouter, ⟨1001⟩⟩ := by decide
  obtain ⟨creation, after, divided⟩ := List.exists_cons_of_length_eq_add_one length
  rw [divided] at length creates
  exact ⟨creation, after, divided, Nat.succ.inj length,
    build_is_gated (.localRouter spec) default Cloud.remote ⟨default, Cloud.empty⟩ .localRouter rfl
      honest [] after creation ⟨1001⟩ divided creates⟩

end Blueprint

end Provisioning
