import Provisioning.Proofs.Integrity
import Provisioning.Proofs.Links

/-!
The links between the servers and the disks of a cloud. Every call writes both sides of a link, but
a connection does not take the disk off the list of its former server, and it does not ask whether
the disk is on the list already. The main statement tells which half of the agreement holds in every
run, and that the other half holds exactly as long as no call puts a disk on a list again.
-/

namespace Provisioning

namespace Cloud

open CloudStep

variable {cloud after : Cloud} {ρ β : Type}

/-- These are the records as a view shows them. -/
def shown (view : ρ → β) (records : Records ρ) (id : ResourceId) : Option β :=
  (records.get? id).map view

/-- A record that is stored is shown under its identifier. -/
theorem shown_insert (view : ρ → β) (records : Records ρ) (id : ResourceId) (record : ρ) :
    shown view (records.insert id record) =
      Function.update (shown view records) id (some (view record)) := by
  ext1 other
  rw [shown, SortedMap.get?_insert, Function.update_apply]
  split <;> rfl

/-- A record that is removed is not shown any more. -/
theorem shown_erase (view : ρ → β) (records : Records ρ) (id : ResourceId) :
    shown view (records.erase id) = Function.update (shown view records) id none := by
  ext1 other
  rw [shown, SortedMap.get?_erase, Function.update_apply]
  split <;> rfl

/-- What a view does not show may be written into a record. -/
theorem shown_insert_of_hidden {view : ρ → β} {records : Records ρ} {id : ResourceId}
    {record next : ρ} (stored : records.get? id = some record) (hidden : view next = view record) :
    shown view (records.insert id next) = shown view records := by
  have same : shown view records id = some (view next) := by
    rw [shown, stored, hidden]
    rfl
  rw [shown_insert, ← same, Function.update_eq_self]

/-- These are the lists of disks that the servers of a cloud have. -/
def diskLists (cloud : Cloud) : ResourceId → Option (List ResourceId) :=
  shown Server.diskIds cloud.servers

/-- These are the servers that the disks of a cloud name. -/
def diskHomes (cloud : Cloud) : ResourceId → Option ResourceId := shown Disk.serverId cloud.disks

/-- A new disk is accepted if it names a server or none. -/
def AcceptsDisk (cloud : Cloud) (request : DiskCreateRequest) : Prop :=
  request.serverId = .unset ∨ (cloud.diskLists request.serverId).isSome

end Cloud

/-- A call about disks puts a disk on a list again when it connects a disk that is on the list
already, or a stored disk that is on another list, or when a new disk gets an identifier that an
earlier call has put on a list. -/
def DiskCall.Relists (cloud : Cloud) : DiskCall → Prop
  | .create request _ | .createWithConfig request _ _ _ =>
      cloud.AcceptsDisk request ∧ Cloud.Listed cloud.diskLists ⟨cloud.lastId + 1⟩
  | .connectToServer id serverId => ∃ list, cloud.diskLists serverId = some list ∧
      (id ∈ list ∨ (cloud.diskHomes id).isSome ∧ Cloud.Listed cloud.diskLists id)
  | .read _ | .update _ _ | .delete _ | .config _ _ => False

namespace Cloud

open CloudStep

variable {cloud after : Cloud}

/-- Only a call that is answered puts a disk on a list again. -/
def Relists (cloud : Cloud) (request : Request) : Prop :=
  request.endpoint.takeFirst cloud.failures = none ∧
    match request with
    | .disk _ call => call.Relists cloud
    | _ => False

/-- A call relinks the disks of a cloud when it does to their lists and homes what may become of
them. -/
def RelinksTo (cloud after : Cloud) (drawn relists : Prop) : Prop :=
  Relinks cloud.diskLists cloud.diskHomes ⟨cloud.lastId + 1⟩ drawn relists after.diskLists
    after.diskHomes

/-- A call relinks its cloud when the lists and the homes have become what they may become. -/
theorem Relinks.of_eq {drawn relists : Prop}
    {newLists : ResourceId → Option (List ResourceId)} {newHomes : ResourceId → Option ResourceId}
    (relinks : Relinks cloud.diskLists cloud.diskHomes ⟨cloud.lastId + 1⟩ drawn relists newLists
      newHomes)
    (lists : after.diskLists = newLists) (homes : after.diskHomes = newHomes) :
    cloud.RelinksTo after drawn relists := by
  rw [RelinksTo, lists, homes]
  exact relinks

section Answers

variable {drawn relists : Prop}

/-- A new disk is attached to the server that it names. -/
theorem withDisk_relinks {request : DiskCreateRequest} (edit : Option DiskEditRequest)
    (accepted : cloud.AcceptsDisk request)
    (again : relists ↔ cloud.AcceptsDisk request ∧ Listed cloud.diskLists ⟨cloud.lastId + 1⟩) :
    cloud.RelinksTo (cloud.withDisk request edit) drawn relists := by
  have lists : (cloud.withDisk request edit).diskLists =
      Function.update cloud.diskLists request.serverId
        ((cloud.diskLists request.serverId).map (· ++ [⟨cloud.lastId + 1⟩])) := by
    ext1 server
    rw [diskLists, shown, withDisk, SortedMap.get?_modify, Function.update_apply]
    split
    next here =>
      rw [here, diskLists, shown, Option.map_map, Option.map_map]
      rfl
    next => rfl
  have homes : (cloud.withDisk request edit).diskHomes =
      Function.update cloud.diskHomes ⟨cloud.lastId + 1⟩ (some request.serverId) :=
    shown_insert _ _ _ _
  have attached := again.trans (and_iff_right accepted)
  exact Relinks.of_eq (.diskAttached _ _ accepted attached) lists homes

/-- The creation of a disk relinks the cloud, and it puts the disk on a list again when an earlier
call has put its identifier there. -/
theorem createDisk_relinks (request : DiskCreateRequest) (edit : Option DiskEditRequest)
    (again : relists ↔ cloud.AcceptsDisk request ∧ Listed cloud.diskLists ⟨cloud.lastId + 1⟩) :
    (createDisk request edit).Yields cloud (fun _ after => cloud.RelinksTo after drawn relists)
      (fun _ after => cloud.RelinksTo after drawn relists) := by
  rw [yields_createDisk]
  split
  next absent => exact withDisk_relinks edit (.inl (ResourceId.set?_eq_none absent)) again
  next serverId named =>
    have same := ResourceId.set?_eq_some named
    split
    next missing =>
      refine Relinks.of_eq (.kept fun relists => ?_) rfl rfl
      rcases (again.mp relists).1 with unset | known
      · rw [unset] at named
        nomatch named
      · rw [diskLists, shown, same, missing] at known
        nomatch known
    next server stored =>
      refine withDisk_relinks edit (.inr ?_) again
      rw [diskLists, shown, same, stored]
      rfl

/-- A stored disk is attached to a server, and an absent disk is put on its list all the same. -/
theorem connectDisk_relinks (id serverId : ResourceId)
    (again : relists ↔ ∃ list, cloud.diskLists serverId = some list ∧
      (id ∈ list ∨ (cloud.diskHomes id).isSome ∧ Listed cloud.diskLists id)) :
    (connectDisk id serverId).Yields cloud (fun _ after => cloud.RelinksTo after drawn relists)
      (fun _ after => cloud.RelinksTo after drawn relists) := by
  rw [connectDisk, yields_bind]
  cases stored : cloud.diskLists serverId with
  | none =>
      rw [stored] at again
      apply Yields.change_absent serverTable serverId (Option.map_eq_none_iff.mp stored)
      have quiet : ¬ relists := fun relists =>
        absurd (again.mp relists).choose_spec.1.symm (Option.some_ne_none _)
      exact Relinks.of_eq (.kept quiet) rfl rfl
  | some list =>
      obtain ⟨server, found, rfl⟩ := Option.map_eq_some_iff.mp stored
      rw [stored] at again
      simp only [Option.some.injEq, exists_eq_left'] at again
      have longer : shown Server.diskIds (cloud.servers.insert serverId
          { server with diskIds := server.diskIds ++ [id] }) =
            Function.update cloud.diskLists serverId (some (server.diskIds ++ [id])) :=
        shown_insert _ _ _ _
      apply Yields.change serverTable serverId found
      rw [yields_bind]
      cases home : cloud.diskHomes id with
      | none =>
          have absent : cloud.disks.get? id = none := Option.map_eq_none_iff.mp home
          rw [home] at again
          have missed : relists ↔ id ∈ server.diskIds :=
            again.trans (or_iff_left fun both => Bool.false_ne_true both.1)
          refine Yields.change_absent diskTable id absent ?_
          exact Relinks.of_eq (.diskMissed id serverId _ home stored missed) longer rfl
      | some former =>
          obtain ⟨disk, present, rfl⟩ := Option.map_eq_some_iff.mp home
          rw [home] at again
          have listed : id ∈ server.diskIds → Listed cloud.diskLists id :=
            fun member => ⟨serverId, server.diskIds, stored, member⟩
          have attached : relists ↔ Listed cloud.diskLists id :=
            again.trans ⟨fun either => either.elim listed And.right, fun other => .inr ⟨rfl, other⟩⟩
          have known : (cloud.diskLists serverId).isSome := Option.isSome_of_eq_some stored
          refine Yields.change diskTable id present ?_
          refine Relinks.of_eq (.diskAttached id serverId (.inr known) attached) ?_ ?_
          · rw [stored]
            exact longer
          · exact shown_insert _ _ _ _

end Answers

/-- A cloud has these lists and these homes. -/
def HasLinks (lists : ResourceId → Option (List ResourceId))
    (homes : ResourceId → Option ResourceId) (cloud : Cloud) : Prop :=
  cloud.diskLists = lists ∧ cloud.diskHomes = homes

section Maintained

variable {α : Type} {lists : ResourceId → Option (List ResourceId)}
  {homes : ResourceId → Option ResourceId} {drawn relists : Prop}

/-- A step that writes nothing but the counter keeps lists and homes. -/
theorem links_of_prepares {step : CloudStep α} (prepares : Prepares step) :
    Maintains (HasLinks lists homes) step := by
  intro cloud links
  have kept (after : Cloud) (same : cloud.SameButCounter after) : HasLinks lists homes after := by
    rw [same]
    exact links
  exact (prepares cloud).mono (fun _ => kept) fun _ => kept

/-- A change of a server that keeps its disks keeps lists and homes. -/
theorem links_of_changeServer (id : ResourceId) {edit : Server → Server}
    (hidden : ∀ server, (edit server).diskIds = server.diskIds) :
    Maintains (HasLinks lists homes) (serverTable.change id edit) := by
  intro cloud links
  rw [yields_change]
  split
  next server stored =>
    exact ⟨(shown_insert_of_hidden stored (hidden server)).trans links.1, links.2⟩
  next => exact links

/-- A change of a disk that keeps its server keeps lists and homes. -/
theorem links_of_changeDisk (id : ResourceId) {edit : Disk → Disk}
    (hidden : ∀ disk, (edit disk).serverId = disk.serverId) :
    Maintains (HasLinks lists homes) (diskTable.change id edit) := by
  intro cloud links
  rw [yields_change]
  split
  next disk stored => exact ⟨links.1, (shown_insert_of_hidden stored (hidden disk)).trans links.2⟩
  next => exact links

/-- A change of an interface keeps lists and homes. -/
theorem links_of_changeInterface (id : ResourceId) (change : Interface → Interface) :
    Maintains (HasLinks lists homes) (changeInterface id change) := by
  intro cloud links
  rw [yields_changeInterface]
  split
  · exact links_of_changeServer _ (fun _ => by rfl) cloud links
  · exact links

/-- A step that maintains the links keeps them, and it puts no disk on a list again. -/
theorem relinks_of_maintains {step : CloudStep α} {drawnInVain : Prop} (quiet : ¬ relists)
    (maintains : Maintains (HasLinks cloud.diskLists cloud.diskHomes) step) :
    step.Yields cloud (fun _ after => cloud.RelinksTo after drawn relists)
      (fun _ after => cloud.RelinksTo after drawnInVain relists) :=
  (maintains cloud ⟨rfl, rfl⟩).mono
    (fun _ _ links => Relinks.of_eq (.kept quiet) links.1 links.2)
    fun _ _ links => Relinks.of_eq (.kept quiet) links.1 links.2

/-- A call about disks relinks the cloud, whether it succeeds or fails. -/
theorem answerDisk_relinks (call : DiskCall) :
    (answerDisk call).Yields cloud
      (fun _ after => cloud.RelinksTo after drawn (call.Relists cloud))
      (fun _ after => cloud.RelinksTo after drawn (call.Relists cloud)) := by
  cases call with
  | create request distantFrom => exact createDisk_relinks request none Iff.rfl
  | createWithConfig request edit bootAtAvailable distantFrom =>
      exact createDisk_relinks request (some edit) Iff.rfl
  | read id =>
      refine relinks_of_maintains (fun again => again) fun cloud links => ?_
      rw [answerDisk, yields_readSettling]
      split
      · exact links
      · split
        · exact links_of_changeDisk id (fun _ => by rfl) cloud links
        · split
          · exact links_of_prepares (prepares_find _ _) _ links
          · exact links_of_changeDisk id (fun _ => by rfl) _ links
  | update id request =>
      exact relinks_of_maintains (fun again => again) (links_of_changeDisk id fun _ => rfl)
  | delete id =>
      have quiet : ¬ DiskCall.Relists cloud (.delete id) := fun again => again
      rw [answerDisk, yields_remove]
      split
      · exact Relinks.of_eq (.diskDeleted id quiet) rfl (shown_erase _ _ _)
      · exact Relinks.of_eq (.kept quiet) rfl rfl
  | connectToServer id serverId => exact connectDisk_relinks id serverId Iff.rfl
  | config id edit =>
      refine relinks_of_maintains (fun again => again)
        ((links_of_changeDisk id fun _ => by rfl).bind fun _ => ?_)
      exact (maintains_modify fun _ links => by exact links).bind fun _ =>
        maintains_modify fun _ links => by exact links

/-- A server that changes its plan takes its list to its new number, and its disks follow it. -/
theorem changeServerPlan_relinks (id planId : ResourceId) {drawnInVain : Prop} (draws : drawn)
    (quiet : ¬ relists) :
    (changeServerPlan id planId).Yields cloud
      (fun _ after => cloud.RelinksTo after drawn relists)
      (fun _ after => cloud.RelinksTo after drawnInVain relists) := by
  have kept : cloud.RelinksTo cloud drawnInVain relists := Relinks.of_eq (.kept quiet) rfl rfl
  simp only [changeServerPlan, yields_bind, yields_findServerPlan, yields_find]
  split
  · split
    next former stored =>
      split
      · exact kept
      · have list : cloud.diskLists id = some former.diskIds := congrArg (Option.map _) stored
        refine Relinks.of_eq (.serverMoved id _ list draws quiet) ?_ ?_
        · refine (shown_insert _ _ _ _).trans ?_
          rw [shown_erase]
          rfl
        · ext1 disk
          change ((cloud.disks.mapValues _).get? disk).map _ = _
          rw [SortedMap.get?_mapValues, diskHomes, shown, Option.map_map, Option.map_map]
          congr 1
          ext1 record
          dsimp only [Function.comp_apply]
          split <;> rfl
    next => exact kept
  · exact kept

/-- A call about servers relinks the cloud and puts no disk on a list again. -/
theorem answerServer_relinks (zone : Zone) (call : ServerCall) (quiet : ¬ relists) :
    (answerServer call).Yields cloud
      (fun _ after => cloud.RelinksTo after (0 < (Request.server zone call).draws) relists)
      (fun _ after => cloud.RelinksTo after (0 < (Request.server zone call).drawsInVain)
        relists) := by
  cases call with
  | create request =>
      rw [answerServer, createServer, yields_bind, yields_findServerPlan]
      split
      · have new : 0 < (Request.server zone (.create request)).draws :=
          Nat.add_pos_left Nat.one_pos _
        rw [yields_bind, yields_allocate, yields_bind, yields_createInterfaces]
        exact Relinks.of_eq (.serverBuilt new quiet) (shown_insert _ _ _ _) rfl
      · exact Relinks.of_eq (.kept quiet) rfl rfl
  | read id => exact relinks_of_maintains quiet (links_of_prepares (prepares_find _ _))
  | update id request => exact relinks_of_maintains quiet (links_of_changeServer id fun _ => rfl)
  | delete id =>
      rw [answerServer, yields_remove]
      split
      · exact Relinks.of_eq (.serverDeleted id quiet) (shown_erase _ _ _) rfl
      · exact Relinks.of_eq (.kept quiet) rfl rfl
  | boot id | ejectCdrom id cdromId =>
      exact relinks_of_maintains quiet
        ((links_of_changeServer id fun _ => by rfl).bind fun _ => maintains_pure _)
  | shutdown id force =>
      exact relinks_of_maintains quiet ((links_of_changeServer id fun _ => by rfl).bind fun _ =>
        maintains_modify fun _ links => by exact links)
  | changePlan id planId => exact changeServerPlan_relinks id planId Nat.one_pos quiet
  | insertCdrom id cdromId =>
      exact relinks_of_maintains quiet ((links_of_prepares (prepares_find _ _)).bind fun _ =>
        (links_of_changeServer id fun _ => by rfl).bind fun _ => maintains_pure _)
  | connectToPacketFilter interfaceId packetFilterId =>
      exact relinks_of_maintains quiet ((links_of_prepares (prepares_find _ _)).bind fun _ =>
        links_of_changeInterface _ _)
  | updateInterface interfaceId request =>
      exact relinks_of_maintains quiet (links_of_changeInterface _ _)

end Maintained

/-- A call relinks the disks, and it puts a disk on a list again if it is one that does so. -/
theorem call_relinks (request : Request) (cloud : Cloud) :
    cloud.RelinksTo (call request cloud).2 (0 < cloud.drawn request) (cloud.Relists request) := by
  obtain ⟨failures, written⟩ := call_footprint request cloud
  cases request with
  | disk zone call =>
      refine call_elim (motive := fun _ after =>
        cloud.RelinksTo after (0 < cloud.drawn (.disk zone call)) (cloud.Relists (.disk zone call)))
        ?_ ?_
      · intro error failures announced
        have quiet : ¬ cloud.Relists (.disk zone call) := fun again =>
          nomatch again.1.symm.trans announced
        exact Relinks.of_eq (.kept quiet) rfl rfl
      · intro answered
        have same : cloud.Relists (.disk zone call) = call.Relists cloud :=
          propext (and_iff_right answered)
        rw [same]
        exact answerDisk_relinks call
  | server zone call =>
      have quiet : ¬ cloud.Relists (.server zone call) := fun again => again.2
      unfold drawn
      refine call_elim (motive := fun outcome after => cloud.RelinksTo after
        (0 < if ((Request.server zone call).endpoint.takeFirst cloud.failures).isSome then 0
          else if outcome.isOk then (Request.server zone call).draws
          else (Request.server zone call).drawsInVain) (cloud.Relists (.server zone call))) ?_ ?_
      · exact fun _ _ _ => Relinks.of_eq (.kept quiet) rfl rfl
      · intro answered
        rw [answered]
        exact (answerServer_relinks zone call quiet).mono (fun _ _ relinks => relinks)
          fun _ _ relinks => relinks
  | _ =>
      rw [written]
      exact Relinks.of_eq (.kept fun again => again.2) rfl rfl

/-- The disks of a cloud are housed when everything has its own key, and when every disk names a
server that the counter has reached and is on the list of that server, if it is there. -/
structure Housed (cloud : Cloud) : Prop where
  keyed : cloud.Keyed cloud.Reached
  named : ∀ disk home, cloud.diskHomes disk = some home → cloud.Reached home
  atHome : AtHome cloud.diskLists cloud.diskHomes

/-- An event puts a disk on a list again when it is a call that does so. -/
def RelistsAt (cloud : Cloud) : Event → Prop
  | .announce .. => False
  | .call request => cloud.Relists request

/-- Every event relinks the cloud, and it puts a disk on a list again exactly when it is a call that
does so. -/
theorem handle_relinks (cloud : Cloud) (event : Event) :
    cloud.RelinksTo (cloud.handle event) (0 < (cloud.numbers event).length)
      (cloud.RelistsAt event) := by
  cases event with
  | announce endpoint times error => exact Relinks.of_eq (.kept fun again => again) rfl rfl
  | call request =>
      rw [numbers, length_numbersAfter]
      exact call_relinks request cloud

section Housed

variable {event : Event}

/-- No disk names a server that is only going to be numbered. -/
theorem Housed.unnamed (housed : cloud.Housed)
    (room : cloud.lastId.toNat + (cloud.numbers event).length < UInt64.size)
    (drawn : 0 < (cloud.numbers event).length) (disk : ResourceId) :
    cloud.diskHomes disk ≠ some ⟨cloud.lastId + 1⟩ := by
  intro named
  have early := housed.named disk _ named
  have next : (cloud.lastId + 1).toNat = cloud.lastId.toNat + 1 := next_toNat (by omega)
  rw [Reached, next] at early
  omega

/-- The disks of a cloud are still housed after an event that does not overflow the counter. -/
theorem Housed.handle (housed : cloud.Housed) (event : Event)
    (room : cloud.lastId.toNat + (cloud.numbers event).length < UInt64.size) :
    (cloud.handle event).Housed := by
  have relinks := cloud.handle_relinks event
  have keyed := housed.keyed.handle_reached event room
  refine ⟨keyed, fun disk home named => ?_, relinks.atHome housed.atHome (housed.unnamed room)⟩
  rcases relinks.homes_named named with ⟨other, before⟩ | rfl | stored
  · have early := housed.named other home before
    rw [Reached] at early ⊢
    rw [handle_lastId_toNat room]
    omega
  · exact Nat.zero_le _
  · rw [diskLists, shown, Option.isSome_map] at stored
    obtain ⟨server, stored⟩ := Option.isSome_iff_exists.mp stored
    exact (keyed.servers home server stored).2

/-- The disks of a cloud are still housed after a run that does not overflow the counter. -/
theorem Housed.through (housed : cloud.Housed) (events : List Event)
    (room : cloud.lastId.toNat + (cloud.ledger events).length < UInt64.size) :
    (cloud.through events).Housed := by
  induction events generalizing cloud with
  | nil => exact housed
  | cons event rest inductionHypothesis =>
      rw [ledger, List.length_append] at room
      have roomNow : cloud.lastId.toNat + (cloud.numbers event).length < UInt64.size := by omega
      have next := handle_lastId_toNat roomNow
      exact inductionHypothesis (housed.handle event roomNow) (by omega)

end Housed

/-- The links of a cloud agree when a stored disk is on the list of exactly the stored server that
it names, and when no server lists a disk twice. -/
structure LinksAgree (cloud : Cloud) : Prop where
  agree : ∀ serverKey server diskKey disk, cloud.servers.get? serverKey = some server →
    cloud.disks.get? diskKey = some disk → (disk.id ∈ server.diskIds ↔ disk.serverId = server.id)
  once : ∀ serverKey server, cloud.servers.get? serverKey = some server → server.diskIds.Nodup

/-- Where everything has its own key, the links agree when lists and homes are linked. -/
theorem Keyed.linksAgree_iff {allowed : ResourceId → Prop} (keyed : cloud.Keyed allowed) :
    cloud.LinksAgree ↔ Linked cloud.diskLists cloud.diskHomes := by
  constructor
  · intro links
    constructor
    · intro serverKey list diskKey home stored named
      obtain ⟨server, found, rfl⟩ := Option.map_eq_some_iff.mp stored
      obtain ⟨disk, present, rfl⟩ := Option.map_eq_some_iff.mp named
      have agree := links.agree serverKey server diskKey disk found present
      rwa [(keyed.servers serverKey server found).1, (keyed.disks diskKey disk present).1] at agree
    · intro serverKey list stored
      obtain ⟨server, found, rfl⟩ := Option.map_eq_some_iff.mp stored
      exact links.once serverKey server found
  · intro linked
    constructor
    · intro serverKey server diskKey disk stored present
      rw [(keyed.servers serverKey server stored).1, (keyed.disks diskKey disk present).1]
      exact linked.agree serverKey _ diskKey _ (congrArg (Option.map _) stored)
        (congrArg (Option.map _) present)
    · exact fun serverKey server stored =>
        linked.once serverKey _ (congrArg (Option.map _) stored)

/-- An event keeps the links in agreement exactly if it puts no disk on a list again. -/
theorem Housed.linksAgree_handle_iff (housed : cloud.Housed) (agree : cloud.LinksAgree)
    (event : Event) (room : cloud.lastId.toNat + (cloud.numbers event).length < UInt64.size) :
    (cloud.handle event).LinksAgree ↔ ¬ cloud.RelistsAt event := by
  rw [(housed.keyed.handle_reached event room).linksAgree_iff]
  exact (cloud.handle_relinks event).linked_iff (housed.keyed.linksAgree_iff.mp agree)
    (housed.unnamed room)

/-- The links agree all along a run exactly if no event of the run puts a disk on a list again. -/
theorem Housed.linksAgree_through_iff (housed : cloud.Housed) (agree : cloud.LinksAgree)
    (events : List Event)
    (room : cloud.lastId.toNat + (cloud.ledger events).length < UInt64.size) :
    (∀ earlier, earlier <+: events → (cloud.through earlier).LinksAgree) ↔
      ∀ earlier event, earlier ++ [event] <+: events →
        ¬ (cloud.through earlier).RelistsAt event := by
  induction events generalizing cloud with
  | nil =>
      refine iff_of_true (fun earlier start => ?_) fun earlier event start => ?_
      · rw [List.prefix_nil.mp start]
        exact agree
      · nomatch List.append_eq_nil_iff.mp (List.prefix_nil.mp start)
  | cons event rest inductionHypothesis =>
      rw [ledger, List.length_append] at room
      have roomNow : cloud.lastId.toNat + (cloud.numbers event).length < UInt64.size := by omega
      have next := handle_lastId_toNat roomNow
      have step := housed.linksAgree_handle_iff agree event roomNow
      have goesOn (agreeNext : (cloud.handle event).LinksAgree) :=
        inductionHypothesis (housed.handle event roomNow) agreeNext (by omega)
      have here : [event] <+: event :: rest := List.cons_prefix_cons.mpr ⟨rfl, List.nil_prefix⟩
      constructor
      · intro agrees earlier last start
        have agreeNext := agrees [event] here
        cases earlier with
        | nil =>
            obtain ⟨rfl, -⟩ := List.cons_prefix_cons.mp start
            exact step.mp agreeNext
        | cons head tail =>
            obtain ⟨rfl, others⟩ := List.cons_prefix_cons.mp start
            refine (goesOn agreeNext).mp (fun earlier start => ?_) tail last others
            exact agrees (head :: earlier) (List.cons_prefix_cons.mpr ⟨rfl, start⟩)
      · intro quiet earlier start
        cases earlier with
        | nil => exact agree
        | cons head tail =>
            obtain ⟨rfl, others⟩ := List.cons_prefix_cons.mp start
            refine (goesOn (step.mpr (quiet [] head here))).mpr (fun earlier last start => ?_) tail
              others
            exact quiet (head :: earlier) last (List.cons_prefix_cons.mpr ⟨rfl, start⟩)

/-- Servers are seeded without disks, and disks without a server. -/
structure Unlinked (seeds : List Seed) : Prop where
  bare : ∀ server, Seed.server server ∈ seeds → server.diskIds = []
  loose : ∀ disk, Seed.disk disk ∈ seeds → disk.serverId.value.toNat ≤ 1000 ∧
    ∀ server, Seed.server server ∈ seeds → disk.serverId ≠ server.id

/-- In a cloud that is seeded without links no server has a disk and no disk has a server. -/
theorem seeded_unlinked (settleReads : Nat) {seeds : List Seed} (unlinked : Unlinked seeds) :
    Each (fun key server => server.diskIds = [] ∧ ∃ seed, Seed.server seed ∈ seeds ∧ seed.id = key)
        (seeded settleReads seeds).servers ∧
      Each (fun _ disk => disk.serverId.value.toNat ≤ 1000 ∧
        ∀ server, Seed.server server ∈ seeds → disk.serverId ≠ server.id)
        (seeded settleReads seeds).disks := by
  refine seeded_elim (motive := fun cloud => Each _ cloud.servers ∧ Each _ cloud.disks) settleReads
    seeds ⟨each_empty _, each_empty _⟩ ?_
  rintro cloud seed listed ⟨servers, disks⟩
  cases seed with
  | server server =>
      exact ⟨servers.insert ⟨unlinked.bare server listed, server, listed, rfl⟩, disks⟩
  | disk disk => exact ⟨servers, disks.insert (unlinked.loose disk listed)⟩
  | _ => exact ⟨servers, disks⟩

/-- A cloud that is seeded without links is housed, and its links agree. -/
theorem seeded_linksAgree (settleReads : Nat) {seeds : List Seed} (unlinked : Unlinked seeds)
    (early : ∀ seed ∈ seeds, ∀ id ∈ seed.ids, id.value.toNat ≤ 1000) :
    (seeded settleReads seeds).Housed ∧ (seeded settleReads seeds).LinksAgree := by
  have counter := seeded_lastId settleReads seeds
  obtain ⟨servers, disks⟩ := seeded_unlinked settleReads unlinked
  have keyed : (seeded settleReads seeds).Keyed (seeded settleReads seeds).Reached := by
    refine keyed_seeded settleReads seeds fun seed listed id inside => ?_
    rw [Reached, counter]
    exact early seed listed id inside
  have linked :
      Linked (seeded settleReads seeds).diskLists (seeded settleReads seeds).diskHomes := by
    constructor
    · intro key list disk home stored named
      obtain ⟨server, found, rfl⟩ := Option.map_eq_some_iff.mp stored
      obtain ⟨record, present, rfl⟩ := Option.map_eq_some_iff.mp named
      obtain ⟨bare, seed, listed, rfl⟩ := servers key server found
      rw [bare]
      exact iff_of_false (List.not_mem_nil) ((disks disk record present).2 seed listed)
    · intro key list stored
      obtain ⟨server, found, rfl⟩ := Option.map_eq_some_iff.mp stored
      rw [(servers key server found).1]
      exact List.nodup_nil
  refine ⟨⟨keyed, fun disk home named => ?_, linked.atHome⟩, keyed.linksAgree_iff.mpr linked⟩
  obtain ⟨record, present, rfl⟩ := Option.map_eq_some_iff.mp named
  rw [Reached, counter]
  exact (disks disk record present).1

/-- In every run from a cloud that is seeded without links, whatever the calls and failures, a disk
is on the list of the server that it names, if both are stored. A disk is on no other list and on no
list twice all along the run exactly if no call puts a disk on a list again. -/
theorem links_agree_iff (settleReads : Nat) (seeds : List Seed) (events : List Event)
    (early : ∀ seed ∈ seeds, ∀ id ∈ seed.ids, id.value.toNat ≤ 1000) (unlinked : Unlinked seeds)
    (room : 1000 + ((seeded settleReads seeds).ledger events).length < UInt64.size) :
    let start := seeded settleReads seeds
    (∀ serverKey server diskKey disk,
      (start.through events).servers.get? serverKey = some server →
      (start.through events).disks.get? diskKey = some disk →
        disk.serverId = server.id → disk.id ∈ server.diskIds) ∧
    ((∀ earlier, earlier <+: events → (start.through earlier).LinksAgree) ↔
      ∀ earlier request, earlier ++ [.call request] <+: events →
        ¬ (start.through earlier).Relists request) := by
  intro start
  obtain ⟨housed, agree⟩ := seeded_linksAgree settleReads unlinked early
  have counter : start.lastId.toNat = 1000 :=
    congrArg UInt64.toNat (seeded_lastId settleReads seeds)
  rw [← counter] at room
  constructor
  · intro serverKey server diskKey disk stored present home
    have after := housed.through events room
    have disks := (after.keyed.disks diskKey disk present).1
    have servers := (after.keyed.servers serverKey server stored).1
    rw [disks]
    refine after.atHome serverKey _ diskKey (congrArg (Option.map _) stored) ?_
    rw [diskHomes, shown, present, ← servers, ← home]
    rfl
  · rw [housed.linksAgree_through_iff agree events room]
    constructor
    · exact fun quiet earlier request start => quiet earlier (.call request) start
    · intro quiet earlier event start
      cases event with
      | announce endpoint times error => exact fun again => again
      | call request => exact quiet earlier request start

/-- A disk is connected to a server and follows it to another plan. Nothing is put on a list again,
and the links agree after both calls. -/
theorem connected_disk_follows_server :
    let seeds : List Seed :=
      [.serverPlan { (default : ServerPlan) with id := ⟨10⟩ },
        .server { (default : Server) with id := ⟨7⟩, instanceStatus := .down },
        .disk { (default : Disk) with id := ⟨20⟩ }]
    let events : List Event :=
      [.call (.disk ⟨"is1a"⟩ (.connectToServer ⟨20⟩ ⟨7⟩)),
        .call (.server ⟨"is1a"⟩ (.changePlan ⟨7⟩ ⟨10⟩))]
    let start := seeded 2 seeds
    Unlinked seeds ∧ start.ledger events = [1001] ∧
      (start.through events).diskLists ⟨1001⟩ = some [⟨20⟩] ∧
      (start.through events).diskHomes ⟨20⟩ = some ⟨1001⟩ ∧
      ∀ earlier, earlier <+: events → (start.through earlier).LinksAgree := by
  intro seeds events start
  have unlinked : Unlinked seeds := by
    constructor
    · intro server listed
      simp only [seeds, List.mem_cons, reduceCtorEq, Seed.server.injEq, false_or, or_false,
        List.not_mem_nil] at listed
      rw [listed]
      rfl
    · intro disk listed
      simp only [seeds, List.mem_cons, reduceCtorEq, Seed.disk.injEq, false_or, or_false,
        List.not_mem_nil] at listed
      subst listed
      refine ⟨by decide, fun server other => ?_⟩
      simp only [seeds, List.mem_cons, reduceCtorEq, Seed.server.injEq, false_or, or_false,
        List.not_mem_nil] at other
      subst other
      decide
  have numbers : start.ledger events = [1001] := by decide +kernel
  refine ⟨unlinked, numbers, by decide +kernel, by decide +kernel, ?_⟩
  refine (links_agree_iff 2 seeds events (by decide +kernel) unlinked
    (numbers ▸ by decide)).2.mpr ?_
  intro earlier request begins again
  cases earlier with
  | nil =>
      obtain ⟨same, -⟩ := List.cons_prefix_cons.mp begins
      cases same
      have bare : ∀ server list, start.diskLists server = some list → list = [] := by
        intro server list stored
        obtain ⟨record, found, rfl⟩ := Option.map_eq_some_iff.mp stored
        exact ((seeded_unlinked 2 unlinked).1 server record found).1
      obtain ⟨-, list, stored, listed | ⟨-, server, other, storedOther, listed⟩⟩ := again
      · rw [bare _ list stored] at listed
        nomatch listed
      · rw [bare server other storedOther] at listed
        nomatch listed
  | cons head tail =>
      obtain ⟨rfl, rest⟩ := List.cons_prefix_cons.mp begins
      cases tail with
      | nil =>
          obtain ⟨same, -⟩ := List.cons_prefix_cons.mp rest
          cases same
          exact again.2
      | cons second others =>
          have nothing := (List.cons_prefix_cons.mp rest).2
          nomatch List.append_eq_nil_iff.mp (List.prefix_nil.mp nothing)

/-- A disk is connected to one server and then to another one. The first server still lists it. -/
theorem moved_disk_stays_listed :
    let seeds : List Seed :=
      [.server { (default : Server) with id := ⟨7⟩ }, .server { (default : Server) with id := ⟨8⟩ },
        .disk { (default : Disk) with id := ⟨20⟩ }]
    let events : List Event :=
      [.call (.disk ⟨"is1a"⟩ (.connectToServer ⟨20⟩ ⟨7⟩)),
        .call (.disk ⟨"is1a"⟩ (.connectToServer ⟨20⟩ ⟨8⟩))]
    let after := (seeded 2 seeds).through events
    after.diskLists ⟨7⟩ = some [⟨20⟩] ∧ after.diskLists ⟨8⟩ = some [⟨20⟩] ∧
      after.diskHomes ⟨20⟩ = some ⟨8⟩ ∧ ¬ after.LinksAgree := by
  intro seeds events after
  refine ⟨by decide +kernel, by decide +kernel, by decide +kernel, fun links => ?_⟩
  have server : (after.servers.get? ⟨7⟩).map (fun server => (server.id, server.diskIds)) =
      some (⟨7⟩, [⟨20⟩]) := by decide +kernel
  have disk : (after.disks.get? ⟨20⟩).map (fun disk => (disk.id, disk.serverId)) =
      some (⟨20⟩, ⟨8⟩) := by decide +kernel
  obtain ⟨server, stored, shownServer⟩ := Option.map_eq_some_iff.mp server
  obtain ⟨disk, present, shownDisk⟩ := Option.map_eq_some_iff.mp disk
  obtain ⟨serverId, diskIds⟩ := Prod.mk.inj shownServer
  obtain ⟨diskId, home⟩ := Prod.mk.inj shownDisk
  have agree := links.agree ⟨7⟩ server ⟨20⟩ disk stored present
  rw [serverId, diskIds, diskId, home] at agree
  nomatch agree.mp List.mem_cons_self

end Cloud

end Provisioning
