import Provisioning.Proofs.Stages

/-!
What calls do to stages. Every call of a family has its effect on the resources of one kind, and it
keeps the records of all other kinds. The main statements say what becomes of all stages after a
call that is a turn and after one that is not.
-/

namespace Provisioning

open Cloud CloudStep

namespace Cloud

variable {cloud : Cloud}

theorem answerDisk_affects (zone : Zone) (call : DiskCall) :
    Awaited.disk.Affects cloud (.disk zone call) (answerDisk call) := by
  have creates (request : DiskCreateRequest) (edit : Option DiskEditRequest)
      (counted : cloud.lastId ≤ (cloud.withDisk request edit).lastId) :
      Subject.Turned ⟨.disk, ⟨cloud.lastId + 1⟩⟩ .creation cloud (cloud.withDisk request edit) :=
    .of_create rfl rfl rfl (drawn_fresh (.inl rfl) counted)
  have listsDisk {looks : Prop} {base : Cloud} (serverId id : ResourceId) :
      Maintains (Awaited.disk.Kept looks base) (serverTable.change serverId fun server =>
        { server with diskIds := server.diskIds ++ [id] }) := by
    intro cloud kept
    rw [yields_change]
    split <;> exact ⟨kept.availability, kept.runStatus, kept.counts⟩
  cases call with
  | create request distantFrom =>
      rw [answerDisk, Awaited.Affects, yields_createDisk]
      repeat' split
      · exact fun counted => .turned _ _ rfl (creates request none counted)
      · exact .kept rfl (.refl _ _ _)
      · exact fun counted => .turned _ _ rfl (creates request none counted)
  | createWithConfig request edit bootAtAvailable distantFrom =>
      rw [answerDisk, Awaited.Affects, yields_createDisk]
      repeat' split
      · exact fun counted => .turned _ _ rfl (creates request (some edit) counted)
      · exact .kept rfl (.refl _ _ _)
      · exact fun counted => .turned _ _ rfl (creates request (some edit) counted)
  | read id =>
      exact affects_of_turned (fun _ => rfl) (fun _ => rfl) (readSettling_turned .disk id)
  | update id request =>
      exact affects_of_maintains (fun _ => rfl)
        (kept_of_change .disk id Bool.false_ne_true fun _ => rfl)
  | delete id =>
      exact affects_of_turned (fun _ => rfl) (fun _ => rfl) (remove_turned .disk id)
  | connectToServer id serverId =>
      refine affects_of_maintains (fun _ => rfl) ?_
      exact (listsDisk serverId id).bind fun _ =>
        (kept_of_change .disk id Bool.false_ne_true fun _ => by rfl).bind fun _ => maintains_pure _
  | config id edit =>
      simp only [answerDisk, configureDisk, Awaited.Affects, yields_bind, yields_change,
        yields_track, yields_modify]
      split
      next disk stored =>
        intro _
        refine .turned _ _ rfl (.of_insert rfl ?_ ?_ (by rintro ⟨⟩))
        · intro other different
          exact (SortedMap.get?_insert _ _ _ _).trans (if_neg different)
        · refine ⟨_, stage?_of_stored stored, ?_⟩
          dsimp only
          rw [SortedMap.get?_insert_self]
          rfl
      next => exact .kept rfl (.refl _ _ _)

/-- Disks follow a server to its new number without a change of their stage. -/
theorem answerServer_affects (zone : Zone) (call : ServerCall) :
    Awaited.disk.Affects cloud (.server zone call) (answerServer call) := by
  have shows {β : Type} (view : Disk → β)
      (hidden : ∀ disk serverId, view { disk with serverId } = view disk) :
      (answerServer call).Yields cloud (fun _ after => diskTable.ShowsSame view cloud after)
        (fun _ after => diskTable.ShowsSame view cloud after) :=
    answerServer_showsSame_disks call hidden
  have availability := shows Disk.availability fun _ _ => rfl
  have runStatus := shows (Lifecycle.runStatus : Disk → Option RunStatus) fun _ _ => rfl
  have keeps {answer : Except RemoteError call.Answer} {after : Cloud}
      (sameAvailability : diskTable.ShowsSame Disk.availability cloud after)
      (sameRunStatus : diskTable.ShowsSame (Lifecycle.runStatus : Disk → _) cloud after)
      (written : (Request.server zone call).Footprint cloud after) :
      Awaited.disk.Effect ⟨.server zone call, answer⟩ cloud after := by
    refine .kept rfl ⟨sameAvailability, fun _ => sameRunStatus, ?_⟩
    rw [written]
  exact ((availability.and runStatus).and (answerServer_footprint zone call)).mono
    (fun _ _ all _ => keeps all.1.1 all.1.2 all.2) fun _ _ all => keeps all.1.1 all.1.2 all.2

theorem answerDatabase_affects (zone : Zone) (call : DatabaseCall) :
    Awaited.database.Affects cloud (.database zone call) (answerDatabase call) := by
  cases call with
  | create request =>
      simp only [answerDatabase, createDatabase, Awaited.Affects, yields_bind, yields_find,
        yields_allocate, yields_freshHash, yields_insert, yields_track, yields_pure]
      split
      · intro counted
        exact .turned _ _ rfl (.of_create rfl rfl rfl (drawn_fresh (.inr rfl) counted))
      · exact .kept rfl (.refl _ _ _)
  | read id =>
      exact affects_of_turned (fun _ => rfl) (fun _ => rfl) (readSettling_turned .database id)
  | update id request =>
      exact affects_of_maintains (fun _ => rfl)
        (kept_of_checked_change .database id _ _ Bool.false_ne_true fun _ _ => rfl)
  | delete id =>
      exact affects_of_turned (fun _ => rfl) (fun _ => rfl) (remove_turned .database id)
  | boot id =>
      refine affects_of_maintains (fun _ => rfl) ?_
      exact (kept_of_change .database id Bool.false_ne_true fun _ => by rfl).bind fun _ =>
        maintains_pure _
  | shutdown id force =>
      refine affects_of_maintains (fun _ => rfl) ?_
      exact (kept_of_change .database id Bool.false_ne_true fun _ => by rfl).bind fun _ =>
        kept_of_modify (fun _ => rfl) fun _ => rfl
  | config id | status id =>
      refine affects_of_maintains (fun _ => rfl) ?_
      exact (kept_of_prepares (prepares_find _ _)).bind fun _ => maintains_pure _
  | setParameters id parameters =>
      refine affects_of_maintains (fun _ => rfl) ?_
      exact (kept_of_prepares (prepares_find _ _)).bind fun _ =>
        kept_of_modify (fun _ => rfl) fun _ => rfl

theorem answerVpcRouter_affects (zone : Zone) (call : VpcRouterCall) :
    Awaited.vpcRouter.Affects cloud (.vpcRouter zone call) (answerVpcRouter call) := by
  cases call with
  | create request =>
      intro counted
      exact .turned _ _ rfl (.of_create rfl rfl rfl (drawn_fresh (.inr rfl) counted))
  | read id =>
      exact affects_of_turned (fun _ => rfl) (fun _ => rfl) (readSettling_turned .vpcRouter id)
  | update id request =>
      exact affects_of_maintains (fun _ => rfl)
        (kept_of_checked_change .vpcRouter id _ _ Bool.false_ne_true fun _ _ => rfl)
  | delete id =>
      exact affects_of_turned (fun _ => rfl) (fun _ => rfl) (remove_turned .vpcRouter id)
  | boot id =>
      refine affects_of_maintains (fun _ => rfl) ?_
      exact (kept_of_change .vpcRouter id Bool.false_ne_true fun _ => by rfl).bind fun _ =>
        maintains_pure _
  | shutdown id force =>
      refine affects_of_maintains (fun _ => rfl) ?_
      exact (kept_of_change .vpcRouter id Bool.false_ne_true fun _ => by rfl).bind fun _ =>
        kept_of_modify (fun _ => rfl) fun _ => rfl
  | connectToSwitch id index switchId =>
      refine affects_of_maintains (fun _ => rfl) ?_
      exact (kept_of_prepares (prepares_find _ _)).bind fun _ =>
        (kept_of_prepares (prepares_find _ _)).bind fun _ =>
        kept_of_modify (fun _ => rfl) fun _ => rfl
  | config id =>
      refine affects_of_maintains (fun _ => rfl) ?_
      exact (kept_of_prepares (prepares_find _ _)).bind fun _ => maintains_pure _

theorem answerMobileGateway_affects (zone : Zone) (call : MobileGatewayCall) :
    Awaited.mobileGateway.Affects cloud (.mobileGateway zone call) (answerMobileGateway call) := by
  cases call with
  | create request =>
      intro counted
      exact .turned _ _ rfl (.of_create rfl rfl rfl (drawn_fresh (.inr rfl) counted))
  | read id =>
      exact affects_of_turned (fun _ => rfl) (fun _ => rfl) (readSettling_turned .mobileGateway id)
  | update id request =>
      exact affects_of_maintains (fun _ => rfl)
        (kept_of_checked_change .mobileGateway id _ _ Bool.false_ne_true fun _ _ => rfl)
  | delete id =>
      exact affects_of_turned (fun _ => rfl) (fun _ => rfl) (remove_turned .mobileGateway id)
  | boot id =>
      refine affects_of_maintains (fun _ => rfl) ?_
      exact (kept_of_change .mobileGateway id Bool.false_ne_true fun _ => by rfl).bind fun _ =>
        maintains_pure _
  | shutdown id force =>
      refine affects_of_maintains (fun _ => rfl) ?_
      exact (kept_of_change .mobileGateway id Bool.false_ne_true fun _ => by rfl).bind fun _ =>
        kept_of_modify (fun _ => rfl) fun _ => rfl
  | connectToSwitch id switchId =>
      refine affects_of_maintains (fun _ => rfl) ?_
      exact (kept_of_prepares (prepares_find _ _)).bind fun _ =>
        (kept_of_prepares (prepares_find _ _)).bind fun _ =>
        kept_of_modify (fun _ => rfl) fun _ => rfl
  | config id =>
      refine affects_of_maintains (fun _ => rfl) ?_
      exact (kept_of_prepares (prepares_find _ _)).bind fun _ => maintains_pure _
  | setDns id dns | setTrafficConfig id traffic =>
      refine affects_of_maintains (fun _ => rfl) ?_
      exact (kept_of_prepares (prepares_find _ _)).bind fun _ =>
        kept_of_modify (fun _ => rfl) fun _ => rfl
  | addSim id simId =>
      refine affects_of_maintains (fun _ => rfl) fun cloud kept => ?_
      simp only [answerMobileGateway, addSim, yields_bind, yields_find, yields_ite, yields_throw,
        yields_pure]
      repeat' split
      case isFalse =>
        exact kept_of_change .mobileGateway id Bool.false_ne_true (fun _ => by rfl) cloud kept
      all_goals exact kept

theorem answerRegistry_affects (call : ContainerRegistryCall) :
    Awaited.containerRegistry.Affects cloud (.containerRegistry call) (answerRegistry call) := by
  cases call with
  | create request =>
      intro counted
      exact .turned _ _ rfl (.of_create rfl rfl rfl (drawn_fresh (.inl rfl) counted))
  | read id =>
      exact affects_of_turned (fun _ => rfl) (fun _ => rfl)
        (readSettling_turned .containerRegistry id)
  | update id request =>
      exact affects_of_maintains (fun _ => rfl)
        (kept_of_change .containerRegistry id Bool.false_ne_true fun _ => rfl)
  | delete id =>
      exact affects_of_turned (fun _ => rfl) (fun _ => rfl) (remove_turned .containerRegistry id)
  | addUser id user | deleteUser id userName =>
      refine affects_of_maintains (fun _ => rfl) fun cloud kept => ?_
      simp only [answerRegistry, addRegistryUser, deleteRegistryUser, yields_bind, yields_find,
        yields_ite, yields_throw, yields_pure]
      repeat' split
      case isFalse =>
        exact kept_of_change .containerRegistry id Bool.false_ne_true (fun _ => by rfl) cloud kept
      all_goals exact kept

theorem answerLocalRouter_affects (call : LocalRouterCall) :
    Awaited.localRouter.Affects cloud (.localRouter call) (answerLocalRouter call) := by
  cases call with
  | create request =>
      intro counted
      exact .turned _ _ rfl (.of_create rfl rfl rfl (drawn_fresh (.inr rfl) counted))
  | read id =>
      exact affects_of_turned (fun _ => rfl) (fun _ => rfl) (readSettling_turned .localRouter id)
  | updateSettings id settings settingsHash =>
      exact affects_of_maintains (fun _ => rfl)
        (kept_of_checked_change .localRouter id _ _ Bool.false_ne_true fun _ _ => rfl)
  | delete id =>
      exact affects_of_turned (fun _ => rfl) (fun _ => rfl) (remove_turned .localRouter id)

end Cloud

/-- The calls of a family may write the records of one kind. Those about servers rehost disks. -/
def Request.awaited? : Request → Option Awaited
  | .disk .. | .server .. => some .disk
  | .database .. => some .database
  | .vpcRouter .. => some .vpcRouter
  | .mobileGateway .. => some .mobileGateway
  | .containerRegistry _ => some .containerRegistry
  | .localRouter _ => some .localRouter
  | .catalogue .. | .credential _ | .sim _ => none

/-- Only a call that succeeds is a turn. It is one of a resource of its own family, and a call that
only looks is a read of this resource. -/
theorem Exchange.turn?_some {exchange : Exchange} {subject : Subject} {turn : Turn}
    (takes : exchange.turn? = some (subject, turn)) :
    exchange.answer.isOk ∧ exchange.request.awaited? = some subject.kind ∧
      (exchange.request.endpoint.isReadOnly → exchange.request.reads? = some subject) := by
  unfold Exchange.turn? at takes
  split at takes
  all_goals cases takes
  all_goals first | exact ⟨rfl, rfl, fun _ => rfl⟩ | exact ⟨rfl, rfl, nofun⟩

/-- An exchange that fails is no turn. -/
theorem Exchange.turn?_error (request : Request) (error : RemoteError) :
    Exchange.turn? ⟨request, .error error⟩ = none :=
  Option.eq_none_iff_forall_ne_some.mpr fun _ takes => Bool.false_ne_true (turn?_some takes).1

/-- What is kept after a call was logged is kept since before the call. -/
theorem Awaited.Kept.of_logging {kind : Awaited} {looks : Prop} {before after : Cloud}
    {request : Request} {failures : List (Endpoint × RemoteError)}
    (kept : kind.Kept looks (before.logging request failures) after) :
    kind.Kept looks before after := by
  cases kind <;> exact ⟨kept.availability, kept.runStatus, kept.counts⟩

/-- An effect after a call was logged is an effect since before the call. -/
theorem Awaited.Effect.of_logging {kind : Awaited} {exchange : Exchange} {before after : Cloud}
    {request : Request} {failures : List (Endpoint × RemoteError)}
    (effect : kind.Effect exchange (before.logging request failures) after) :
    kind.Effect exchange before after := by
  cases effect with
  | turned id turn takes turned =>
      cases kind <;>
        exact .turned id turn takes ⟨turned.leads, turned.others, turned.counts, turned.fresh⟩
  | kept silent kept => exact .kept silent kept.of_logging

/-- A read of a resource only looks. -/
theorem Request.isReadOnly_of_reads? {request : Request} {subject : Subject}
    (reads : request.reads? = some subject) : request.endpoint.isReadOnly := by
  unfold Request.reads? at reads
  split at reads <;> first | rfl | nomatch reads

/-- A request that only looks draws no number. -/
theorem Request.draws_of_isReadOnly {request : Request} (looks : request.endpoint.isReadOnly) :
    request.draws = 0 ∧ request.drawsInVain = 0 := by
  cases request with
  | disk zone call => cases call <;> first | exact ⟨rfl, rfl⟩ | nomatch looks
  | catalogue zone call => exact ⟨rfl, rfl⟩
  | credential call => cases call <;> first | exact ⟨rfl, rfl⟩ | nomatch looks
  | server zone call => cases call <;> first | exact ⟨rfl, rfl⟩ | nomatch looks
  | database zone call => cases call <;> first | exact ⟨rfl, rfl⟩ | nomatch looks
  | vpcRouter zone call => cases call <;> first | exact ⟨rfl, rfl⟩ | nomatch looks
  | mobileGateway zone call => cases call <;> first | exact ⟨rfl, rfl⟩ | nomatch looks
  | sim call => exact ⟨rfl, rfl⟩
  | containerRegistry call => cases call <;> first | exact ⟨rfl, rfl⟩ | nomatch looks
  | localRouter call => cases call <;> first | exact ⟨rfl, rfl⟩ | nomatch looks

/-- A call writes no table of another family. -/
theorem Request.Footprint.read_eq {request : Request} {before after : Cloud} {kind : Awaited}
    (written : request.Footprint before after) (other : request.awaited? ≠ some kind) :
    kind.table.read after = kind.table.read before := by
  cases request <;> rw [written] <;> cases kind <;> first | rfl | exact absurd rfl other

/-- A call about no kind that is awaited leaves the counts of reads as they are. -/
theorem Request.Footprint.pending {request : Request} {before after : Cloud}
    (written : request.Footprint before after) (family : request.awaited? = none) :
    after.pending = before.pending := by
  cases request with
  | catalogue | credential | sim => rw [written]
  | _ => nomatch family

namespace Cloud

variable {cloud : Cloud} {request : Request} {subject : Subject} {turn : Turn} {kind : Awaited}

/-- A call has its effect on the kind of its family. -/
theorem answerRequest_affects (family : request.awaited? = some kind) :
    kind.Affects cloud request (answerRequest request) := by
  cases request with
  | disk zone call =>
      cases family
      exact answerDisk_affects zone call
  | server zone call =>
      cases family
      exact answerServer_affects zone call
  | database zone call =>
      cases family
      exact answerDatabase_affects zone call
  | vpcRouter zone call =>
      cases family
      exact answerVpcRouter_affects zone call
  | mobileGateway zone call =>
      cases family
      exact answerMobileGateway_affects zone call
  | containerRegistry call =>
      cases family
      exact answerRegistry_affects call
  | localRouter call =>
      cases family
      exact answerLocalRouter_affects call
  | catalogue | credential | sim => nomatch family

/-- A call that does not overflow the counter has its effect on the kind of its family. -/
theorem call_effect_on_family (counted : cloud.lastId ≤ (call request cloud).2.lastId)
    (family : request.awaited? = some kind) :
    kind.Effect (cloud.exchange request) cloud (call request cloud).2 := by
  have effect := call_elim
    (motive := fun answer after => cloud.lastId ≤ after.lastId →
      kind.Effect ⟨request, answer⟩ cloud after)
    (fun error failures _ _ => .kept (Exchange.turn?_error request error)
      (Awaited.Kept.refl _ _ (cloud.logging request failures)).of_logging)
    (fun quiet => (answerRequest_affects family).mono
      (fun _ _ effect counted => (effect counted).of_logging)
      (fun _ _ effect _ => effect.of_logging))
  exact effect counted

/-- A call that only looks draws no number. -/
theorem call_lastId_of_isReadOnly (looks : request.endpoint.isReadOnly) (cloud : Cloud) :
    (call request cloud).2.lastId = cloud.lastId := by
  obtain ⟨draws, drawsInVain⟩ := Request.draws_of_isReadOnly looks
  rw [call_lastId, drawn, draws, drawsInVain, ite_self, ite_self]
  exact UInt64.add_zero _

/-- A call that is a turn of a resource turns it, and it writes no other record. -/
theorem call_turned (counted : cloud.lastId ≤ (call request cloud).2.lastId)
    (takes : (cloud.exchange request).turn? = some (subject, turn)) :
    subject.Turned turn cloud (call request cloud).2 ∧
      ∀ other, other ≠ subject → (call request cloud).2.record? other = cloud.record? other := by
  have family := (Exchange.turn?_some takes).2.1
  obtain ⟨own, id⟩ := subject
  cases call_effect_on_family counted family with
  | kept silent kept => nomatch silent.symm.trans takes
  | turned id turn takesToo turned =>
      cases takes.symm.trans takesToo
      refine ⟨turned, ?_⟩
      rintro ⟨kind, other⟩ different
      by_cases same : kind = own
      · subst same
        exact turned.others other fun same => different (congrArg (Subject.mk kind) same)
      · obtain ⟨failures, written⟩ := call_footprint request cloud
        have elsewhere : request.awaited? ≠ some kind :=
          fun here => same (Option.some.inj (here.symm.trans family))
        rw [record?, written.read_eq elsewhere]
        exact congrArg (SortedMap.get? · other)
          (kind.lawful.read_counters cloud cloud.lastId cloud.pending _ _)

/-- A call that is no turn keeps the resources of every kind. -/
theorem call_kept (counted : cloud.lastId ≤ (call request cloud).2.lastId)
    (silent : (cloud.exchange request).turn? = none) (kind : Awaited) :
    kind.Kept request.endpoint.isReadOnly cloud (call request cloud).2 := by
  obtain ⟨failures, written⟩ := call_footprint request cloud
  have counts : (call request cloud).2.pending = cloud.pending := by
    cases family : request.awaited? with
    | none => exact written.pending family
    | some own =>
        cases call_effect_on_family counted family with
        | turned id turn takes turned => nomatch silent.symm.trans takes
        | kept silent kept => exact kept.counts
  by_cases own : request.awaited? = some kind
  · cases call_effect_on_family counted own with
    | turned id turn takes turned => nomatch silent.symm.trans takes
    | kept silent kept => exact kept
  · have same : kind.table.read (call request cloud).2 = kind.table.read cloud := by
      rw [written.read_eq own]
      exact kind.lawful.read_counters cloud cloud.lastId cloud.pending _ _
    exact (Awaited.Kept.refl kind _ cloud).of_untouched same counts

end Cloud

end Provisioning
