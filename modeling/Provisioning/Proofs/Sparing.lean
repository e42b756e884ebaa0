import Provisioning.Proofs.Blueprints
import Provisioning.Proofs.Journal
import Provisioning.Proofs.Undisturbed

/-!
Builds do not disturb what exists. A program spares a base when all its requests are harmless for
the base. The main statement says that every build leaves the records of the cloud that it starts
from undisturbed, whatever failures are announced and wherever it stops.
-/

namespace Provisioning

open Program Cloud

variable {permit : Permit} {base : Cloud} {drawn : Nat}

/-- A request is quiet when it is harmless and draws no number. -/
def Request.Quiet (permit : Permit) (base : Cloud) (request : Request) : Prop :=
  request.Harmless permit base ∧ request.draws = 0

/-- When the answer to a request succeeds there is a fact about it. -/
def Request.Tells (permit : Permit) (base : Cloud) (drawn : Nat) (request : Request)
    (known : request.Answer → Prop) : Prop :=
  base.lastId.toNat + (drawn + request.draws) < UInt64.size →
    ∀ cloud, Kept permit base drawn cloud →
      (answerRequest request).Yields cloud (fun answer _ => known answer) (fun _ _ => True)

/-- The answer to any request tells nothing more than that it succeeds. -/
theorem Request.tells_true (request : Request) :
    request.Tells permit base drawn (fun _ => True) := by
  intro _ cloud _
  unfold CloudStep.Yields
  split <;> trivial

namespace Cloud

/-- A quiet call needs no room, and it keeps the base whether it succeeds or fails. -/
theorem Kept.call {cloud : Cloud} {request : Request} (kept : Kept permit base drawn cloud)
    (counted : base.Counted) (quiet : request.Quiet permit base) :
    Kept permit base drawn (Cloud.call request cloud).2 := by
  obtain ⟨harmless, still⟩ := quiet
  have room : base.lastId.toNat + (drawn + request.draws) < UInt64.size := by
    rw [still]
    exact kept.counted ▸ cloud.lastId.toNat_lt
  -- An announced failure comes instead of the answer, and the call is only logged.
  refine call_elim (motive := fun _ after => Kept permit base drawn after) ?_ fun _ => ?_
  · exact fun _ failures _ => kept.logging request failures
  · apply (answerRequest_kept request counted (kept.logging _ _) room harmless).mono
    · intro _ after keptAfter
      rwa [still] at keptAfter
    · rintro _ after ⟨some, atMost, keptAfter⟩
      rw [still] at atMost
      cases Nat.le_zero.mp atMost
      exact keptAfter

end Cloud

namespace Program

variable {α β : Type}

/-- A program spares a base when it draws some numbers and leaves the base undisturbed, whether it
succeeds or fails. When it succeeds there is a fact about its value. -/
def Spares (permit : Permit) (base : Cloud) (drawn draws : Nat) (program : Build α)
    (fact : α → Prop) : Prop :=
  ∀ context world, Kept permit base drawn world.store →
    base.lastId.toNat + (drawn + draws) < UInt64.size →
      Yields context Cloud.remote program world
        (fun value after => Kept permit base (drawn + draws) after.store ∧ fact value)
        (fun _ after => Undisturbed permit base after.store)

namespace Spares

variable {draws more : Nat} {fact : α → Prop} {final : β → Prop}

theorem pure {value : α} (holds : fact value) :
    Spares permit base drawn 0 (Pure.pure value) fact :=
  fun _ _ kept _ => ⟨kept, holds⟩

/-- Programs that spare a base are sequenced to one that spares it, and the numbers that they draw
add up. -/
theorem bind {program : Build α} {continuation : α → Build β}
    (first : Spares permit base drawn draws program fact)
    (rest : ∀ value, fact value →
      Spares permit base (drawn + draws) more (continuation value) final) :
    Spares permit base drawn (draws + more) (program >>= continuation) final := by
  intro context world kept room
  rw [← Nat.add_assoc drawn] at room ⊢
  apply (first context world kept (by omega)).bind
  rintro value after ⟨keptAfter, holds⟩
  exact rest value holds context after keptAfter room

/-- A program of quiet requests spares the base. -/
theorem of_orderly {program : Build α} (counted : base.Counted)
    (orderly : Orderly (Request.Quiet permit base) program.run) :
    Spares permit base drawn 0 program (fun _ => True) := by
  intro context world kept _
  have called : ∀ request, request.Quiet permit base → ∀ world : World Cloud,
      Kept permit base drawn world.store →
        Kept permit base drawn (Cloud.remote context request world).2.store :=
    fun request quiet world kept => kept.call counted quiet
  exact (orderly.keeps (Kept permit base drawn) called kept).mono (fun _ _ kept => ⟨kept, trivial⟩)
    fun _ _ kept => kept.toUndisturbed

/-- Quiet requests may come before the rest of a program. -/
theorem quietly {program : Build α} {continuation : α → Build β} (counted : base.Counted)
    (orderly : Orderly (Request.Quiet permit base) program.run)
    (rest : ∀ value, Spares permit base drawn more (continuation value) final) :
    Spares permit base drawn more (program >>= continuation) final :=
  Nat.zero_add more ▸ (of_orderly counted orderly).bind fun value _ => rest value

variable {request : Request} {known : request.Answer → Prop}

/-- A harmless call keeps the base, also when its failure was announced. -/
theorem attempt {context : Context} {world : World Cloud} (counted : base.Counted)
    (kept : Kept permit base drawn world.store)
    (room : base.lastId.toNat + (drawn + request.draws) < UInt64.size)
    (harmless : request.Harmless permit base) (tells : request.Tells permit base drawn known) :
    Yields context Cloud.remote (Build.attempt request) world
      (fun answer after => Kept permit base (drawn + request.draws) after.store ∧ known answer)
      (fun _ after => Undisturbed permit base after.store) := by
  have logged := kept.logging request world.store.failures
  apply yields_calm_attempt (Calm.of_noisy not_false)
  · apply ((answerRequest_kept request counted logged room harmless).and (tells room _ logged)).mono
    · exact fun _ _ both _ => both
    · rintro _ after ⟨⟨some, -, keptAfter⟩, -⟩ _
      exact keptAfter.toUndisturbed
  · exact fun _ _ failures => (kept.logging request failures).toUndisturbed

/-- A harmless call comes before the rest of a program. -/
theorem call {label : String} {continuation : request.Answer → Build β} (more : Nat)
    (counted : base.Counted) (harmless : request.Harmless permit base)
    (tells : request.Tells permit base drawn known)
    (rest : ∀ answer, known answer →
      Spares permit base (drawn + request.draws) more (continuation answer) final)
    (total : request.draws + more = draws) :
    Spares permit base drawn draws (Build.call label request >>= continuation) final := by
  have called : Spares permit base drawn request.draws (Build.call label request) known := by
    intro context world kept room
    rw [Build.call, yields_during]
    exact attempt counted kept room harmless tells
  exact total ▸ called.bind rest

/-- A wait for a resource knows of its record what a read knows. -/
theorem untilReady {resource : String} {id : ResourceId} [Lifecycle request.Answer]
    {options : WaitOptions} (counted : base.Counted) (quiet : request.Quiet permit base)
    (tells : request.Tells permit base drawn known) :
    Spares permit base drawn 0 (Wait.untilReady resource id (Build.attempt request) options)
      known := by
  intro context world kept room
  rw [Wait.untilReady, yields_bind]
  have waits : Yields context Cloud.remote
      (Wait.forState s!"{resource} {id.text} to become available" (Build.attempt request)
        (fun record => !(Lifecycle.availability record).isTransitional) options) world
      (fun record after => Kept permit base drawn after.store ∧ known record)
      (fun _ after => Undisturbed permit base after.store) := by
    apply Wait.forStateWith_keeps (fun _ now => Kept permit base drawn now.store)
      (fun record now => Kept permit base drawn now.store ∧ known record)
    · intro _ now kept
      rw [yields_bind]
      have room : base.lastId.toNat + (drawn + request.draws) < UInt64.size := quiet.2 ▸ room
      apply (attempt counted kept room quiet.1 tells).mono
      · rintro record after ⟨keptAfter, holds⟩
        rw [quiet.2] at keptAfter
        rw [yields_pure]
        split
        · exact ⟨keptAfter, holds⟩
        · exact keptAfter
      · exact fun _ _ undisturbed => undisturbed
    · exact fun _ _ _ kept => kept
    · exact fun _ _ kept => kept.toUndisturbed
    · exact kept
  apply waits.mono
  · rintro record after both
    rw [yields_ite]
    split
    · exact both.1.toUndisturbed
    · exact both
  · exact fun _ _ undisturbed => undisturbed

/-- A wait with a quiet look spares a base, and what follows may use what the look tells. -/
theorem awaiting {resource : String} {id : ResourceId} [Lifecycle request.Answer]
    {options : WaitOptions} {continuation : request.Answer → Build β} (counted : base.Counted)
    (quiet : request.Quiet permit base) (tells : request.Tells permit base drawn known)
    (rest : ∀ record, known record → Spares permit base drawn more (continuation record) final) :
    Spares permit base drawn more
      (Wait.untilReady resource id (Build.attempt request) options >>= continuation) final :=
  Nat.zero_add more ▸ (untilReady counted quiet tells).bind rest

end Spares

end Program

section Builds

variable {zone : Zone} {id : ResourceId}

/-- Looks are quiet. -/
theorem Request.Looks.quiet {request : Request} (looks : request.Looks) :
    request.Quiet permit base := by
  cases request with
  | disk zone call => cases call <;> first | exact ⟨trivial, rfl⟩ | nomatch looks
  | catalogue zone call => exact ⟨trivial, rfl⟩
  | credential call => cases call <;> first | exact ⟨trivial, rfl⟩ | nomatch looks
  | sim call => cases call <;> first | exact ⟨trivial, rfl⟩ | nomatch looks
  | localRouter call => cases call <;> first | exact ⟨trivial, rfl⟩ | nomatch looks
  | server | database | vpcRouter | mobileGateway | containerRegistry => nomatch looks

/-- Artifacts are new when the base has numbered none of them. -/
structure Artifacts.New (base : Cloud) (artifacts : Artifacts) : Prop where
  key : ∀ key, artifacts.generatedKey = some key → ¬ base.Reached key.id
  notes : ∀ id ∈ artifacts.noteIds, ¬ base.Reached id

theorem Artifacts.new_none : Artifacts.none.New base := ⟨nofun, nofun⟩

/-- The disposal of new artifacts is quiet. -/
theorem Artifacts.New.dispose_orderly {artifacts : Artifacts} (new : artifacts.New base) :
    Orderly (Request.Quiet permit base) artifacts.dispose.run :=
  artifacts.dispose_orderly (fun key present => ⟨new.key key present, rfl⟩)
    fun id member => ⟨new.notes id member, rfl⟩

namespace UnixEdit

/-- The generation of a key spares a base, and the key is new. -/
theorem generateKey_spares (edit : UnixEdit) (counted : base.Counted) :
    Spares permit base drawn edit.generateSshKey.toList.length edit.generateKey
      (fun key => ∀ pair, key = some pair → ¬ base.Reached pair.id) := by
  rw [generateKey]
  cases edit.generateSshKey with
  | none =>
      apply Spares.pure
      rintro pair ⟨⟩
  | some generation =>
      have tells : Request.Tells permit base drawn
          (.credential (.generateSshKey generation.request)) (fun key => ¬ base.Reached key.id) :=
        fun room _ kept => kept.new room
      refine .call 0 counted trivial tells (fun key new => .pure ?_) rfl
      rintro pair ⟨⟩
      exact new

/-- The creation of notes spares a base, and the notes are new. -/
theorem createNotes_spares (contents : List String) (counted : base.Counted) :
    Spares permit base drawn contents.length (contents.mapM createNote)
      (fun ids => ∀ id ∈ ids, ¬ base.Reached id) := by
  induction contents generalizing drawn with
  | nil =>
      rw [List.mapM_nil]
      exact .pure nofun
  | cons content rest inductionHypothesis =>
      rw [List.mapM_cons, List.length_cons, Nat.add_comm]
      have creates : Spares permit base drawn 1 (createNote content)
          (fun id => ¬ base.Reached id) := by
        have tells : Request.Tells permit base drawn
            (.credential (.createNote { name := Text.generatedName, content, tags := [] }))
            (fun note => ¬ base.Reached note.id) := fun room _ kept => kept.new room
        exact .call 0 counted trivial tells (fun note new => .pure new) rfl
      refine creates.bind fun id new => ?_
      refine inductionHypothesis.bind fun ids others => .pure ?_
      exact List.forall_mem_cons.mpr ⟨new, others⟩

/-- The preparation of an edit spares a base, and its artifacts are new. -/
theorem prepare_spares (edit : UnixEdit) (counted : base.Counted) :
    Spares permit base drawn edit.draws edit.prepare (fun prepared => prepared.2.New base) := by
  refine (edit.generateKey_spares counted).bind fun key newKey => ?_
  refine (createNotes_spares edit.noteContents counted).bind fun ids newIds => .pure ?_
  exact ⟨newKey, newIds⟩

end UnixEdit

namespace DiskBlueprint

variable {serverId : ResourceId}

/-- A build has prepared new artifacts and a disk for the server, or it connects an existing
disk. -/
def PreparedNew (blueprint : DiskBlueprint) (serverId : ResourceId) (base : Cloud) :
    Option Creation → Prop
  | none => ∃ spec diskId, blueprint = .connected spec diskId
  | some creation => 0 < blueprint.draws ∧ creation.request.serverId = serverId ∧
      creation.artifacts.New base

/-- The preparation of a disk spares a base, and it has prepared what is new or a disk that exists.
-/
theorem prepare_spares (blueprint : DiskBlueprint) (counted : base.Counted) :
    Spares permit base drawn (blueprint.draws - 1) (blueprint.prepare zone serverId)
      (blueprint.PreparedNew serverId base) := by
  have looks : ∀ request : Request, request.Looks → request.Quiet permit base :=
    fun _ looks => looks.quiet
  cases blueprint with
  | unix spec system edit =>
      refine .quietly counted (system.findArchive_orderly.mono looks) fun archive => ?_
      refine (edit.prepare_spares counted).bind fun prepared new => .pure ?_
      exact ⟨Nat.succ_pos _, rfl, new⟩
  | windows spec system edit =>
      refine .quietly counted (system.findArchive_orderly.mono looks) fun archive => .pure ?_
      exact ⟨Nat.one_pos, rfl, Artifacts.new_none⟩
  | fixedArchive spec system =>
      refine .quietly counted (system.findArchive_orderly.mono looks) fun archive => .pure ?_
      exact ⟨Nat.one_pos, rfl, Artifacts.new_none⟩
  | copied spec sourceDiskId sourceArchiveId edit =>
      cases edit with
      | none => exact .pure ⟨Nat.one_pos, rfl, Artifacts.new_none⟩
      | some edit =>
          refine (edit.prepare_spares counted).bind fun prepared new => .pure ?_
          exact ⟨Nat.succ_pos _, rfl, new⟩
  | blank spec => exact .pure ⟨Nat.one_pos, rfl, Artifacts.new_none⟩
  | connected spec diskId => exact .pure ⟨spec, diskId, rfl⟩

/-- The creation of a disk for a server that the base does not store spares the base. -/
theorem create_spares (spec : DiskSpec) (creation : Creation) (counted : base.Counted)
    (unlisted : base.servers.get? creation.request.serverId = none) :
    Spares permit base drawn 1 (create zone spec creation) (fun _ => True) := by
  rw [create]
  split
  · rw [← bind_pure (Build.call _ _)]
    exact .call 0 counted unlisted (Request.tells_true _) (fun _ _ => .pure trivial) rfl
  · rw [← bind_pure (Build.call _ _)]
    exact .call 0 counted unlisted (Request.tells_true _) (fun _ _ => .pure trivial) rfl

/-- A disk is built for no server of the base. If it exists already it may be connected. -/
theorem build_spares (blueprint : DiskBlueprint) (timing : Timing) (counted : base.Counted)
    (unlisted : base.servers.get? serverId = none)
    (connects : ∀ spec diskId, blueprint = .connected spec diskId → serverId.isUnset = false →
      (Request.disk zone (.connectToServer diskId serverId)).Harmless permit base) :
    Spares permit base drawn blueprint.draws (blueprint.build zone serverId timing)
      (fun _ => True) := by
  rw [build]
  refine .quietly counted (blueprint.validate_orderly.mono fun _ => Request.Looks.quiet) fun _ => ?_
  have total : blueprint.draws - 1 + (blueprint.draws - (blueprint.draws - 1)) =
      blueprint.draws := by omega
  rw [← total]
  refine (blueprint.prepare_spares counted).bind fun prepared ready => ?_
  cases prepared with
  | none =>
      obtain ⟨spec, diskId, rfl⟩ := ready
      exact .of_orderly counted (connect_orderly _ _ fun set => ⟨connects spec diskId rfl set, rfl⟩)
  | some creation =>
      obtain ⟨positive, rfl, new⟩ := ready
      have one : blueprint.draws - (blueprint.draws - 1) = 1 + 0 := by omega
      rw [one]
      refine (create_spares _ creation counted unlisted).bind fun created _ => ?_
      refine .quietly counted (awaitReady_orderly ⟨trivial, rfl⟩) fun _ => ?_
      exact .quietly counted new.dispose_orderly fun _ => .pure trivial

end DiskBlueprint

namespace ServerBlueprint

/-- These are the disks that exist already and that the server is going to get. -/
def connectedDisks (blueprint : ServerBlueprint) : List ResourceId :=
  blueprint.disks.filterMap fun disk =>
    match disk with
    | .connected _ diskId => some diskId
    | _ => none

/-- A disk that a blueprint connects is one of its connected disks. -/
theorem mem_connectedDisks {blueprint : ServerBlueprint} {spec : DiskSpec} {diskId : ResourceId}
    (listed : .connected spec diskId ∈ blueprint.disks) : diskId ∈ blueprint.connectedDisks :=
  List.mem_filterMap.mpr ⟨_, listed, rfl⟩

/-- The builds of the disks of a new server spare a base that permits the disks that they connect.
-/
theorem buildDisks_spares {disks : List DiskBlueprint} (timing : Timing) (counted : base.Counted)
    (new : ¬ base.Reached permit.host)
    (permitted : ∀ spec diskId, .connected spec diskId ∈ disks → diskId ∈ permit.disks) :
    Spares permit base drawn (drawsOf disks) (buildDisks zone permit.host timing disks)
      (fun _ => True) := by
  induction disks generalizing drawn with
  | nil => exact .pure trivial
  | cons disk rest inductionHypothesis =>
      have unlisted : base.servers.get? permit.host = none := by
        cases stored : base.servers.get? permit.host with
        | none => rfl
        | some server => exact absurd (counted.servers _ _ stored) new
      have connects : ∀ spec diskId, disk = .connected spec diskId →
          permit.host.isUnset = false →
            (Request.disk zone (.connectToServer diskId permit.host)).Harmless permit base := by
        rintro spec diskId rfl -
        exact ⟨permitted spec diskId List.mem_cons_self, rfl, new⟩
      refine (disk.build_spares timing counted unlisted connects).bind fun built _ => ?_
      refine (inductionHypothesis fun spec diskId member =>
        permitted spec diskId (List.mem_cons_of_mem _ member)).bind fun later _ => .pure trivial

/-- The first number that a build draws is the identifier of its server. -/
theorem create_tells (request : ServerCreateRequest) (host : permit.host = ⟨base.lastId + 1⟩) :
    (Request.server zone (.create request)).Tells permit base 0 (fun server =>
      server.id = permit.host ∧ ¬ base.Reached permit.host ∧
        ∀ interface ∈ server.interfaces, ¬ base.Reached interface.id) := by
  intro room cloud kept
  have room : base.lastId.toNat + (0 + (1 + request.connectedSwitches.length)) < UInt64.size := room
  have same : cloud.lastId = base.lastId := UInt64.toNat_inj.mp kept.counted
  have new : ¬ base.Reached ⟨base.lastId + 1⟩ := next_new (by omega)
  simp only [answerRequest, answerServer, createServer, CloudStep.yields_bind,
    CloudStep.yields_findServerPlan, CloudStep.yields_allocate, CloudStep.yields_createInterfaces,
    CloudStep.yields_insert, CloudStep.yields_pure]
  split
  · rw [same, host]
    refine ⟨rfl, new, fun interface member early => ?_⟩
    have next : (base.lastId + 1).toNat = base.lastId.toNat + 1 := next_toNat (by omega)
    have above := numberedInterfaces_above (by omega) interface member
    rw [Reached] at early
    omega
  · trivial

/-- A build of a server connects the disks that are permitted to the server that it creates. -/
theorem build_spares (blueprint : ServerBlueprint) (counted : base.Counted)
    (host : permit.host = ⟨base.lastId + 1⟩)
    (permitted : permit.disks = blueprint.connectedDisks) :
    Spares permit base 0 blueprint.draws (blueprint.build zone) (fun _ => True) := by
  rw [build]
  refine .quietly counted (blueprint.check_orderly.mono fun _ => Request.Looks.quiet)
    fun planId => ?_
  have nics : (blueprint.createRequest planId).connectedSwitches.length = blueprint.nics.length :=
    List.length_map _
  refine .call (drawsOf blueprint.disks + 0) counted trivial (create_tells _ host) ?_
    (congrArg (1 + · + _) nics)
  rintro server ⟨same, newServer, newInterfaces⟩
  rw [same]
  refine (buildDisks_spares _ counted newServer fun spec diskId listed => ?_).bind
    fun key _ => ?_
  · rw [permitted]
    exact mem_connectedDisks listed
  refine .quietly counted (configureNics_orderly _ _ _
    (fun interface member _ => ⟨newInterfaces interface member, rfl⟩)
    fun interface member _ => ⟨newInterfaces interface member, rfl⟩) fun _ => ?_
  refine .quietly counted (insertCdrom_orderly _ fun _ => ⟨newServer, rfl⟩) fun _ => ?_
  split
  · exact .quietly counted (boot_orderly _ ⟨newServer, rfl⟩ ⟨trivial, rfl⟩) fun _ => .pure trivial
  · exact .pure trivial

end ServerBlueprint

/-- The build of a database spares a counted base. -/
theorem DatabaseBlueprint.build_spares (blueprint : DatabaseBlueprint) (counted : base.Counted) :
    Spares permit base drawn 2 (blueprint.build zone) (fun _ => True) := by
  refine .quietly counted (blueprint.validate_orderly.mono fun _ => Request.Looks.quiet) fun _ => ?_
  have tells : (Request.database zone (.create blueprint.createRequest)).Tells permit base drawn
      (fun database => ¬ base.Reached database.id) := by
    intro room cloud kept
    have room : base.lastId.toNat + (drawn + 2) < UInt64.size := room
    simp only [answerRequest, answerDatabase, createDatabase, CloudStep.yields_bind,
      CloudStep.yields_find, CloudStep.yields_allocate, CloudStep.yields_freshHash,
      CloudStep.yields_insert, CloudStep.yields_track, CloudStep.yields_pure]
    split
    · exact kept.new (by omega)
    · trivial
  refine .call 0 counted trivial tells (fun created new => .of_orderly counted ?_) rfl
  refine .bind (.untilReady (.inr (.inl rfl)) ⟨new, rfl⟩) fun _ => ?_
  refine .bind (.forState (.inr (.inr (.inl rfl))) ⟨new, rfl⟩) fun _ => ?_
  exact (blueprint.applyParameters_orderly ⟨new, rfl⟩).bind fun _ => .pure _

namespace VpcRouterBlueprint

/-- A read of a new router shows a record with a new identifier. -/
theorem read_tells (new : ¬ base.Reached id) :
    (Request.vpcRouter zone (.read id)).Tells permit base drawn
      (fun router => ¬ base.Reached router.id) := by
  intro _ cloud kept
  have named : ∀ router, cloud.vpcRouters.get? id = some router → ¬ base.Reached router.id :=
    fun router stored => (kept.vpcRouterIds id router stored).resolve_left new ▸ new
  simp only [answerRequest, answerVpcRouter, CloudStep.yields_readSettling,
    CloudStep.yields_change, CloudStep.yields_find]
  repeat' split
  all_goals first | trivial | exact named _ ‹_›

/-- The build of a router spares a counted base. -/
theorem build_spares (blueprint : VpcRouterBlueprint) (counted : base.Counted) :
    Spares permit base drawn 3 (blueprint.build zone) (fun _ => True) := by
  rw [build_eq]
  refine .quietly counted (blueprint.validate_orderly.mono fun _ => Request.Looks.quiet) fun _ => ?_
  have tells : (Request.vpcRouter zone (.create blueprint.createRequest)).Tells permit base drawn
      (fun router => ¬ base.Reached router.id) := by
    intro room cloud kept
    have room : base.lastId.toNat + (drawn + 2) < UInt64.size := room
    exact kept.new (by omega)
  refine .call 1 counted trivial tells (fun created new => ?_) rfl
  refine .awaiting counted ⟨new, rfl⟩ (read_tells new) fun ready newReady => ?_
  refine .quietly counted (blueprint.connectNics_orderly fun _ _ => ⟨new, rfl⟩) fun _ => ?_
  refine .call 0 counted newReady (Request.tells_true _) (fun _ _ => ?_) rfl
  exact .of_orderly counted
    (blueprint.conclude_orderly ready ⟨newReady, rfl⟩ ⟨new, rfl⟩ ⟨new, rfl⟩)

end VpcRouterBlueprint

namespace MobileGatewayBlueprint

/-- A read of a new gateway shows a record with a new identifier. -/
theorem read_tells (new : ¬ base.Reached id) :
    (Request.mobileGateway zone (.read id)).Tells permit base drawn
      (fun gateway => ¬ base.Reached gateway.id) := by
  intro _ cloud kept
  have named : ∀ gateway, cloud.mobileGateways.get? id = some gateway →
      ¬ base.Reached gateway.id :=
    fun gateway stored => (kept.mobileGatewayIds id gateway stored).resolve_left new ▸ new
  simp only [answerRequest, answerMobileGateway, CloudStep.yields_readSettling,
    CloudStep.yields_change, CloudStep.yields_find]
  repeat' split
  all_goals first | trivial | exact named _ ‹_›

/-- A build of a gateway gives the cards that are permitted the addresses that are listed. -/
theorem build_spares (blueprint : MobileGatewayBlueprint) (counted : base.Counted)
    (permitted : permit.sims = blueprint.sims) :
    Spares permit base drawn 3 (blueprint.build zone) (fun _ => True) := by
  rw [build_eq]
  refine .quietly counted (blueprint.validate_orderly.mono fun _ => Request.Looks.quiet) fun _ => ?_
  have tells : (Request.mobileGateway zone (.create blueprint.createRequest)).Tells permit base
      drawn (fun gateway => ¬ base.Reached gateway.id) := by
    intro room cloud kept
    have room : base.lastId.toNat + (drawn + 2) < UInt64.size := room
    exact kept.new (by omega)
  refine .call 1 counted trivial tells (fun created new => ?_) rfl
  refine .awaiting counted ⟨new, rfl⟩ (read_tells new) fun ready newReady => ?_
  refine .quietly counted (blueprint.connect_orderly fun _ => ⟨new, rfl⟩) fun _ => ?_
  refine .call 0 counted newReady (Request.tells_true _) (fun _ _ => ?_) rfl
  have assigns : ∀ sim ∈ blueprint.sims,
      (Request.sim (.assignIp sim.simId sim.ipAddress)).Quiet permit base := by
    intro sim listed
    rw [← permitted] at listed
    exact ⟨listed, rfl⟩
  exact .of_orderly counted (blueprint.conclude_orderly ready ⟨newReady, rfl⟩
    (fun _ => ⟨new, rfl⟩) (fun _ => ⟨new, rfl⟩) assigns (fun _ => ⟨new, rfl⟩) ⟨new, rfl⟩
    ⟨new, rfl⟩)

end MobileGatewayBlueprint

/-- The build of a registry spares a counted base. -/
theorem ContainerRegistryBlueprint.build_spares (blueprint : ContainerRegistryBlueprint)
    (counted : base.Counted) :
    Spares permit base drawn 1 blueprint.build (fun _ => True) := by
  refine .quietly counted (.lift blueprint.validate) fun _ => ?_
  have tells : (Request.containerRegistry (.create blueprint.createRequest)).Tells permit base
      drawn (fun registry => ¬ base.Reached registry.id) := fun room _ kept => kept.new room
  refine .call 0 counted trivial tells (fun created new => .of_orderly counted ?_) rfl
  refine .bind (.untilReady rfl ⟨new, rfl⟩) fun _ => ?_
  exact (ContainerRegistryBlueprint.addUsers_orderly _ fun _ => ⟨new, rfl⟩).bind fun _ => .pure _

/-- The build of a local router spares a counted base. -/
theorem LocalRouterBlueprint.build_spares (blueprint : LocalRouterBlueprint)
    (counted : base.Counted) :
    Spares permit base drawn 3 blueprint.build (fun _ => True) := by
  refine .quietly counted (blueprint.validate_orderly.mono fun _ => Request.Looks.quiet) fun _ => ?_
  have tells : (Request.localRouter (.create blueprint.createRequest)).Tells permit base drawn
      (fun router => ¬ base.Reached router.id) := by
    intro room cloud kept
    have room : base.lastId.toNat + (drawn + 2) < UInt64.size := room
    exact kept.new (by omega)
  refine .call 1 counted trivial tells (fun created new => ?_) rfl
  refine .awaiting counted ⟨trivial, rfl⟩ (Request.tells_true _) fun ready _ => ?_
  have updates : (blueprint.applySettings created.id ready.settingsHash >>= fun _ =>
      Pure.pure (BuildResult.ofId created.id)) = (Build.call "update local router settings"
        (.localRouter (.updateSettings created.id blueprint.settings ready.settingsHash)) >>=
          fun _ => Pure.pure (BuildResult.ofId created.id)) := by
    simp only [applySettings, bind_assoc, pure_bind]
  rw [updates]
  exact .call 0 counted new (Request.tells_true _) (fun _ _ => .pure trivial) rfl

end Builds

namespace Blueprint

/-- A build draws this many numbers when it succeeds. -/
def draws : Blueprint → Nat
  | disk _ _ _ blueprint => blueprint.draws
  | server _ blueprint => blueprint.draws
  | database .. => 2
  | vpcRouter .. => 3
  | mobileGateway .. => 3
  | containerRegistry _ => 1
  | localRouter _ => 3

/-- A server may get the disks that it connects, and a gateway may give its cards their
addresses. -/
def permitIn (base : Cloud) : Blueprint → Permit
  | server _ blueprint => ⟨blueprint.connectedDisks, ⟨base.lastId + 1⟩, []⟩
  | mobileGateway _ blueprint => ⟨[], .unset, blueprint.sims⟩
  | _ => ⟨[], .unset, []⟩

/-- A disk of its own is built for no server, and no server is stored under the empty identifier. -/
def Detached (base : Cloud) : Blueprint → Prop
  | disk _ serverId _ _ => serverId = .unset ∧ base.servers.get? .unset = none
  | _ => True

variable {base : Cloud} (blueprint : Blueprint)

/-- The build of any detached blueprint spares a counted base that permits what the blueprint
connects. -/
theorem build_spares (counted : base.Counted) (detached : blueprint.Detached base) :
    Spares (blueprint.permitIn base) base 0 blueprint.draws blueprint.build (fun _ => True) := by
  cases blueprint with
  | disk zone serverId timing blueprint =>
      obtain ⟨rfl, unlisted⟩ := detached
      exact blueprint.build_spares timing counted unlisted fun _ _ _ set => nomatch set
  | server zone blueprint => exact blueprint.build_spares counted rfl rfl
  | database zone blueprint => exact blueprint.build_spares counted
  | vpcRouter zone blueprint => exact blueprint.build_spares counted
  | mobileGateway zone blueprint => exact blueprint.build_spares counted rfl
  | containerRegistry blueprint => exact blueprint.build_spares counted
  | localRouter blueprint => exact blueprint.build_spares counted

/-- Builds do not disturb what exists. Take a cloud whose counter has reached all identifiers that
it stores and does not overflow, and any failures and any context. When a build ends, with success
or with a failure, every record of the cloud is still stored, and only what is permitted has
changed. -/
theorem build_undisturbed (context : Context) (world : World Cloud)
    (counted : world.store.Counted) (detached : blueprint.Detached world.store)
    (room : world.store.lastId.toNat + blueprint.draws < UInt64.size) :
    Undisturbed (blueprint.permitIn world.store) world.store
      (blueprint.build.run.run context Cloud.remote world).2.store := by
  have spares := blueprint.build_spares counted detached context world (.refl counted)
    ((Nat.zero_add blueprint.draws).symm ▸ room)
  unfold Yields at spares
  generalize blueprint.build.run.run context Cloud.remote world = result at spares
  obtain ⟨outcome, after⟩ := result
  cases outcome with
  | ok value => exact spares.1.toUndisturbed
  | error error => exact spares

/-- A server gets an existing disk before its boot fails, and the disk is the only record that the
build has changed. -/
theorem server_without_boot_leaves_rest :
    let disk : Disk :=
      { (default : Disk) with id := ⟨7⟩, name := "data", availability := .available }
    let failure : RemoteError := .api 503 "busy" "try again later"
    let seeded := (Cloud.empty.seedServerPlan default).seedDisk disk
    let cloud := seeded.failTimes .bootServer 1 failure
    let spec : ServerBlueprint :=
      { (default : ServerBlueprint) with
        name := "web"
        disks := [.connected default ⟨7⟩]
        bootAfterCreate := true
        timing := .uniform 1 5 }
    let run := (Blueprint.server ⟨"is1a"⟩ spec).build.run.run default Cloud.remote ⟨default, cloud⟩
    run.1 = .error (.remote "boot server 1001" failure) ∧
      run.2.store.disks.get? ⟨7⟩ = some { disk with serverId := ⟨1001⟩ } ∧
      Undisturbed ⟨[⟨7⟩], ⟨1001⟩, []⟩ cloud run.2.store := by
  intro disk failure seeded cloud spec run
  have counted : cloud.Counted :=
    { counted_empty with disks := numbers_of_entries (by decide) }
  exact ⟨by decide +kernel, by decide +kernel,
    build_undisturbed (.server ⟨"is1a"⟩ spec) default ⟨default, cloud⟩ counted trivial (by decide)⟩

/-- A server that is stored under the empty identifier may be disturbed in two ways. A disk without
a server joins it, and a counter that overflows gives its identifier to another server. -/
theorem unset_server_is_disturbed :
    let server : Server := { (default : Server) with name := "web" }
    let stored := (Cloud.empty.seedDiskPlan ⟨4⟩ "SSD" [20]).seedServer server
    let full : Cloud := { (stored.seedServerPlan default) with lastId := 18446744073709551615 }
    let root : DiskSpec := { (default : DiskSpec) with name := "root", planId := ⟨4⟩, sizeGb := 20 }
    let other : ServerBlueprint :=
      { (default : ServerBlueprint) with name := "other", timing := .uniform 1 5 }
    let joining := (Blueprint.disk ⟨"is1a"⟩ .unset (.uniform 1 5) (.blank root)).build.run.run
      default Cloud.remote ⟨default, stored⟩
    let replacing := (Blueprint.server ⟨"is1a"⟩ other).build.run.run default Cloud.remote
      ⟨default, full⟩
    (stored.Counted ∧ full.Counted ∧ server.id = .unset) ∧
      (stored.servers.get? .unset = some server ∧ full.servers.get? .unset = some server) ∧
      ¬ Keeps stored.servers joining.2.store.servers ∧
      ¬ Keeps full.servers replacing.2.store.servers := by
  intro server stored full root other joining replacing
  have bare : ∀ entry ∈ stored.servers.entries, entry.2.interfaceIds = [] := by decide
  have counted : stored.Counted :=
    { counted_empty with
      servers := numbers_of_entries (by decide)
      interfaces := fun id found holds interface listed => by
        rw [bare _ (SortedMap.mem_of_find? holds)] at listed
        nomatch listed }
  have countedFull : full.Counted :=
    .of_reached fun id => Nat.le_sub_one_of_lt id.value.toNat_lt
  have disturbed : ∀ {after : Records Server} {now : Server}, after.get? .unset = some now →
      now ≠ server → ¬ Keeps stored.servers after := by
    intro after now holds differs kept
    obtain ⟨same, found, rfl⟩ := kept .unset server rfl
    exact differs (Option.some.inj (holds.symm.trans found))
  have joined : joining.2.store.servers.get? .unset = some { server with diskIds := [⟨1001⟩] } := by
    decide
  have replaced : replacing.2.store.servers.get? .unset = some { server with name := "other" } := by
    decide +kernel
  refine ⟨⟨counted, countedFull, rfl⟩, ⟨rfl, rfl⟩, disturbed joined fun same => ?_,
    disturbed replaced fun same => ?_⟩
  · nomatch congrArg Server.diskIds same
  · exact absurd (congrArg Server.name same) (by decide)

end Blueprint

end Provisioning
