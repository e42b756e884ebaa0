import Provisioning.Proofs.Repetition

/-!
Rules for servers. A server has a plan that is the only one of its shape, interfaces that fit the
cloud, and disks that pass their own validations. The main statement says which blueprints pass the
validation, and that the order in which a cloud lists its plans does not matter.
-/

namespace Provisioning

open Program Cloud

namespace ServerPlanQuery

/-- A query describes a plan when the plan has the shape that is asked for and can be ordered. A
query for any generation leaves the generation open. -/
structure Describes (query : ServerPlanQuery) (plan : ServerPlan) : Prop where
  cpu : plan.cpu = query.cpu
  memoryGb : plan.memoryGb = query.memoryGb
  gpu : plan.gpu = query.gpu
  commitment : plan.commitment = query.commitment
  generation : query.generation ≠ .any → plan.generation = query.generation
  available : plan.availability = .available

/-- A query singles out a plan when it describes the plan in one place of a list and no plan in any
other place. -/
def SinglesOut (query : ServerPlanQuery) (plans : List ServerPlan) (plan : ServerPlan) : Prop :=
  query.Describes plan ∧ ∃ before after, plans = before ++ plan :: after ∧
    ∀ other ∈ before ++ after, ¬ query.Describes other

variable {query : ServerPlanQuery} {plans : List ServerPlan} {plan : ServerPlan}

/-- A plan answers a query exactly when the query describes it. -/
theorem isAnsweredBy_iff : query.isAnsweredBy plan = true ↔ query.Describes plan := by
  have open_iff : (query.generation == .any || plan.generation == query.generation) = true ↔
      (query.generation ≠ .any → plan.generation = query.generation) := by
    rw [Bool.or_eq_true, beq_iff_eq, beq_iff_eq, or_iff_not_imp_left]
  rw [isAnsweredBy, Bool.and_eq_true, Bool.and_eq_true, Bool.and_eq_true, Bool.and_eq_true,
    Bool.and_eq_true, open_iff]
  simp only [beq_iff_eq]
  constructor
  · rintro ⟨⟨⟨⟨⟨cpu, memoryGb⟩, gpu⟩, commitment⟩, generation⟩, available⟩
    exact ⟨cpu, memoryGb, gpu, commitment, generation, available⟩
  · rintro ⟨cpu, memoryGb, gpu, commitment, generation, available⟩
    exact ⟨⟨⟨⟨⟨cpu, memoryGb⟩, gpu⟩, commitment⟩, generation⟩, available⟩

/-- The plan that is singled out is the one that answers the query. -/
theorem singlesOut_iff :
    query.SinglesOut plans plan ↔ plans.filter query.isAnsweredBy = [plan] := by
  rw [List.filter_eq_cons_iff]
  simp only [isAnsweredBy_iff, List.filter_eq_nil_iff]
  constructor
  · rintro ⟨described, before, after, same, others⟩
    exact ⟨before, after, same, fun other member => others other (List.mem_append_left _ member),
      described, fun other member => others other (List.mem_append_right _ member)⟩
  · rintro ⟨before, after, same, former, described, latter⟩
    refine ⟨described, before, after, same, fun other member => ?_⟩
    exact (List.mem_append.mp member).elim (former other) (latter other)

end ServerPlanQuery

/-- An interface fits a cloud when its switch and its packet filter are stored there. Only on a
switch does it display an address. -/
structure NicSpec.Fits (nic : NicSpec) (cloud : Cloud) : Prop where
  switch : ∀ id, nic.uplink = .switch id → (cloud.switches.get? id).isSome
  display : nic.displayIpAddress.isSome → ∃ id, nic.uplink = .switch id
  filter : nic.packetFilterId ≠ .unset → (cloud.packetFilters.get? nic.packetFilterId).isSome

namespace ServerBlueprint

/-- A blueprint follows the rules in a cloud when it has a name, at most nine further interfaces
besides a primary one, a plan that is the only one of its shape, interfaces that fit, and an optical
disc that is stored. -/
structure FollowsRules (blueprint : ServerBlueprint) (cloud : Cloud) : Prop where
  name : ∃ char ∈ blueprint.name.toList, Text.isBlankChar char = false
  primary : blueprint.nic = none → blueprint.additionalNics = []
  few : blueprint.additionalNics.length ≤ 9
  plan : ∃ plan, blueprint.plan.SinglesOut cloud.serverPlans plan
  nics : ∀ nic ∈ blueprint.nics, nic.Fits cloud
  cdrom : blueprint.cdromId ≠ .unset → (cloud.cdroms.get? blueprint.cdromId).isSome

variable {query : ServerPlanQuery} {plans others : List ServerPlan} {planId : ResourceId}
  {blueprint : ServerBlueprint} {context : Context} {base now world : World Cloud} {zone : Zone}

/-- A plan is chosen exactly when the query singles it out. -/
theorem choosePlan_eq_ok_iff : choosePlan query plans = .ok planId ↔
    ∃ plan, query.SinglesOut plans plan ∧ plan.id = planId := by
  constructor
  · intro chosen
    obtain ⟨plan, only, same⟩ := choosePlan_eq_ok chosen
    exact ⟨plan, ServerPlanQuery.singlesOut_iff.mpr only, same⟩
  · rintro ⟨plan, single, rfl⟩
    rw [choosePlan, ServerPlanQuery.singlesOut_iff.mp single]

/-- Plans that answer a query are counted, and only a single one is chosen. -/
theorem choosePlan_perm (reordered : others.Perm plans) :
    choosePlan query others = choosePlan query plans := by
  have answers := reordered.filter query.isAnsweredBy
  unfold choosePlan
  generalize others.filter query.isAnsweredBy = left at answers
  generalize plans.filter query.isAnsweredBy = right at answers
  rcases right with _ | ⟨first, _ | ⟨second, rest⟩⟩
  · rw [List.perm_nil.mp answers]
  · rw [List.perm_singleton.mp answers]
  · rcases left with _ | ⟨one, _ | ⟨two, more⟩⟩
    · nomatch answers.length_eq
    · nomatch answers.length_eq
    · rfl

/-- The count of interfaces is accepted exactly when the further ones come with a primary one and
are at most nine. -/
theorem checkNicCount_eq_ok_iff : blueprint.checkNicCount = .ok () ↔
    (blueprint.nic = none → blueprint.additionalNics = []) ∧
      blueprint.additionalNics.length ≤ 9 := by
  have primary : (blueprint.nic.isSome || blueprint.additionalNics.isEmpty) = true ↔
      (blueprint.nic = none → blueprint.additionalNics = []) := by
    cases blueprint.nic <;> simp
  rw [checkNicCount, Check.bind_eq_ok, Check.require_eq_ok, Check.require_eq_ok, primary,
    decide_eq_true_iff]
  exact Iff.rfl

section Lookups

/-- The packet filter of an interface is looked up when it is set. -/
def readPacketFilter (zone : Zone) (nic : NicSpec) : Build Unit :=
  nic.packetFilterId.set?.elim (pure ()) fun id =>
    Build.seek "read packet filter" (.catalogue zone (.readPacketFilter id))

/-- The validation of an interface on a switch looks up the switch and the packet filter. -/
theorem validateNic_of_switch {nic : NicSpec} {id : ResourceId}
    (plugged : nic.uplink = .switch id) : validateNic zone nic = (do
      Build.seek "read switch" (.catalogue zone (.readSwitch id))
      readPacketFilter zone nic) := by
  rw [validateNic, plugged, readPacketFilter, Build.seek, bind_assoc]
  cases nic.packetFilterId.set? <;> rfl

/-- The validation of any other interface requires that it displays no address, and looks up the
packet filter. -/
theorem validateNic_of_no_switch {nic : NicSpec} (unplugged : ∀ id, nic.uplink ≠ .switch id) :
    validateNic zone nic = (do
      Check.require "server" nic.displayIpAddress.isNone
        "a display IP address needs a NIC plugged into a switch"
      readPacketFilter zone nic) := by
  rw [validateNic, readPacketFilter]
  cases uplink : nic.uplink with
  | switch id => exact absurd uplink (unplugged id)
  | shared => cases nic.packetFilterId.set? <;> rfl
  | disconnected => cases nic.packetFilterId.set? <;> rfl

/-- An optical disc is looked up when it is set. -/
theorem readCdrom_eq (cdromId : ResourceId) :
    readCdrom zone cdromId = cdromId.set?.elim (pure ()) fun id =>
      Build.seek "read ISO image" (.catalogue zone (.readCdrom id)) := by
  rw [readCdrom]
  cases cdromId.set? <;> rfl

theorem seekSwitch_repeats (id : ResourceId) :
    Repeats context base (Build.seek "read switch" (.catalogue zone (.readSwitch id))) :=
  .seek (.catalogue zone (.readSwitch id)) switchTable id {}

theorem readPacketFilter_repeats (nic : NicSpec) :
    Repeats context base (readPacketFilter zone nic) :=
  .whenSet (.seek (.catalogue zone (.readPacketFilter _)) packetFilterTable _ {})

theorem validateNic_repeats (nic : NicSpec) : Repeats context base (validateNic zone nic) := by
  by_cases plugged : ∃ id, nic.uplink = .switch id
  · obtain ⟨id, plugged⟩ := plugged
    rw [validateNic_of_switch plugged]
    exact (seekSwitch_repeats id).bind fun _ => readPacketFilter_repeats nic
  · rw [validateNic_of_no_switch (not_exists.mp plugged)]
    exact (Repeats.lift _).bind fun _ => readPacketFilter_repeats nic

theorem readCdrom_repeats (cdromId : ResourceId) :
    Repeats context base (readCdrom zone cdromId) := by
  rw [readCdrom_eq]
  exact .whenSet (.seek (.catalogue zone (.readCdrom cdromId)) cdromTable cdromId {})

variable (here : base.Resembles now)

include here

/-- The search for a packet filter passes exactly when the filter is stored or not set. -/
theorem readPacketFilter_passes_iff {nic : NicSpec} :
    (readPacketFilter zone nic).outcome context now = .ok () ↔
      (nic.packetFilterId ≠ .unset →
        (base.store.packetFilters.get? nic.packetFilterId).isSome) := by
  rw [readPacketFilter, Build.outcome_whenSet,
    Repeats.outcome_seek (.catalogue zone (.readPacketFilter _)) packetFilterTable _ {} here]
  exact Iff.rfl

/-- An interface passes when it fits the cloud. -/
theorem validateNic_passes_iff {nic : NicSpec} :
    (validateNic zone nic).outcome context now = .ok () ↔ nic.Fits base.store := by
  by_cases plugged : ∃ id, nic.uplink = .switch id
  · obtain ⟨id, plugged⟩ := plugged
    have switch :
        (Build.seek "read switch" (.catalogue zone (.readSwitch id))).outcome context now = .ok () ↔
          (base.store.switches.get? id).isSome :=
      Repeats.outcome_seek (.catalogue zone (.readSwitch id)) switchTable id {} here
    rw [validateNic_of_switch plugged,
      Build.outcome_bind ((seekSwitch_repeats id).resembles here) here
        fun _ => readPacketFilter_repeats nic,
      Check.bind_eq_ok, switch, readPacketFilter_passes_iff here]
    constructor
    · rintro ⟨stored, filter⟩
      refine ⟨fun other named => ?_, fun _ => ⟨id, plugged⟩, filter⟩
      cases plugged.symm.trans named
      exact stored
    · exact fun fits => ⟨fits.switch id plugged, fits.filter⟩
  · have unplugged := not_exists.mp plugged
    rw [validateNic_of_no_switch unplugged, Build.outcome_check_bind, Check.bind_eq_ok,
      Check.require_eq_ok, readPacketFilter_passes_iff here, Option.isNone_iff_eq_none]
    constructor
    · rintro ⟨hidden, filter⟩
      refine ⟨fun id named => absurd named (unplugged id), fun displayed => ?_, filter⟩
      rw [hidden] at displayed
      nomatch displayed
    · intro fits
      refine ⟨Option.not_isSome_iff_eq_none.mp fun displayed => ?_, fits.filter⟩
      exact plugged (fits.display displayed)

/-- The search for an optical disc passes exactly when the disc is stored or not set. -/
theorem readCdrom_passes_iff {cdromId : ResourceId} :
    (readCdrom zone cdromId).outcome context now = .ok () ↔
      (cdromId ≠ .unset → (base.store.cdroms.get? cdromId).isSome) := by
  rw [readCdrom_eq, Build.outcome_whenSet,
    Repeats.outcome_seek (.catalogue zone (.readCdrom cdromId)) cdromTable cdromId {} here]
  exact Iff.rfl

end Lookups

section Inspection

/-- This is what a check looks at once the plan is found. -/
def inspect (zone : Zone) (blueprint : ServerBlueprint) : Build Unit := do
  blueprint.nics.forM (validateNic zone)
  readCdrom zone blueprint.cdromId
  blueprint.disks.forM (DiskBlueprint.validate zone)

/-- What a check looks at after the plan repeats itself. -/
theorem inspect_repeats : Repeats context base (blueprint.inspect zone) := by
  apply (Repeats.forM validateNic_repeats).bind
  intro _
  apply (readCdrom_repeats blueprint.cdromId).bind
  intro _
  exact .forM DiskBlueprint.validate_repeats

/-- An inspection passes when every part of it passes on its own. -/
theorem inspect_passes_iff (here : base.Resembles now) :
    (blueprint.inspect zone).outcome context now = .ok () ↔
      (∀ nic ∈ blueprint.nics, nic.Fits base.store) ∧
        (blueprint.cdromId ≠ .unset → (base.store.cdroms.get? blueprint.cdromId).isSome) ∧
        ∀ disk ∈ blueprint.disks, (disk.validate zone).outcome context now = .ok () := by
  have nics : Repeats context base (blueprint.nics.forM (validateNic zone)) :=
    .forM validateNic_repeats
  have disks : Repeats context base (blueprint.disks.forM (DiskBlueprint.validate zone)) :=
    .forM DiskBlueprint.validate_repeats
  have cdrom : Repeats context base (readCdrom zone blueprint.cdromId) := readCdrom_repeats _
  rw [inspect, Build.outcome_bind (nics.resembles here) here fun _ => cdrom.bind fun _ => disks,
    Build.outcome_bind (cdrom.resembles here) here fun _ => disks, Check.bind_eq_ok,
    Check.bind_eq_ok, Repeats.outcome_forM validateNic_repeats here,
    Repeats.outcome_forM DiskBlueprint.validate_repeats here, Check.forM_eq_ok, Check.forM_eq_ok,
    readCdrom_passes_iff here]
  simp only [validateNic_passes_iff here]

end Inspection

section Plans

/-- The plan is chosen among the plans of the cloud, and the cloud is only looked at. -/
theorem outcome_resolvePlan (here : base.Resembles now) :
    base.Resembles ((blueprint.resolvePlan zone).aftermath context now) ∧
      (blueprint.resolvePlan zone).outcome context now =
        choosePlan blueprint.plan now.store.serverPlans := by
  apply Build.outcome_of_yields
  rw [resolvePlan, yields_bind]
  apply yields_silent_call here.silent
  change Yields context Cloud.remote
    (liftM (choosePlan blueprint.plan now.store.serverPlans) : Build ResourceId) _ _ _
  rw [yields_liftExcept]
  cases chosen : choosePlan blueprint.plan now.store.serverPlans with
  | ok planId => exact ⟨here.logging _, rfl⟩
  | error error => exact ⟨here.logging _, rfl⟩

/-- A check looks at the name, the count of interfaces and the plan, and then at everything else. -/
theorem check_eq : blueprint.check zone = (do
    Check.requireNonBlank "server" "name" blueprint.name
    blueprint.checkNicCount
    let planId ← blueprint.resolvePlan zone
    blueprint.inspect zone
    return planId) := by
  simp only [check, inspect, bind_assoc]

/-- A check comes to what its parts come to, one after the other. -/
theorem outcome_check (here : base.Resembles now) :
    (blueprint.check zone).outcome context now = (do
      Check.requireNonBlank "server" "name" blueprint.name
      blueprint.checkNicCount
      let planId ← choosePlan blueprint.plan now.store.serverPlans
      (blueprint.inspect zone).outcome context now
      return planId) := by
  have resolved : _ ∧ (blueprint.resolvePlan zone).outcome context now = _ :=
    outcome_resolvePlan here
  rw [check_eq, Build.outcome_check_bind]
  refine bind_congr fun _ => ?_
  rw [Build.outcome_check_bind]
  refine bind_congr fun _ => ?_
  rw [Build.outcome_bind resolved.1 here fun planId => inspect_repeats.bind fun _ => .pure planId,
    resolved.2]
  refine bind_congr fun planId => ?_
  rw [Build.outcome_bind (inspect_repeats.resembles here) here fun _ => .pure planId]
  rfl

/-- A check passes with a plan exactly when each of its parts passes and the plan is the one that is
chosen. -/
theorem check_passes_iff (here : base.Resembles now) :
    (blueprint.check zone).outcome context now = .ok planId ↔
      Check.requireNonBlank "server" "name" blueprint.name = .ok () ∧
        blueprint.checkNicCount = .ok () ∧
        choosePlan blueprint.plan now.store.serverPlans = .ok planId ∧
        (blueprint.inspect zone).outcome context now = .ok () := by
  rw [outcome_check here]
  constructor
  · intro passed
    obtain ⟨_, name, passed⟩ := Check.of_bind passed
    obtain ⟨_, count, passed⟩ := Check.of_bind passed
    obtain ⟨chosen, plan, passed⟩ := Check.of_bind passed
    obtain ⟨_, sound, same⟩ := Check.of_bind passed
    cases same
    exact ⟨name, count, plan, sound⟩
  · rintro ⟨name, count, plan, sound⟩
    rw [name, count, plan, sound]
    rfl

/-- A validation is a check without its plan. -/
theorem outcome_validate : (blueprint.validate zone).outcome context now =
    ((blueprint.check zone).outcome context now).map fun _ => () := by
  unfold Build.outcome
  rw [validate, ExceptT.run_bind, run_bind]
  generalize (blueprint.check zone).run.run context Cloud.remote now = result
  obtain ⟨outcome, after⟩ := result
  cases outcome <;> rfl

/-- A validation passes when the check finds some plan. -/
theorem validate_passes_of_check : (blueprint.validate zone).outcome context now = .ok () ↔
    ∃ planId, (blueprint.check zone).outcome context now = .ok planId := by
  rw [outcome_validate]
  cases (blueprint.check zone).outcome context now with
  | error error => exact ⟨nofun, nofun⟩
  | ok planId => exact ⟨fun _ => ⟨planId, rfl⟩, fun _ => rfl⟩

/-- In another order of the plans a check comes to the same outcome. -/
theorem check_of_perm (silent : world.store.failures = [])
    (reordered : plans.Perm world.store.serverPlans) :
    (blueprint.check zone).outcome context
        { world with store := { world.store with serverPlans := plans } } =
      (blueprint.check zone).outcome context world := by
  have same := World.Resembles.refl silent
  have replanned := World.Resembles.replanned silent plans
  rw [outcome_check replanned, outcome_check same, choosePlan_perm reordered,
    inspect_repeats.alike replanned same]

end Plans

/-- In a cloud without announced failures a validation passes exactly when the blueprint follows the
rules and each of its disks passes a validation of its own. The plan that a check answers is the one
that is singled out. The order of the plans matters neither to the plan nor to the outcome. -/
theorem validate_passes_iff_rules (blueprint : ServerBlueprint) (context : Context)
    (world : World Cloud) (zone : Zone) (silent : world.store.failures = []) :
    ((blueprint.validate zone).outcome context world = .ok () ↔
      blueprint.FollowsRules world.store ∧
        ∀ disk ∈ blueprint.disks, (disk.validate zone).outcome context world = .ok ()) ∧
    (∀ planId, (blueprint.check zone).outcome context world = .ok planId →
      ∃ plan, blueprint.plan.SinglesOut world.store.serverPlans plan ∧ plan.id = planId) ∧
    ∀ plans, plans.Perm world.store.serverPlans →
      let reordered : World Cloud :=
        { world with store := { world.store with serverPlans := plans } }
      (blueprint.resolvePlan zone).outcome context reordered =
          (blueprint.resolvePlan zone).outcome context world ∧
        (blueprint.check zone).outcome context reordered =
          (blueprint.check zone).outcome context world ∧
        (blueprint.validate zone).outcome context reordered =
          (blueprint.validate zone).outcome context world := by
  have here := World.Resembles.refl silent
  refine ⟨?_, fun planId passed => ?_, fun plans same => ⟨?_, check_of_perm silent same, ?_⟩⟩
  · rw [validate_passes_of_check]
    simp only [check_passes_iff here, Check.requireNonBlank_eq_ok, checkNicCount_eq_ok_iff,
      inspect_passes_iff here, choosePlan_eq_ok_iff]
    constructor
    · rintro ⟨planId, name, ⟨primary, few⟩, ⟨plan, single, -⟩, nics, cdrom, disks⟩
      exact ⟨⟨name, primary, few, ⟨plan, single⟩, nics, cdrom⟩, disks⟩
    · rintro ⟨⟨name, primary, few, ⟨plan, single⟩, nics, cdrom⟩, disks⟩
      exact ⟨plan.id, name, ⟨primary, few⟩, ⟨plan, single, rfl⟩, nics, cdrom, disks⟩
  · exact choosePlan_eq_ok_iff.mp ((check_passes_iff here).mp passed).2.2.1
  · rw [(outcome_resolvePlan (.replanned silent plans)).2, (outcome_resolvePlan here).2]
    exact choosePlan_perm same
  · rw [outcome_validate, outcome_validate, check_of_perm silent same]

/-- A server passes with the only plan of its generation, wherever that plan is listed. -/
theorem server_passes_in_either_order :
    let older : ServerPlan := { (default : ServerPlan) with id := ⟨1⟩, generation := .g100 }
    let newer : ServerPlan := { (default : ServerPlan) with id := ⟨2⟩, generation := .g200 }
    let blueprint : ServerBlueprint :=
      { (default : ServerBlueprint) with
        name := "web"
        plan := { (default : ServerPlanQuery) with generation := .g200 }
        nic := some ⟨.switch ⟨500⟩, ⟨600⟩, some ⟨192, 0, 2, 1⟩⟩
        cdromId := ⟨700⟩
        disks := [.connected default ⟨800⟩] }
    let cloud := ((Cloud.empty.seedSwitch ⟨500⟩).seedPacketFilter ⟨600⟩).seedCdrom ⟨700⟩
    let world : World Cloud :=
      ⟨default, { cloud.seedDisk { (default : Disk) with id := ⟨800⟩ } with
        serverPlans := [older, newer] }⟩
    let reordered : World Cloud :=
      { world with store := { world.store with serverPlans := [newer, older] } }
    (blueprint.validate ⟨"is1a"⟩).outcome default world = .ok () ∧
      (blueprint.validate ⟨"is1a"⟩).outcome default reordered = .ok () ∧
      (blueprint.check ⟨"is1a"⟩).outcome default reordered = .ok ⟨2⟩ := by
  intro older newer blueprint cloud world reordered
  obtain ⟨passes, answers, same⟩ :=
    validate_passes_iff_rules blueprint default world ⟨"is1a"⟩ rfl
  have disks : ∀ disk ∈ blueprint.disks,
      (disk.validate ⟨"is1a"⟩).outcome default world = .ok () :=
    List.forall_mem_singleton.mpr rfl
  have nics : ∀ nic ∈ blueprint.nics, nic.Fits world.store := by
    refine List.forall_mem_singleton.mpr ⟨fun id plugged => ?_, fun _ => ⟨_, rfl⟩, fun _ => ?_⟩
    · cases plugged
      decide
    · decide
  have only : world.store.serverPlans.filter blueprint.plan.isAnsweredBy = [newer] := by decide
  have rules : blueprint.FollowsRules world.store :=
    { name := ⟨'w', by decide, by decide⟩
      primary := nofun
      few := Nat.zero_le 9
      plan := ⟨newer, ServerPlanQuery.singlesOut_iff.mpr only⟩
      nics := nics
      cdrom := fun _ => by decide }
  have valid := passes.mpr ⟨rules, disks⟩
  obtain ⟨planId, chosen⟩ := validate_passes_of_check.mp valid
  obtain ⟨plan, single, rfl⟩ := answers planId chosen
  cases only.symm.trans (ServerPlanQuery.singlesOut_iff.mp single)
  obtain ⟨-, checked, validated⟩ := same [newer, older] (.swap older newer [])
  exact ⟨valid, validated.trans valid, checked.trans chosen⟩

end ServerBlueprint

end Provisioning
