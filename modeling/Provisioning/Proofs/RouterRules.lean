import Provisioning.Proofs.CardUpdate

/-!
Rules for routers. A router shares a segment or is a pair with addresses of its own, and its private
interfaces are addressed alike. The main statement says which blueprints pass the validation in a
cloud, and why the others do not.
-/

namespace Provisioning

open Program Lineage

namespace Check

variable {ε α : Type} {resource field : String}

/-- A sequence accepts when both its parts do. -/
theorem bind_eq_ok {first : Except ε Unit} {rest : Unit → Except ε Unit} :
    first >>= rest = .ok () ↔ first = .ok () ∧ rest () = .ok () := by
  constructor
  · intro accepted
    obtain ⟨_, passed, others⟩ := of_bind accepted
    exact ⟨passed, others⟩
  · rintro ⟨passed, others⟩
    rw [passed]
    exact others

/-- A loop accepts when each of its checks does. -/
theorem forM_eq_ok {check : α → Except ε Unit} {items : List α} :
    items.forM check = .ok () ↔ ∀ item ∈ items, check item = .ok () := by
  induction items with
  | nil => exact ⟨fun _ => nofun, fun _ => rfl⟩
  | cons item rest inductionHypothesis =>
      rw [List.forM, bind_eq_ok, inductionHypothesis, List.forall_mem_cons]

/-- A loop rejects what one of its checks rejects. -/
theorem error_of_forM {check : α → Except ε Unit} {items : List α} {error : ε}
    (rejected : items.forM check = .error error) : ∃ item ∈ items, check item = .error error := by
  induction items with
  | nil => nomatch rejected
  | cons item rest inductionHypothesis =>
      rcases error_of_bind rejected with here | ⟨_, later⟩
      · exact ⟨item, List.mem_cons_self, here⟩
      · obtain ⟨other, member, rejectedToo⟩ := inductionHypothesis later
        exact ⟨other, List.mem_cons_of_mem _ member, rejectedToo⟩

/-- The check of an identifier passes exactly when the identifier is set. -/
theorem requireSet_eq_ok {id : ResourceId} :
    requireSet resource field id = .ok () ↔ id ≠ .unset := by
  rw [requireSet, require_eq_ok, not_isUnset_iff]

/-- A text is not blank when some character of it is not. -/
theorem requireNonBlank_eq_ok {value : String} :
    requireNonBlank resource field value = .ok () ↔
      ∃ char ∈ value.toList, Text.isBlankChar char = false := by
  rw [requireNonBlank, require_eq_ok, Text.isBlank, Bool.not_eq_true', List.all_eq_false]
  simp only [Bool.not_eq_true]

end Check

/-- No duplicate is found exactly when the items are distinct and none of them was seen before. -/
theorem firstDuplicateAfter_eq_none_iff {α : Type} [DecidableEq α] {seen items : List α} :
    firstDuplicateAfter seen items = none ↔ items.Nodup ∧ ∀ item ∈ items, item ∉ seen := by
  refine ⟨firstDuplicateAfter_eq_none, ?_⟩
  induction items generalizing seen with
  | nil => exact fun _ => rfl
  | cons item rest inductionHypothesis =>
      rintro ⟨distinct, new⟩
      obtain ⟨apart, distinctRest⟩ := List.nodup_cons.mp distinct
      obtain ⟨newHere, newRest⟩ := List.forall_mem_cons.mp new
      rw [firstDuplicateAfter, if_neg newHere]
      refine inductionHypothesis ⟨distinctRest, fun other member => ?_⟩
      rw [List.mem_cons, not_or]
      exact ⟨fun same => apart (same ▸ member), newRest other member⟩

/-- The items of a list are distinct exactly when none is the first duplicate. -/
theorem firstDuplicate_eq_none_iff {α : Type} [DecidableEq α] {items : List α} :
    firstDuplicate items = none ↔ items.Nodup := by
  rw [firstDuplicate, firstDuplicateAfter_eq_none_iff]
  exact and_iff_left fun _ _ => List.not_mem_nil

/-- Distinct indexes from one to seven are seven at most. -/
theorem length_le_of_indexes {indexes : List UInt8} (distinct : indexes.Nodup)
    (bounded : ∀ index ∈ indexes, 1 ≤ index.toNat ∧ index.toNat ≤ 7) : indexes.length ≤ 7 := by
  have injective : (indexes.map UInt8.toNat).Nodup :=
    distinct.map_on fun _ _ _ _ same => UInt8.toNat_inj.mp same
  have within : indexes.map UInt8.toNat ⊆ List.range' 1 7 := by
    intro number member
    obtain ⟨index, listed, rfl⟩ := List.mem_map.mp member
    obtain ⟨low, high⟩ := bounded index listed
    exact List.mem_range'_1.mpr ⟨low, Nat.lt_succ_of_le high⟩
  have few := (injective.subperm within).length_le
  rwa [List.length_map, List.length_range'] at few

/-- Every plan but the standard one is redundant. -/
theorem VpcRouterPlan.isRedundant_iff (plan : VpcRouterPlan) :
    plan.isRedundant = true ↔ plan ≠ .standard := bne_iff_ne

/-- A private interface fits a plan when it has an index, a switch and as many addresses as the plan
has instances. The instances of a pair share one more. -/
structure VpcRouterInterface.Fits (nic : VpcRouterInterface) (plan : VpcRouterPlan) : Prop where
  index : 1 ≤ nic.index.toNat ∧ nic.index.toNat ≤ 7
  switch : nic.switchId ≠ .unset
  addresses : nic.ipAddresses.length = if plan = .standard then 1 else 2
  virtualIp : nic.virtualIp.isSome ↔ plan ≠ .standard

namespace VpcRouterBlueprint

/-- The public side of a pair is a switch, two addresses, a shared one and an identifier. -/
structure AddressesPair (blueprint : VpcRouterBlueprint) : Prop where
  switch : blueprint.switchId ≠ .unset
  virtualIp : blueprint.virtualIp.isSome
  vrid : blueprint.vrid.isSome
  addresses : blueprint.ipAddresses.length = 2

/-- The public side of a single router is the shared segment. -/
structure SharesSegment (blueprint : VpcRouterBlueprint) : Prop where
  switch : blueprint.switchId = .unset
  virtualIp : blueprint.virtualIp = none
  addresses : blueprint.ipAddresses = []

/-- A blueprint follows the rules when it has a name, the public side that its plan asks for, and
private interfaces of distinct indexes that fit the plan. -/
structure FollowsRules (blueprint : VpcRouterBlueprint) : Prop where
  name : ∃ char ∈ blueprint.name.toList, Text.isBlankChar char = false
  pair : blueprint.plan ≠ .standard → blueprint.AddressesPair
  single : blueprint.plan = .standard → blueprint.SharesSegment
  distinct : (blueprint.nics.map VpcRouterInterface.index).Nodup
  nics : ∀ nic ∈ blueprint.nics, nic.Fits blueprint.plan

/-- The switches of a blueprint are stored: the public one of a pair and all the private ones. -/
structure FindsSwitches (blueprint : VpcRouterBlueprint) (cloud : Cloud) : Prop where
  uplink : blueprint.plan ≠ .standard → (cloud.switches.get? blueprint.switchId).isSome
  nics : ∀ nic ∈ blueprint.nics, (cloud.switches.get? nic.switchId).isSome

/-- A validation looks these switches up, one after the other. -/
def namedSwitches (blueprint : VpcRouterBlueprint) : List ResourceId :=
  blueprint.switchId.set?.toList ++ blueprint.nics.map VpcRouterInterface.switchId

/-- This is the first switch that a validation misses. -/
def missingSwitch? (blueprint : VpcRouterBlueprint) (cloud : Cloud) : Option ResourceId :=
  blueprint.namedSwitches.find? fun id => !(cloud.switches.get? id).isSome

variable {blueprint : VpcRouterBlueprint} {plan : VpcRouterPlan} {nic : VpcRouterInterface}
  {cloud : Cloud} {error : ProvisionError}

/-- The check of the public side passes exactly when it is the side that the plan asks for. -/
theorem checkPublicSide_eq_ok_iff : blueprint.checkPublicSide = .ok () ↔
    (blueprint.plan ≠ .standard → blueprint.AddressesPair) ∧
      (blueprint.plan = .standard → blueprint.SharesSegment) := by
  rw [checkPublicSide]
  split
  next redundant =>
    have pair := (VpcRouterPlan.isRedundant_iff _).mp redundant
    rw [Check.bind_eq_ok, Check.requireSet_eq_ok, Check.require_eq_ok, Bool.and_eq_true,
      Bool.and_eq_true, beq_iff_eq]
    constructor
    · rintro ⟨switch, ⟨virtualIp, addresses⟩, vrid⟩
      exact ⟨fun _ => ⟨switch, virtualIp, vrid, addresses⟩, fun single => absurd single pair⟩
    · rintro ⟨rules, -⟩
      obtain ⟨switch, virtualIp, vrid, addresses⟩ := rules pair
      exact ⟨switch, ⟨virtualIp, addresses⟩, vrid⟩
  next single =>
    rw [VpcRouterPlan.isRedundant_iff, not_not] at single
    rw [Check.require_eq_ok, Bool.and_eq_true, Bool.and_eq_true, isUnset_iff,
      Option.isNone_iff_eq_none, List.isEmpty_iff]
    constructor
    · rintro ⟨⟨switch, virtualIp⟩, addresses⟩
      exact ⟨fun pair => absurd single pair, fun _ => ⟨switch, virtualIp, addresses⟩⟩
    · rintro ⟨-, rules⟩
      obtain ⟨switch, virtualIp, addresses⟩ := rules single
      exact ⟨⟨switch, virtualIp⟩, addresses⟩

/-- The check of a private interface passes exactly when the interface fits the plan. -/
theorem checkNic_eq_ok_iff : checkNic plan nic = .ok () ↔ nic.Fits plan := by
  have count : (if plan.isRedundant then 2 else 1) = if plan = .standard then 1 else 2 := by
    cases plan <;> rfl
  have shared : (nic.virtualIp.isSome == plan.isRedundant) = true ↔
      (nic.virtualIp.isSome ↔ plan ≠ .standard) := by
    rw [← VpcRouterPlan.isRedundant_iff, beq_iff_eq, Bool.eq_iff_iff]
  rw [checkNic, Check.bind_eq_ok, Check.bind_eq_ok, Check.require_eq_ok, Check.requireSet_eq_ok,
    Check.require_eq_ok, Bool.and_eq_true, Bool.and_eq_true, shared, beq_iff_eq, count,
    decide_eq_true_iff, decide_eq_true_iff]
  constructor
  · rintro ⟨index, switch, addresses, virtualIp⟩
    exact ⟨index, switch, addresses, virtualIp⟩
  · rintro ⟨index, switch, addresses, virtualIp⟩
    exact ⟨index, switch, addresses, virtualIp⟩

/-- The rules are those that the fields are checked for. -/
theorem checkFields_eq_ok_iff : blueprint.checkFields = .ok () ↔ blueprint.FollowsRules := by
  rw [checkFields, Check.bind_eq_ok, Check.bind_eq_ok, Check.requireNonBlank_eq_ok,
    checkPublicSide_eq_ok_iff]
  cases duplicate : firstDuplicate (blueprint.nics.map VpcRouterInterface.index) with
  | some index =>
      refine ⟨fun accepted => (nomatch accepted.2.2), fun rules => ?_⟩
      rw [firstDuplicate_eq_none_iff.mpr rules.distinct] at duplicate
      nomatch duplicate
  | none =>
      have distinct := firstDuplicate_eq_none_iff.mp duplicate
      dsimp only
      rw [Check.forM_eq_ok]
      simp only [checkNic_eq_ok_iff]
      constructor
      · rintro ⟨name, ⟨pair, single⟩, nics⟩
        exact ⟨name, pair, single, distinct, nics⟩
      · rintro ⟨name, pair, single, -, nics⟩
        exact ⟨name, ⟨pair, single⟩, nics⟩

instance (blueprint : VpcRouterBlueprint) : Decidable blueprint.FollowsRules :=
  decidable_of_iff _ checkFields_eq_ok_iff

/-- Whatever the check of the fields rejects, it blames on the input. -/
theorem isValidation_of_checkFields (rejected : blueprint.checkFields = .error error) :
    error.IsValidation := by
  rw [checkFields] at rejected
  rcases Check.error_of_bind rejected with name | ⟨_, rejected⟩
  · exact Check.isValidation_of_require name
  rcases Check.error_of_bind rejected with side | ⟨_, rejected⟩
  · rw [checkPublicSide] at side
    split at side
    · rcases Check.error_of_bind side with switch | ⟨_, addresses⟩
      · exact Check.isValidation_of_require switch
      · exact Check.isValidation_of_require addresses
    · exact Check.isValidation_of_require side
  split at rejected
  · exact ⟨_, _, (Except.error.inj rejected).symm⟩
  · obtain ⟨nic, -, wrong⟩ := Check.error_of_forM rejected
    rcases Check.error_of_bind wrong with index | ⟨_, wrong⟩
    · exact Check.isValidation_of_require index
    rcases Check.error_of_bind wrong with switch | ⟨_, addresses⟩
    · exact Check.isValidation_of_require switch
    · exact Check.isValidation_of_require addresses

/-- The rules allow for seven private interfaces, since their indexes are distinct. -/
theorem FollowsRules.length_nics (rules : blueprint.FollowsRules) : blueprint.nics.length ≤ 7 := by
  have few := length_le_of_indexes rules.distinct fun index listed => by
    obtain ⟨nic, member, rfl⟩ := List.mem_map.mp listed
    exact (rules.nics nic member).index
  rwa [List.length_map] at few

/-- The named switches of a blueprint that follows the rules are those of its plan. -/
theorem FollowsRules.findsSwitches_iff (rules : blueprint.FollowsRules) :
    blueprint.FindsSwitches cloud ↔ blueprint.missingSwitch? cloud = none := by
  have uplink : (∀ id ∈ blueprint.switchId.set?.toList, (cloud.switches.get? id).isSome) ↔
      (blueprint.plan ≠ .standard → (cloud.switches.get? blueprint.switchId).isSome) := by
    by_cases single : blueprint.plan = .standard
    · rw [(rules.single single).switch]
      exact ⟨fun _ pair => absurd single pair, fun _ => nofun⟩
    · have set : blueprint.switchId.set? = some blueprint.switchId := by
        rw [ResourceId.set?, if_neg]
        rw [isUnset_iff]
        exact (rules.pair single).switch
      rw [set, Option.toList_some, List.forall_mem_singleton]
      exact ⟨fun stored _ => stored, fun stored => stored single⟩
  rw [missingSwitch?, List.find?_eq_none, namedSwitches]
  simp only [Bool.not_eq_true', Bool.not_eq_false, List.forall_mem_append, List.forall_mem_map,
    uplink]
  constructor
  · rintro ⟨uplink, nics⟩
    exact ⟨uplink, nics⟩
  · rintro ⟨uplink, nics⟩
    exact ⟨uplink, nics⟩

section Validation

variable {context : Context} {world now : World Cloud} {zone : Zone}

/-- Switches are looked up one after the other, up to the first one that is missing. -/
theorem readSwitches_yields (silent : world.store.failures = []) (viewed : world.Viewed now)
    (ids : List ResourceId) :
    Yields context Cloud.remote
      (ids.forM fun id => do let _ ← Build.call "read switch" (.catalogue zone (.readSwitch id)))
      now
      (fun _ _ => ids.find? (fun id => !(world.store.switches.get? id).isSome) = none)
      (fun error _ => ∃ id, ids.find? (fun id => !(world.store.switches.get? id).isSome) = some id ∧
        error = .notFound "switch" id.text) := by
  induction ids generalizing now with
  | nil => exact rfl
  | cons id rest inductionHypothesis =>
      rw [List.forM, yields_bind, yields_bind]
      apply (yields_viewed_lookup silent viewed (.catalogue zone (.readSwitch id)) rfl
        Cloud.switchTable id rfl fun _ _ _ _ _ => rfl).mono
      · rintro switch later ⟨viewedLater, stored⟩
        have found : (world.store.switches.get? id).isSome := Option.isSome_of_mem stored
        rw [List.find?_cons_of_neg (by simp [found])]
        exact inductionHypothesis viewedLater
      · rintro error later ⟨_, absent, same⟩
        have missing : (world.store.switches.get? id).isSome = false :=
          Option.isSome_eq_false_iff.mpr (Option.isNone_iff_eq_none.mpr absent)
        exact ⟨id, List.find?_cons_of_pos (by simp [missing]), same⟩

/-- A validation passes by the rules. -/
theorem validate_judges (silent : world.store.failures = []) :
    Yields context Cloud.remote (blueprint.validate zone) world
      (fun _ _ => blueprint.FollowsRules ∧ blueprint.missingSwitch? world.store = none)
      (fun error _ => (¬ blueprint.FollowsRules ∧ error.IsValidation) ∨
        blueprint.FollowsRules ∧ ∃ id, blueprint.missingSwitch? world.store = some id ∧
          error = .notFound "switch" id.text) := by
  rw [validate, yields_bind]
  apply Yields.checked
  · intro accepted
    have rules := checkFields_eq_ok_iff.mp accepted
    apply (readSwitches_yields silent (.refl world) blueprint.namedSwitches).mono
    · exact fun _ _ complete => ⟨rules, complete⟩
    · exact fun _ _ missing => .inr ⟨rules, missing⟩
  · intro error rejected
    refine .inl ⟨fun rules => ?_, isValidation_of_checkFields rejected⟩
    exact Check.ne_ok_of_error rejected (checkFields_eq_ok_iff.mpr rules)

/-- In a cloud without announced failures a validation passes exactly when the blueprint follows the
rules, which allow for seven private interfaces, and the switches are stored. A blueprint that
breaks a rule is blamed for it. When only switches are missing, the first of them is reported. -/
theorem validate_passes_by_rules (blueprint : VpcRouterBlueprint) (context : Context)
    (world : World Cloud) (zone : Zone) (silent : world.store.failures = []) :
    let outcome := ((blueprint.validate zone).run.run context Cloud.remote world).1
    (outcome = .ok () ↔ blueprint.FollowsRules ∧ blueprint.FindsSwitches world.store) ∧
      (¬ blueprint.FollowsRules → ∃ error, outcome = .error error ∧ error.IsValidation) ∧
      (blueprint.FollowsRules → ¬ blueprint.FindsSwitches world.store →
        ∃ id, blueprint.missingSwitch? world.store = some id ∧
          outcome = .error (.notFound "switch" id.text)) ∧
      (blueprint.FollowsRules → blueprint.nics.length ≤ 7) := by
  intro outcome
  have judged : Yields context Cloud.remote (blueprint.validate zone) world _ _ :=
    validate_judges silent
  unfold Yields at judged
  split at judged
  next passed after ran =>
    obtain ⟨rules, complete⟩ := judged
    have found := rules.findsSwitches_iff.mpr complete
    have passes : outcome = .ok () := congrArg Prod.fst ran
    exact ⟨⟨fun _ => ⟨rules, found⟩, fun _ => passes⟩, fun broken => absurd rules broken,
      fun _ lacking => absurd found lacking, FollowsRules.length_nics⟩
  next error after ran =>
    have fails : outcome = .error error := congrArg Prod.fst ran
    rcases judged with ⟨broken, validation⟩ | ⟨rules, id, missing, rfl⟩
    · refine ⟨⟨fun passes => ?_, fun ⟨rules, _⟩ => absurd rules broken⟩,
        fun _ => ⟨error, fails, validation⟩, fun rules => absurd rules broken,
        FollowsRules.length_nics⟩
      nomatch fails.symm.trans passes
    · have lacking : ¬ blueprint.FindsSwitches world.store := by
        rw [rules.findsSwitches_iff, missing]
        nofun
      refine ⟨⟨fun passes => ?_, fun ⟨_, found⟩ => absurd found lacking⟩,
        fun broken => absurd rules broken, fun _ _ => ⟨id, missing, fails⟩,
        FollowsRules.length_nics⟩
      nomatch fails.symm.trans passes

/-- A pair passes once the switch of its private interface is there, and not before. -/
theorem pair_passes_with_its_switches :
    let blueprint : VpcRouterBlueprint :=
      { (default : VpcRouterBlueprint) with
        name := "edge"
        plan := .premium
        switchId := ⟨500⟩
        virtualIp := some ⟨192, 0, 2, 1⟩
        ipAddresses := [⟨192, 0, 2, 2⟩, ⟨192, 0, 2, 3⟩]
        vrid := some 1
        nics := [⟨7, ⟨501⟩, some ⟨10, 0, 0, 1⟩, [⟨10, 0, 0, 2⟩, ⟨10, 0, 0, 3⟩], 24⟩] }
    let cloud := Cloud.empty.seedSwitch ⟨500⟩
    let outcome (cloud : Cloud) :=
      ((blueprint.validate ⟨"is1a"⟩).run.run default Cloud.remote ⟨default, cloud⟩).1
    blueprint.FollowsRules ∧ outcome cloud = .error (.notFound "switch" "501") ∧
      outcome (cloud.seedSwitch ⟨501⟩) = .ok () := by
  intro blueprint cloud outcome
  have rules : blueprint.FollowsRules := by decide
  have lacking : blueprint.missingSwitch? cloud = some ⟨501⟩ := by decide
  have complete : blueprint.missingSwitch? (cloud.seedSwitch ⟨501⟩) = none := by decide
  obtain ⟨-, -, misses, -⟩ :=
    validate_passes_by_rules blueprint default ⟨default, cloud⟩ ⟨"is1a"⟩ rfl
  obtain ⟨passes, -⟩ := validate_passes_by_rules blueprint default
    ⟨default, cloud.seedSwitch ⟨501⟩⟩ ⟨"is1a"⟩ rfl
  refine ⟨rules, ?_, passes.mpr ⟨rules, rules.findsSwitches_iff.mpr complete⟩⟩
  have unplugged : ¬ blueprint.FindsSwitches cloud := by
    rw [rules.findsSwitches_iff, lacking]
    nofun
  obtain ⟨id, first, fails⟩ := misses rules unplugged
  cases lacking.symm.trans first
  exact fails

end Validation

end VpcRouterBlueprint

end Provisioning
