import Provisioning.Proofs.Makings
import Provisioning.Proofs.RouterRules

/-!
Data of a pair. Some fields of a router describe a pair and mean nothing to a single instance. The
main statement says which of them the requests about a single router carry, whatever is answered.
-/

namespace Provisioning

open Program

/-- A check writes nothing down. -/
theorem Writes.lift {α : Type} (check : Except ProvisionError α) :
    Writes (liftM check : Build α) (fun value made => check = .ok value ∧ made = [])
      (fun made => made = []) := by
  intro Store context remote world
  rw [yields_liftExcept]
  cases check with
  | ok value => exact ⟨[], (List.append_nil _).symm, rfl, rfl⟩
  | error error => exact ⟨[], (List.append_nil _).symm, rfl⟩

/-- The data of a pair are its uplink and the addresses on it, its identifier, and the addresses
that its instances share on private switches. -/
structure PairData where
  uplink : SwitchConnection
  virtualIp : Option Ipv4
  ipAddresses : List Ipv4
  vrid : Option UInt8
  nicVirtualIps : List Ipv4
  deriving DecidableEq

/-- A single instance on the shared segment has no data of a pair. -/
def PairData.none : PairData := ⟨.shared, .none, [], .none, []⟩

/-- The addresses that the instances of a router share on its private interfaces. -/
def VpcRouterSettings.virtualIps (settings : VpcRouterSettings) : List Ipv4 :=
  settings.interfaces.filterMap VpcRouterInterface.virtualIp

/-- A request that creates or updates a router carries these data of a pair. -/
def Request.pairData? : Request → Option PairData
  | .vpcRouter _ (.create request) =>
      some ⟨request.publicUplink, request.virtualIp, request.ipAddresses, request.settings.vrid,
        request.settings.virtualIps⟩
  | .vpcRouter _ (.update _ request) =>
      some { PairData.none with
        vrid := request.settings.vrid
        nicVirtualIps := request.settings.virtualIps }
  | _ => .none

/-- A request carries no data of a pair, or just these. -/
def Request.Carries (data : PairData) (request : Request) : Prop :=
  ∀ carried, request.pairData? = some carried → carried = data

variable {data : PairData} {zone : Zone} {id : ResourceId}

/-- A request without data of a pair carries any data. -/
theorem Request.Carries.of_none {request : Request} (nothing : request.pairData? = none) :
    request.Carries data := fun _ carries => nomatch nothing.symm.trans carries

namespace VpcRouterBlueprint

variable {blueprint : VpcRouterBlueprint}

/-- The identifier of a pair is the only one of its data that the rules allow a single router. -/
theorem FollowsRules.create_carries (rules : blueprint.FollowsRules)
    (single : blueprint.plan = .standard) :
    (Request.vpcRouter zone (.create blueprint.createRequest)).pairData? =
      some { PairData.none with vrid := blueprint.vrid } := by
  obtain ⟨switch, virtualIp, addresses⟩ := rules.single single
  have shared : blueprint.publicUplink = .shared := by
    rw [publicUplink, switch]
    rfl
  rw [Request.pairData?, createRequest, shared, virtualIp, addresses]
  rfl

/-- An update of a single router that follows the rules carries its declared identifier and no other
data of a pair. -/
theorem FollowsRules.update_carries (rules : blueprint.FollowsRules)
    (single : blueprint.plan = .standard) (hash : String) :
    (Request.vpcRouter zone (.update id (blueprint.updateRequest hash))).pairData? =
      some { PairData.none with vrid := blueprint.vrid } := by
  have apart : blueprint.settings.virtualIps = [] := by
    apply List.filterMap_eq_nil_iff.mpr
    intro nic member
    rw [← Option.not_isSome_iff_eq_none, (rules.nics nic member).virtualIp]
    exact fun pair => pair single
  rw [Request.pairData?, updateRequest, apart]
  rfl

/-- A program sends no other data of a pair than these, and it does not succeed before it has. -/
def Sends (program : Build BuildResult) (data : PairData) : Prop :=
  Writes program
    (fun _ made => (∀ entry ∈ made, entry.request.Carries data) ∧
      ∃ entry ∈ made, entry.request.pairData? = some data)
    (fun made => ∀ entry ∈ made, entry.request.Carries data)

/-- What a program sends after a check, it sends when the check has passed. -/
theorem Sends.checked {check : Check} {program : Build BuildResult}
    (sends : check = .ok () → Sends program data) :
    Sends (do check; program) data := by
  apply (Writes.lift check).bind
  · rintro _ _ ⟨passed, rfl⟩
    exact sends passed
  · rintro _ rfl
    exact List.forall_mem_nil _

/-- A program sends what one of its calls carries, if no other call carries anything else. -/
theorem Sends.of_call {α : Type} {label : String} {first : Build α} {request : α → Request}
    {rest : (value : α) → (request value).Answer → Build BuildResult}
    (begins : Orderly (Request.Carries data) first.run)
    (sent : ∀ value, (request value).pairData? = some data)
    (goesOn : ∀ value answer, Orderly (Request.Carries data) (rest value answer).run) :
    Sends (first >>= fun value => Build.call label (request value) >>= rest value) data := by
  have here (value : α) : (request value).Carries data :=
    fun _ same => Option.some.inj (same.symm.trans (sent value))
  apply (Writes.around begins goesOn).mono
  · rintro result _ ⟨earlier, value, answer, started, completed, later, rfl, before, after⟩
    refine ⟨?_, _, List.mem_append_right _ List.mem_cons_self, sent value⟩
    exact List.forall_mem_append.mpr ⟨before, List.forall_mem_cons.mpr ⟨here value, after⟩⟩
  · intro made either entry member
    rcases either entry member with carries | ⟨value, same⟩
    · exact carries
    · rw [same]
      exact here value

/-- A build of a single router sends its declared identifier and no other data of a pair, and it
does not succeed before it has sent the identifier. -/
theorem build_sends (single : blueprint.plan = .standard) :
    Sends (blueprint.build zone) { PairData.none with vrid := blueprint.vrid } := by
  rw [build_eq, validate, bind_assoc]
  apply Sends.checked
  intro accepted
  have rules := checkFields_eq_ok_iff.mp accepted
  apply Sends.of_call
  · exact .forM fun _ _ => .step rfl (.of_none rfl) fun _ => .pure _
  · exact fun _ => rules.create_carries single
  · intro _ created
    refine .bind (.untilReady (.inr (.inl rfl)) (.of_none rfl)) fun ready => ?_
    refine (blueprint.connectNics_orderly fun _ _ => .of_none rfl).bind fun _ => ?_
    refine .step rfl ?_ fun _ =>
      blueprint.conclude_orderly _ (.of_none rfl) (.of_none rfl) (.of_none rfl)
    exact fun _ same => Option.some.inj (same.symm.trans (rules.update_carries single _))

/-- An update of a single router sends its declared identifier and no other data of a pair, and it
does not succeed before it has sent the identifier. -/
theorem update_sends (single : blueprint.plan = .standard) :
    Sends (blueprint.update zone) { PairData.none with vrid := blueprint.vrid } := by
  rw [update]
  apply Sends.checked
  intro _
  apply Sends.checked
  intro accepted
  have rules := checkFields_eq_ok_iff.mp accepted
  simp only [applySettings, bind_assoc]
  apply Sends.of_call
  · exact .call (.inl rfl) (.of_none rfl)
  · exact fun current => rules.update_carries single current.settingsHash
  · exact fun current _ => .step rfl (.of_none rfl) fun _ => .pure _

/-- Whatever the remote answers, the requests of a build or an update about a single router carry
none of the data of a pair but the declared identifier, which no rule forbids. A run does not
succeed before it has sent that identifier. -/
theorem single_router_carries_vrid {Store : Type} (context : Context)
    (remote : Remote CloudService Store) (world : World Store) (zone : Zone)
    (blueprint : VpcRouterBlueprint) (single : blueprint.plan = .standard)
    (program : Build BuildResult)
    (either : program = blueprint.build zone ∨ program = blueprint.update zone) :
    let journal := program.run.journal context remote world
    let data := { PairData.none with vrid := blueprint.vrid }
    (∀ entry ∈ journal, ∀ carried, entry.request.pairData? = some carried → carried = data) ∧
      ((program.run.run context remote world).1.isOk →
        ∃ entry ∈ journal, entry.request.pairData? = some data) := by
  intro journal data
  have sends : Sends program data := by
    rcases either with rfl | rfl
    · exact build_sends single
    · exact update_sends single
  have written := sends.journal context remote world
  constructor
  · split at written
    · exact written.1
    · exact written
  · intro succeeded
    split at written
    next => exact written.2
    next error failed =>
      rw [failed] at succeeded
      nomatch succeeded

/-- A single router without an identifier is built without data of a pair. -/
theorem plain_router_carries_nothing :
    let blueprint : VpcRouterBlueprint := { (default : VpcRouterBlueprint) with name := "edge" }
    let build := (blueprint.build ⟨"is1a"⟩).run
    (build.run default Cloud.remote ⟨default, Cloud.empty⟩).1.isOk ∧
      (∃ entry ∈ build.journal default Cloud.remote ⟨default, Cloud.empty⟩,
        entry.request.pairData? = some PairData.none) ∧
      ∀ entry ∈ build.journal default Cloud.remote ⟨default, Cloud.empty⟩,
        entry.request.Carries PairData.none := by
  intro blueprint build
  obtain ⟨only, sent⟩ := single_router_carries_vrid default Cloud.remote ⟨default, Cloud.empty⟩
    ⟨"is1a"⟩ blueprint rfl (blueprint.build ⟨"is1a"⟩) (.inl rfl)
  have succeeds : (build.run default Cloud.remote ⟨default, Cloud.empty⟩).1.isOk := by
    decide +kernel
  exact ⟨succeeds, sent succeeds, only⟩

/-- A single router with an identifier is built with the identifier of a pair. -/
theorem identified_router_carries_vrid :
    let blueprint : VpcRouterBlueprint :=
      { (default : VpcRouterBlueprint) with name := "edge", vrid := some 1 }
    let build := (blueprint.build ⟨"is1a"⟩).run
    let requests :=
      (build.journal default Cloud.remote ⟨default, Cloud.empty⟩).map Entry.request
    blueprint.plan = .standard ∧
      (build.run default Cloud.remote ⟨default, Cloud.empty⟩).1.isOk ∧
      (requests.filterMap Request.pairData?).map PairData.vrid = [some 1, some 1] := by
  decide +kernel

end VpcRouterBlueprint

end Provisioning
