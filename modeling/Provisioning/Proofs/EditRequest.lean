import Provisioning.Proofs.Makings

/-!
What an edit request carries. A validation accepts exactly the coherent edits. The main statement
compares the settings of an accepted edit with those of the request that is prepared from it: the
request carries all of them, except that a mask length is lost when there is no default route.
-/

namespace Provisioning

open Program

/-- These settings of an operating system are known before any key or note is made. -/
structure SystemSettings where
  hostName : Option String
  password : Option String
  disablePwAuth : Bool
  enableDhcp : Bool
  changePartitionUuid : Bool
  sshKeys : List String
  ipAddress : Option Ipv4
  networkMaskLen : Option UInt8
  defaultRoute : Option Ipv4
  deriving DecidableEq

def UnixEdit.settings (edit : UnixEdit) : SystemSettings where
  hostName := edit.hostName
  password := edit.password
  disablePwAuth := edit.disablePwAuth
  enableDhcp := edit.enableDhcp
  changePartitionUuid := edit.changePartitionUuid
  sshKeys := edit.sshKeys
  ipAddress := edit.ipAddress
  networkMaskLen := edit.networkMaskLen
  defaultRoute := edit.defaultRoute

/-- A request has its mask length and its default route in the subnet. -/
def DiskEditRequest.settings (request : DiskEditRequest) : SystemSettings where
  hostName := request.hostName
  password := request.password
  disablePwAuth := request.disablePwAuth
  enableDhcp := request.enableDhcp
  changePartitionUuid := request.changePartitionUuid
  sshKeys := request.sshKeys
  ipAddress := request.userIpAddress
  networkMaskLen := request.userSubnet.map EditUserSubnet.networkMaskLen
  defaultRoute := request.userSubnet.map EditUserSubnet.defaultRoute

namespace UnixEdit

variable {edit : UnixEdit}

/-- A coherent edit generates the key that it calls ephemeral, and it has an address, a mask length
and a default route only together, though the route may be missing. -/
structure Coherent (edit : UnixEdit) : Prop where
  key : edit.isSshKeysEphemeral → edit.generateSshKey.isSome
  network : edit.ipAddress.isSome = edit.networkMaskLen.isSome
  route : edit.defaultRoute.isSome → edit.ipAddress.isSome

/-- Each rule of the check is a condition of coherence. -/
theorem check_eq_ok_iff : edit.check = .ok () ↔ edit.Coherent := by
  have key : (!(edit.isSshKeysEphemeral && edit.generateSshKey.isNone)) = true ↔
      (edit.isSshKeysEphemeral → edit.generateSshKey.isSome) := by
    cases edit.isSshKeysEphemeral <;> cases edit.generateSshKey <;> simp
  have route : (!(edit.defaultRoute.isSome && edit.ipAddress.isNone)) = true ↔
      (edit.defaultRoute.isSome → edit.ipAddress.isSome) := by
    cases edit.defaultRoute <;> cases edit.ipAddress <;> simp
  constructor
  · intro accepted
    obtain ⟨_, first, rest⟩ := Check.of_bind accepted
    obtain ⟨_, second, third⟩ := Check.of_bind rest
    rw [Check.require_eq_ok] at first second third
    exact ⟨key.mp first, beq_iff_eq.mp second, route.mp third⟩
  · intro coherent
    rw [check, Check.require_eq_ok.mpr (key.mpr coherent.key),
      Check.require_eq_ok.mpr (beq_iff_eq.mpr coherent.network)]
    exact Check.require_eq_ok.mpr (route.mpr coherent.route)

instance (edit : UnixEdit) : Decidable edit.Coherent := decidable_of_iff _ check_eq_ok_iff

end UnixEdit

/-- An obliging remote has every key and every note that a validation asks for. -/
def Remote.obliging : Remote CloudService Unit
  | _, .credential (.readSshKey _), world => (.ok default, world)
  | _, .credential (.readNote _), world => (.ok default, world)
  | _, _, world => (.error (.missing "record" .unset), world)

/-- An obliging remote lets a loop of lookups pass. -/
theorem Remote.obliging_looks_up {ι : Type} (items : List ι) {label : String}
    {request : ι → Request} (obliges : ∀ item world, ∃ answer,
      Remote.obliging default (request item) world = (.ok answer, world)) {world : World Unit} :
    Yields default Remote.obliging
      (items.forM fun item => do let _ ← Build.call label (request item)) world
      (fun _ _ => True) (fun _ _ => False) := by
  have each (item : ι) (world : World Unit) : Yields default Remote.obliging
      (do let _ ← Build.call label (request item)) world (fun _ _ => True ∧ True)
      (fun _ _ => False) := by
    obtain ⟨answer, answered⟩ := obliges item world
    rw [yields_bind, Build.call, yields_during, yields_attempt, answered]
    exact ⟨trivial, trivial⟩
  have all : Yields default Remote.obliging
      (items.forM fun item => do let _ ← Build.call label (request item)) world
      (fun _ _ => True ∧ ∀ item ∈ items, True) (fun _ _ => False) :=
    .forM (fun _ => True) (fun _ => True) (fun item _ world _ => each item world) trivial
  exact all.mono (fun _ _ _ => trivial) fun _ _ failed => failed

namespace UnixEdit

variable {edit : UnixEdit} {request : DiskEditRequest}

/-- An edit is accepted when some remote lets its validation succeed. -/
def IsAccepted (edit : UnixEdit) : Prop :=
  ∃ (Store : Type) (context : Context) (remote : Remote CloudService Store)
    (before after : World Store),
    edit.validate.run.run context remote before = (.ok (), after)

/-- An edit is prepared to a request when some remote lets its preparation end with the request. -/
def PreparesTo (edit : UnixEdit) (request : DiskEditRequest) : Prop :=
  ∃ (Store : Type) (context : Context) (remote : Remote CloudService Store)
    (before after : World Store) (artifacts : Artifacts),
    edit.prepare.run.run context remote before = (.ok (request, artifacts), after)

/-- The coherent edits are those that a validation can accept. -/
theorem isAccepted_iff : edit.IsAccepted ↔ edit.Coherent := by
  rw [← check_eq_ok_iff]
  constructor
  · rintro ⟨Store, context, remote, before, after, accepted⟩
    cases checked : edit.check with
    | ok passed => rfl
    | error error =>
        rw [validate, checked] at accepted
        cases accepted
  · intro checked
    have passes : Yields default Remote.obliging edit.validate ⟨default, ()⟩ (fun _ _ => True)
        (fun _ _ => False) := by
      rw [validate, checked, yields_bind, yields_liftExcept]
      apply (Remote.obliging_looks_up edit.sshKeyIds fun _ _ => ⟨default, rfl⟩).bind
      intro _ world _
      exact Remote.obliging_looks_up edit.notes fun _ _ => ⟨default, rfl⟩
    unfold Yields at passes
    split at passes
    next after same => exact ⟨Unit, default, Remote.obliging, _, after, same⟩
    next => exact passes.elim

/-- These settings arrive in a request: the mask length does so only with a default route. -/
def carried (edit : UnixEdit) : SystemSettings :=
  { edit.settings with
    networkMaskLen := if edit.defaultRoute.isSome then edit.networkMaskLen else none }

/-- A request carries the declared settings, however its keys and notes are named. -/
theorem requestWith_settings (keyIds noteIds : List ResourceId) :
    (edit.requestWith keyIds noteIds).settings = edit.declared.settings := rfl

/-- Whatever the remote answers, a request carries the declared settings. -/
theorem PreparesTo.settings (prepares : edit.PreparesTo request) :
    request.settings = edit.declared.settings := by
  obtain ⟨Store, context, remote, before, after, artifacts, prepared⟩ := prepares
  obtain ⟨keys, notes, -, -, same⟩ := edit.prepare_supplies.written prepared
  exact (congrArg DiskEditRequest.settings same).trans (requestWith_settings _ _)

/-- The declared settings of a coherent edit are those that it carries. -/
theorem Coherent.declared_settings (coherent : edit.Coherent) :
    edit.declared.settings = edit.carried := by
  have network := coherent.network
  have route := coherent.route
  unfold declared DiskEditRequest.settings carried UnixEdit.settings subnet
  cases routed : edit.defaultRoute <;> cases masked : edit.networkMaskLen <;> simp_all

/-- All settings arrive in a request unless there is a mask length without a default route. -/
theorem carried_eq_settings_iff :
    edit.carried = edit.settings ↔ (edit.networkMaskLen.isSome → edit.defaultRoute.isSome) := by
  unfold carried UnixEdit.settings
  cases edit.defaultRoute <;> cases edit.networkMaskLen <;> simp

/-- The request of an accepted edit carries all of its settings, except that a mask length without a
default route is lost. So two accepted edits have requests with the same settings exactly when they
differ in such mask lengths at most. -/
theorem accepted_edits_carry_settings (accepted : edit.IsAccepted)
    (prepares : edit.PreparesTo request) :
    request.settings = edit.carried ∧
      (request.settings = edit.settings ↔
        (edit.networkMaskLen.isSome → edit.defaultRoute.isSome)) ∧
      ∀ (other : UnixEdit) (otherRequest : DiskEditRequest), other.IsAccepted →
        other.PreparesTo otherRequest →
          (request.settings = otherRequest.settings ↔ edit.carried = other.carried) := by
  have carries {edit : UnixEdit} {request : DiskEditRequest} (accepted : edit.IsAccepted)
      (prepares : edit.PreparesTo request) : request.settings = edit.carried :=
    prepares.settings.trans (isAccepted_iff.mp accepted).declared_settings
  refine ⟨carries accepted prepares, ?_, ?_⟩
  · rw [carries accepted prepares]
    exact carried_eq_settings_iff
  · intro other otherRequest otherAccepted otherPrepares
    rw [carries accepted prepares, carries otherAccepted otherPrepares]

/-- An edit with an address, a mask length and a default route keeps all three. -/
theorem routed_edit_is_carried :
    let edit : UnixEdit :=
      { (default : UnixEdit) with
        ipAddress := some (default : Ipv4)
        networkMaskLen := some 24
        defaultRoute := some (default : Ipv4) }
    edit.IsAccepted ∧ edit.PreparesTo edit.declared ∧ edit.declared.settings = edit.settings := by
  intro edit
  have accepted : edit.IsAccepted := isAccepted_iff.mpr (by decide)
  have prepares : edit.PreparesTo edit.declared :=
    ⟨Unit, default, Remote.obliging, ⟨default, ()⟩, _, _, rfl⟩
  exact ⟨accepted, prepares,
    (accepted_edits_carry_settings accepted prepares).2.1.mpr (by decide)⟩

/-- Two accepted edits differ in their mask lengths, and they are prepared to the same request. -/
theorem unrouted_masks_are_lost :
    let edit (networkMaskLen : UInt8) : UnixEdit :=
      { (default : UnixEdit) with
        ipAddress := some (default : Ipv4), networkMaskLen := some networkMaskLen }
    (edit 24).settings ≠ (edit 16).settings ∧ (edit 24).IsAccepted ∧ (edit 16).IsAccepted ∧
      ∃ request : DiskEditRequest, request.userSubnet = none ∧ (edit 24).PreparesTo request ∧
        (edit 16).PreparesTo request := by
  intro edit
  refine ⟨by decide, isAccepted_iff.mpr (by decide), isAccepted_iff.mpr (by decide),
    (edit 24).declared, rfl, ?_, ?_⟩
  · exact ⟨Unit, default, Remote.obliging, ⟨default, ()⟩, _, _, rfl⟩
  · exact ⟨Unit, default, Remote.obliging, ⟨default, ()⟩, _, _, rfl⟩

end UnixEdit

end Provisioning
