import Provisioning.Proofs.EditRequest
import Provisioning.Proofs.Trusting

/-!
Where the rules of an edit are obeyed. A build checks them before it changes anything, so an
incoherent edit is never written by a build. An update of a Unix disk does not check them. The main
statement describes both paths for every incoherent edit and every remote.
-/

namespace Provisioning

open Program

variable {α β : Type} {passes : Prop}

/-- A program that inspects its input passes only on a condition. When it fails although all its
calls have succeeded, it fails with a validation error. -/
def Inspects (passes : Prop) (program : Build α) : Prop :=
  ∀ (Store : Type) (context : Context) (remote : Remote CloudService Store)
    (world : World (Observed CloudService Store)),
    Yields context remote.observed program world
      (fun _ after => passes ∧ Wrote (fun _ => True) world after)
      (fun error => Wrote (fun made => (∀ entry ∈ made, entry.answer.isOk) → error.IsValidation)
        world)

namespace Inspects

theorem pure {value : α} (here : passes) : Inspects passes (Pure.pure value) :=
  fun _ _ _ _ => ⟨here, [], (List.append_nil _).symm, trivial⟩

theorem throw (resource message : String) :
    Inspects passes (MonadExcept.throw (.validation resource message) : Build α) :=
  fun _ _ _ _ => ⟨[], (List.append_nil _).symm, fun _ => ⟨resource, message, rfl⟩⟩

/-- A check of the input passes only when it accepts. -/
theorem lift {check : Except ProvisionError α} (accepts : ∀ value, check = .ok value → passes)
    (rejects : ∀ error, check = .error error → error.IsValidation) :
    Inspects passes (liftM check) := by
  intro Store context remote world
  rw [yields_liftExcept]
  cases check with
  | ok value => exact ⟨accepts value rfl, [], (List.append_nil _).symm, trivial⟩
  | error error => exact ⟨[], (List.append_nil _).symm, fun _ => rejects error rfl⟩

theorem require (resource : String) (condition : Bool) (message : String) :
    Inspects True (liftM (Check.require resource condition message) : Build Unit) :=
  lift (fun _ _ => trivial) fun _ => Check.isValidation_of_require

theorem call (label : String) (request : Request) : Inspects True (Build.call label request) := by
  intro Store context remote world
  apply Yields.called
  · exact fun value after written => ⟨trivial, _, written, trivial⟩
  · intro error after written
    refine ⟨_, written, fun succeeded => ?_⟩
    nomatch succeeded _ (List.mem_singleton.mpr rfl)

/-- The calls of a sequence succeed when those of both its parts do. -/
theorem bind {program : Build α} {continuation : α → Build β} {begins : Prop}
    (first : Inspects begins program)
    (rest : begins → ∀ value, Inspects passes (continuation value)) :
    Inspects passes (program >>= continuation) := by
  intro Store context remote world
  rw [yields_bind]
  apply (first Store context remote world).mono
  · intro value now ⟨begun, made, grown, _⟩
    apply (rest begun value Store context remote now).mono
    · intro result after ⟨passed, later, grownToo, _⟩
      exact ⟨passed, made ++ later, by rw [grownToo, grown, List.append_assoc], trivial⟩
    · intro error after ⟨later, grownToo, blames⟩
      refine ⟨made ++ later, by rw [grownToo, grown, List.append_assoc], fun succeeded => ?_⟩
      exact blames (List.forall_mem_append.mp succeeded).2
  · exact fun _ _ stopped => stopped

theorem forM {ι : Type} {items : List ι} {step : ι → Build PUnit}
    (each : ∀ item, Inspects True (step item)) : Inspects True (items.forM step) := by
  induction items with
  | nil => exact .pure trivial
  | cons item rest inductionHypothesis =>
      rw [List.forM]
      exact (each item).bind fun _ _ => inductionHypothesis

/-- A program that always passes also passes on a condition that holds. -/
theorem on {program : Build α} (inspects : Inspects True program) (here : passes) :
    Inspects passes program :=
  fun Store context remote world => (inspects Store context remote world).mono
    (fun _ _ ⟨_, grown⟩ => ⟨here, grown⟩) fun _ _ stopped => stopped

/-- When the condition does not hold, the program fails in every run. -/
theorem fails {program : Build α} (inspects : Inspects passes program) (unmet : ¬ passes)
    {Store : Type} (context : Context) (remote : Remote CloudService Store) (world : World Store) :
    ∃ error after, program.run.run context remote world = (.error error, after) ∧
      ((∀ entry ∈ program.run.journal context remote world, entry.answer.isOk) →
        error.IsValidation) := by
  let holds (outcome : Except ProvisionError α) (_ : World Store)
      (journal : List (Entry CloudService)) : Prop :=
    ∃ error, outcome = .error error ∧ ((∀ entry ∈ journal, entry.answer.isOk) → error.IsValidation)
  have ends : holds (program.run.run context remote world).1
      (program.run.run context remote world).2 (program.run.journal context remote world) := by
    apply Yields.journal holds
    apply (inspects Store context remote world.watched).mono
    · exact fun _ _ ⟨passed, _⟩ => absurd passed unmet
    · intro error after ⟨made, grown, blames⟩
      rw [grown]
      exact ⟨error, rfl, blames⟩
  obtain ⟨error, failed, blames⟩ := ends
  exact ⟨error, _, Prod.ext failed rfl, blames⟩

end Inspects

section Validation

variable {zone : Zone}

/-- The check of an edit fails only with a validation error. -/
theorem UnixEdit.isValidation_of_check {edit : UnixEdit} {error : ProvisionError}
    (rejected : edit.check = .error error) : error.IsValidation := by
  obtain key | ⟨_, rest⟩ := Check.error_of_bind rejected
  · exact Check.isValidation_of_require key
  · obtain network | ⟨_, route⟩ := Check.error_of_bind rest
    · exact Check.isValidation_of_require network
    · exact Check.isValidation_of_require route

/-- The validation of an edit passes only a coherent edit. -/
theorem UnixEdit.validate_inspects (edit : UnixEdit) : Inspects edit.Coherent edit.validate := by
  apply Inspects.bind (Inspects.lift (fun _ => check_eq_ok_iff.mp) fun _ => isValidation_of_check)
  -- The edit is coherent when the lookups begin, so they need not show it again.
  intro coherent _
  refine Inspects.on ?_ coherent
  apply (Inspects.forM fun _ => (Inspects.call _ _).bind fun _ _ => .pure trivial).bind
  intro _ _
  exact Inspects.forM fun _ => (Inspects.call _ _).bind fun _ _ => .pure trivial

theorem DiskSpec.validate_inspects (spec : DiskSpec) : Inspects True (spec.validate zone) := by
  apply (Inspects.require _ _ _).bind
  intro _ _
  apply (Inspects.require _ _ _).bind
  intro _ _
  exact (Inspects.call _ _).bind fun _ _ => .require _ _ _

theorem OperatingSystem.findArchive_inspects (system : OperatingSystem) :
    Inspects True (system.findArchive zone) := by
  rw [findArchive]
  split
  · exact .throw _ _
  · apply (Inspects.call _ _).bind
    intro _ archives
    split
    · exact .pure trivial
    · exact .throw _ _

/-- The validation of a Unix disk passes only when its edit is coherent. -/
theorem DiskBlueprint.validate_unix_inspects (spec : DiskSpec) (system : OperatingSystem)
    (edit : UnixEdit) : Inspects edit.Coherent ((unix spec system edit).validate zone) := by
  apply spec.validate_inspects.bind
  intro _ _
  apply (Inspects.require _ _ _).bind
  intro _ _
  exact system.findArchive_inspects.bind fun _ _ => edit.validate_inspects

end Validation

/-- These requests write an edit into a disk. -/
def Request.edit? : Request → Option DiskEditRequest
  | .disk _ (.createWithConfig _ edit _ _) => some edit
  | .disk _ (.config _ edit) => some edit
  | _ => none

/-- A request that supplies an edit with keys and notes writes no edit. -/
theorem Request.Supplies.edit? {request : Request} (supplies : request.Supplies) :
    request.edit? = none := by
  unfold Request.edit?
  split <;> first | rfl | nomatch supplies

/-- A stray edit has a subnet without an address. -/
def DiskEditRequest.IsStray (edit : DiskEditRequest) : Prop :=
  edit.userSubnet.isSome ∧ edit.userIpAddress.isNone

instance (edit : DiskEditRequest) : Decidable edit.IsStray := inferInstanceAs (Decidable (_ ∧ _))

section Update

variable {zone : Zone} {edit : UnixEdit} {made later : List (Entry CloudService)}

/-- All edits that were sent have the declared settings. -/
def UnixEdit.SentAsDeclared (edit : UnixEdit) (made : List (Entry CloudService)) : Prop :=
  ∀ entry ∈ made, ∀ sent, entry.request.edit? = some sent →
    sent.settings = edit.declared.settings

namespace UnixEdit.SentAsDeclared

/-- Where no edit is sent, all of them are as declared. -/
theorem of_none (silent : ∀ entry ∈ made, entry.request.edit? = none) :
    edit.SentAsDeclared made :=
  fun entry member _ sends => nomatch (silent entry member).symm.trans sends

/-- Edits are sent as declared when they are in both parts of a journal. -/
theorem append (first : edit.SentAsDeclared made) (second : edit.SentAsDeclared later) :
    edit.SentAsDeclared (made ++ later) :=
  List.forall_mem_append.mpr ⟨first, second⟩

/-- An edit that was sent as declared is stray when the declared subnet has no address. -/
theorem isStray_iff {sent : DiskEditRequest} (same : sent.settings = edit.declared.settings) :
    sent.IsStray ↔
      edit.defaultRoute.isSome ∧ edit.networkMaskLen.isSome ∧ edit.ipAddress.isNone := by
  have address : sent.userIpAddress = edit.ipAddress := congrArg SystemSettings.ipAddress same
  have masks : sent.userSubnet.isSome = edit.subnet.isSome := by
    have lengths := congrArg (fun settings => settings.networkMaskLen.isSome) same
    simpa [DiskEditRequest.settings, UnixEdit.declared] using lengths
  rw [DiskEditRequest.IsStray, address, masks, UnixEdit.subnet]
  cases edit.defaultRoute <;> cases edit.networkMaskLen <;> simp

end UnixEdit.SentAsDeclared

namespace DiskBlueprint

variable {spec : DiskSpec} {system : OperatingSystem} {id : ResourceId} {timing : Timing}

/-- An edit is written into the disk once more as it was declared. -/
theorem reapply_sends : Writes (reapply zone id timing edit)
    (fun _ made => edit.SentAsDeclared made ∧ ∃ entry ∈ made, entry.request.edit?.isSome)
    edit.SentAsDeclared := by
  apply edit.prepare_supplies.bind
  · intro (request, artifacts) made ⟨keys, notes, supply, _, named⟩
    have prepares : edit.SentAsDeclared made :=
      .of_none fun entry member => (supply.supplies entry member).edit?
    have sends (answer started completed) : edit.SentAsDeclared
        [⟨.disk zone (.config id request), answer, started, completed⟩] := by
      intro entry member sent same
      cases List.mem_singleton.mp member
      cases same
      exact (congrArg DiskEditRequest.settings named).trans (edit.requestWith_settings _ _)
    have concludes : Orderly (fun request => request.edit? = none) (do
        awaitReady zone id timing
        artifacts.dispose).run :=
      .bind (awaitReady_orderly rfl) fun _ =>
        artifacts.dispose_orderly (fun _ _ => rfl) fun _ _ => rfl
    apply Writes.step
    · intro answer started completed
      apply (Writes.of_orderly concludes).mono
      · intro key later silent
        refine ⟨prepares.append ((sends _ _ _).append (.of_none silent)),
          ⟨.disk zone (.config id request), .ok answer, started, completed⟩, ?_, rfl⟩
        exact List.mem_append_right _ List.mem_cons_self
      · exact fun later silent => prepares.append ((sends _ _ _).append (.of_none silent))
    · exact fun error started completed => prepares.append (sends _ _ _)
  · exact fun made supplies => .of_none fun entry member => (supplies entry member).edit?

/-- The check of an identifier passes when the identifier is set. -/
theorem requireSet_of_set (set : ¬ id.isUnset) : Check.requireSet "disk" "id" id = .ok () :=
  Check.require_eq_ok.mpr (by simpa using set)

/-- An update of an existing Unix disk writes the metadata first and then the edit. -/
theorem update_sends (set : ¬ spec.id.isUnset) :
    Writes ((unix spec system edit).update zone timing)
      (fun _ made => (made.head?.map Entry.request = some
        (.disk zone (.update spec.id spec.updateRequest)) ∧ edit.SentAsDeclared made) ∧
          ∃ entry ∈ made, entry.request.edit?.isSome)
      (fun made => made.head?.map Entry.request = some
        (.disk zone (.update spec.id spec.updateRequest)) ∧ edit.SentAsDeclared made) := by
  have checks : Writes (liftM (Check.requireSet "disk" "id" spec.id) : Build Unit)
      (fun _ made => made = []) (fun _ => False) := by
    rw [requireSet_of_set set]
    exact .pure rfl
  apply checks.bind
  · intro _ made nothing
    subst nothing
    have begins (answer started completed) : edit.SentAsDeclared
        [⟨.disk zone (.update spec.id spec.updateRequest), answer, started, completed⟩] :=
      .of_none (List.forall_mem_singleton.mpr rfl)
    apply Writes.step
    · intro disk started completed
      apply reapply_sends.bind
      · intro key later ⟨sent, entry, member, sends⟩
        apply Writes.pure
        rw [List.append_nil]
        exact ⟨⟨rfl, (begins _ _ _).append sent⟩, entry, List.mem_cons_of_mem _ member, sends⟩
      · exact fun later sent => ⟨rfl, (begins _ _ _).append sent⟩
    · exact fun error started completed => ⟨rfl, begins _ _ _⟩
  · exact fun _ => False.elim

/-- The update of an existing Unix disk never blames its edit. -/
theorem update_trusting (set : ¬ spec.id.isUnset) :
    Trusting ((unix spec system edit).update zone timing) := by
  intro Store context remote world
  rw [update, yields_bind]
  apply Yields.checked
  · intro _
    apply (Trusting.during _ _).bind
    intro _
    exact (reapply_trusting zone _ timing edit).bind fun _ => .pure _
  · intro error rejected
    nomatch (requireSet_of_set set).symm.trans rejected

section Runs

variable {Store : Type} {context : Context} {remote : Remote CloudService Store}
  {world : World Store}

/-- The build of a Unix disk with an incoherent edit only looks and fails. -/
theorem build_rejects (serverId : ResourceId) (incoherent : ¬ edit.Coherent) :
    let build := ((unix spec system edit).build zone serverId timing).run
    ∃ error after, build.run context remote world = (.error error, after) ∧
      (∀ entry ∈ build.journal context remote world, entry.request.Looks) ∧
      ((∀ entry ∈ build.journal context remote world, entry.answer.isOk) → error.IsValidation) := by
  intro build
  have inspects : Inspects edit.Coherent ((unix spec system edit).validate zone) :=
    validate_unix_inspects spec system edit
  have validates : Orderly Request.Looks ((unix spec system edit).validate zone).run :=
    (unix spec system edit).validate_orderly
  obtain ⟨error, after, failed, blames⟩ := inspects.fails incoherent context remote world
  have looks := (Writes.of_orderly validates).journal context remote world
  rw [failed] at looks
  have journaled : build.journal context remote world =
      ((unix spec system edit).validate zone).run.journal context remote world :=
    (run_bind_of_error _ failed).2
  rw [journaled]
  exact ⟨error, after, (run_bind_of_error _ failed).1, looks, blames⟩

/-- The update of a Unix disk that has no identifier makes no call. -/
theorem update_of_unset (unset : spec.id.isUnset) :
    let update := ((unix spec system edit).update zone timing).run
    ∃ error, error.IsValidation ∧ update.run context remote world = (.error error, world) ∧
      update.journal context remote world = [] := by
  intro update
  cases checked : Check.requireSet "disk" "id" spec.id with
  | ok passed =>
      have set := Check.require_eq_ok.mp checked
      rw [unset] at set
      nomatch set
  | error error =>
      have failed : (liftM (Check.requireSet "disk" "id" spec.id) : Build Unit).run.run context
          remote world = (.error error, world) := by
        rw [checked]
        rfl
      refine ⟨error, Check.isValidation_of_require checked, (run_bind_of_error _ failed).1, ?_⟩
      refine (run_bind_of_error _ failed).2.trans ?_
      rw [checked]
      rfl

end Runs

/-- The build of a Unix disk with an incoherent edit only looks and fails, and the error is a
validation error unless a look has failed. The update checks no more than the identifier. With an
identifier, it never ends with a validation error. Its first call changes the disk, each edit that
it sends has the declared settings, however incoherent they are, and it succeeds only after it has
sent one. -/
theorem updates_skip_edit_rules {Store : Type} (context : Context)
    (remote : Remote CloudService Store) (world : World Store) (zone : Zone)
    (serverId : ResourceId) (timing : Timing) (spec : DiskSpec) (system : OperatingSystem)
    (edit : UnixEdit) (incoherent : ¬ edit.Coherent) :
    let build := ((unix spec system edit).build zone serverId timing).run
    let update := ((unix spec system edit).update zone timing).run
    (∃ error after, build.run context remote world = (.error error, after) ∧
      (∀ entry ∈ build.journal context remote world, entry.request.Looks) ∧
      ((∀ entry ∈ build.journal context remote world, entry.answer.isOk) → error.IsValidation)) ∧
    (spec.id.isUnset → ∃ error, error.IsValidation ∧
      update.run context remote world = (.error error, world) ∧
      update.journal context remote world = []) ∧
    (¬ spec.id.isUnset →
      (∀ error after, update.run context remote world = (.error error, after) →
        ¬ error.IsValidation) ∧
      (update.journal context remote world).head?.map Entry.request =
        some (.disk zone (.update spec.id spec.updateRequest)) ∧
      (∀ entry ∈ update.journal context remote world, ∀ sent, entry.request.edit? = some sent →
        sent.settings = edit.declared.settings ∧
        (sent.IsStray ↔
          edit.defaultRoute.isSome ∧ edit.networkMaskLen.isSome ∧ edit.ipAddress.isNone)) ∧
      ((update.run context remote world).1.isOk →
        ∃ entry ∈ update.journal context remote world, entry.request.edit?.isSome)) := by
  intro build update
  refine ⟨build_rejects serverId incoherent, update_of_unset, ?_⟩
  intro set
  have writes : Writes ((unix spec system edit).update zone timing)
      (fun _ made => (made.head?.map Entry.request = some
        (.disk zone (.update spec.id spec.updateRequest)) ∧ edit.SentAsDeclared made) ∧
          ∃ entry ∈ made, entry.request.edit?.isSome) _ := update_sends set
  have trusting : Trusting ((unix spec system edit).update zone timing) := update_trusting set
  have sends := writes.journal context remote world
  have begins : (update.journal context remote world).head?.map Entry.request =
      some (.disk zone (.update spec.id spec.updateRequest)) ∧
        edit.SentAsDeclared (update.journal context remote world) := by
    split at sends
    · exact sends.1
    · exact sends
  refine ⟨fun _ _ => trusting.not_isValidation, begins.1, fun entry member sent written => ?_, ?_⟩
  · have same := begins.2 entry member sent written
    exact ⟨same, UnixEdit.SentAsDeclared.isStray_iff same⟩
  · intro succeeded
    split at sends
    next => exact sends.2
    next error failed =>
      change (update.run context remote world).1 = .error error at failed
      rw [failed] at succeeded
      nomatch succeeded

/-- An edit with a subnet and no address is not built, and it is sent for a stored disk. -/
theorem unaddressed_edit_is_only_updated :
    let edit : UnixEdit :=
      { (default : UnixEdit) with
        networkMaskLen := some 24, defaultRoute := some (default : Ipv4) }
    let disk := unix { (default : DiskSpec) with id := ⟨7⟩ } default edit
    let world : World Cloud :=
      ⟨default, Cloud.empty.seedDisk { (default : Disk) with id := ⟨7⟩ }⟩
    ¬ edit.Coherent ∧
      (∃ error after, (disk.build ⟨"is1a"⟩ .unset default).run.run default Cloud.remote world =
        (.error error, after)) ∧
      ∃ entry ∈ (disk.update ⟨"is1a"⟩ default).run.journal default Cloud.remote world,
        entry.request.edit?.isSome := by
  intro edit disk world
  have incoherent : ¬ edit.Coherent := by decide
  obtain ⟨⟨error, after, failed, -⟩, -, updated⟩ :=
    updates_skip_edit_rules default Cloud.remote world ⟨"is1a"⟩ .unset default
      { (default : DiskSpec) with id := ⟨7⟩ } default edit incoherent
  exact ⟨incoherent, ⟨error, after, failed⟩, (updated (by decide)).2.2.2 (by decide)⟩

/-- An update writes a subnet without an address into a stored disk. -/
theorem stored_disk_gets_stray_edit :
    let edit : UnixEdit :=
      { (default : UnixEdit) with
        networkMaskLen := some 24, defaultRoute := some (default : Ipv4) }
    let disk := unix { (default : DiskSpec) with id := ⟨7⟩ } default edit
    let cloud := Cloud.empty.seedDisk { (default : Disk) with id := ⟨7⟩ }
    let (outcome, after) := (disk.update ⟨"is1a"⟩ default).run.run default Cloud.remote
      ⟨default, cloud⟩
    ¬ edit.Coherent ∧ outcome.isOk ∧
      after.store.mutatingCalls = [.updateDisk, .configDisk] ∧
      (after.store.diskEdits.get? ⟨7⟩).any fun sent => sent.IsStray := by
  decide

end DiskBlueprint

end Update

end Provisioning
