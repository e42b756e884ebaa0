import Provisioning.Proofs.RouterRules

/-!
Programs whose outcome repeats itself. While a cloud is only looked at, it keeps resembling what it
was, and a validation of a disk comes to the same outcome again and again. The order of the plans of
servers does not matter to it either.
-/

namespace Provisioning

open Program Cloud Lineage

/-- This is the value or the error that a program ends with. -/
def Build.outcome {α : Type} (program : Build α) (context : Context) (world : World Cloud) :
    Except ProvisionError α :=
  (program.run.run context Cloud.remote world).1

/-- This is the world that a program leaves behind. -/
def Build.aftermath {α : Type} (program : Build α) (context : Context) (world : World Cloud) :
    World Cloud :=
  (program.run.run context Cloud.remote world).2

/-- This program asks for a record and only minds whether it is there. -/
def Build.seek (label : String) (request : Request) : Build Unit := do
  let _ ← Build.call label request

/-- A table has the record of an identifier or reports it as missing. -/
def Cloud.Table.found {ρ : Type} (table : Cloud.Table ρ) (cloud : Cloud) (id : ResourceId) :
    Except ProvisionError ρ :=
  match (table.read cloud).get? id with
  | some record => .ok record
  | none => .error (.notFound table.resource id.text)

/-- A request looks a record up in a table when it only finds it there. The table stays as it is
while the cloud is looked at, and whatever plans of servers the cloud lists. -/
structure Cloud.LooksUp (request : Request) (table : Cloud.Table request.Answer)
    (id : ResourceId) : Prop where
  finds : answerRequest request = table.find id := by rfl
  steady : table.Steady := by exact fun _ _ _ _ _ => rfl
  kept : ∀ cloud plans, table.read { cloud with serverPlans := plans } = table.read cloud := by
    exact fun _ _ => rfl

/-- A read of a disk fails only because the disk is missing. -/
theorem Cloud.answerDisk_misses (cloud : Cloud) (id : ResourceId) :
    (answerDisk (.read id)).Yields cloud (fun _ _ => True)
      (fun miss _ => miss = .missing "disk" id) := by
  rw [answerDisk, CloudStep.yields_readSettling]
  split
  · rfl
  next disk stored =>
    have finds (pending : Records Nat) :
        (diskTable.read { cloud with pending }).get? id = some disk := stored
    split
    · exact .change _ _ stored trivial
    · split
      · exact .find _ _ (finds _) trivial
      · exact .change _ _ (finds _) trivial

namespace World

/-- A world resembles another one when it is just as late, when no failure is announced in it, and
when its cloud differs by looks and by the plans of servers at most. -/
structure Resembles (base now : World Cloud) : Prop where
  timeline : now.timeline = base.timeline
  silent : now.store.failures = []
  looked : { base.store with serverPlans := now.store.serverPlans }.Looked now.store

namespace Resembles

variable {base now : World Cloud}

theorem refl (silent : base.store.failures = []) : base.Resembles base := ⟨rfl, silent, .refl _⟩

/-- A silent world resembles itself whatever plans its cloud has. -/
theorem replanned (silent : base.store.failures = []) (plans : List ServerPlan) :
    base.Resembles { base with store := { base.store with serverPlans := plans } } :=
  ⟨rfl, silent, .refl _⟩

/-- A look leaves a resemblance behind. -/
theorem look (resembles : base.Resembles now) {store : Cloud} (looked : now.store.Looked store)
    (silent : store.failures = []) : base.Resembles { now with store } where
  timeline := resembles.timeline
  silent := silent
  looked := by
    have plans : store.serverPlans = now.store.serverPlans := by rw [looked.rest]
    dsimp only
    rw [plans]
    exact resembles.looked.trans looked

/-- A world still resembles its base when a call is logged. -/
theorem logging (resembles : base.Resembles now) (request : Request) :
    base.Resembles { now with store := now.store.logging request now.store.failures } :=
  resembles.look (.logging request _) resembles.silent

/-- A world that resembles its base has the same archives. -/
theorem archives (resembles : base.Resembles now) : now.store.archives = base.store.archives :=
  resembles.looked.archives

/-- A steady table that does not list plans of servers reads alike. -/
theorem read_eq (resembles : base.Resembles now) {ρ : Type} {table : Cloud.Table ρ}
    (steady : table.Steady)
    (kept : ∀ cloud plans, table.read { cloud with serverPlans := plans } = table.read cloud) :
    table.read now.store = table.read base.store :=
  (steady.read_eq resembles.looked).trans (kept _ _)

end Resembles

end World

/-- A program repeats itself when it comes to one outcome in all worlds that resemble a base, and
when these worlds go on to resemble it. -/
structure Repeats {α : Type} (context : Context) (base : World Cloud) (program : Build α) :
    Prop where
  alike : ∀ {first second : World Cloud}, base.Resembles first → base.Resembles second →
    program.outcome context first = program.outcome context second
  resembles : ∀ {now : World Cloud}, base.Resembles now →
    base.Resembles (program.aftermath context now)

namespace Build

variable {α β : Type} {context : Context} {base now : World Cloud}

/-- A program that yields one outcome either way comes to this outcome. -/
theorem outcome_of_yields {program : Build α} {outcome : Except ProvisionError α}
    {goesOn : World Cloud → Prop} (yields : Yields context Cloud.remote program now
      (fun value after => goesOn after ∧ outcome = .ok value)
      (fun error after => goesOn after ∧ outcome = .error error)) :
    goesOn (program.aftermath context now) ∧ program.outcome context now = outcome := by
  unfold Yields at yields
  unfold aftermath Build.outcome
  generalize program.run.run context Cloud.remote now = result at yields ⊢
  obtain ⟨ended, after⟩ := result
  cases ended <;> exact ⟨yields.1, yields.2.symm⟩

/-- A sequence comes to the outcomes of its parts, one after the other, when its second part repeats
itself. -/
theorem outcome_bind {program : Build α} {continuation : α → Build β}
    (goesOn : base.Resembles (program.aftermath context now)) (here : base.Resembles now)
    (rest : ∀ value, Repeats context base (continuation value)) :
    Build.outcome (program >>= continuation) context now =
      program.outcome context now >>= fun value => (continuation value).outcome context now := by
  unfold outcome
  unfold aftermath at goesOn
  rw [ExceptT.run_bind, run_bind]
  generalize program.run.run context Cloud.remote now = result at goesOn ⊢
  obtain ⟨outcome, after⟩ := result
  cases outcome with
  | error error => rfl
  | ok value => exact (rest value).alike goesOn here

/-- Without a set identifier there is nothing to do. -/
theorem outcome_whenSet {id : ResourceId} {step : ResourceId → Build Unit} :
    Build.outcome (id.set?.elim (pure ()) step) context now = .ok () ↔
      (id ≠ .unset → (step id).outcome context now = .ok ()) := by
  rw [ResourceId.set?]
  split
  next unset => exact ⟨fun _ set => absurd ((isUnset_iff id).mp unset) set, fun _ => rfl⟩
  next set => exact ⟨fun passed _ => passed, fun passes => passes ((isUnset_iff id).not.mp set)⟩

/-- A check comes first and leaves the world as it is. -/
theorem outcome_check_bind {check : Except ProvisionError α} {continuation : α → Build β} :
    Build.outcome (liftM check >>= continuation) context now =
      check >>= fun value => (continuation value).outcome context now := by
  cases check <;> rfl

end Build

namespace Repeats

variable {α β : Type} {context : Context} {base now : World Cloud} {zone : Zone}

/-- A program that yields one outcome wherever it resembles a base repeats itself. -/
theorem of_yields {program : Build α} (outcome : Except ProvisionError α)
    (yields : ∀ now, base.Resembles now → Yields context Cloud.remote program now
      (fun value after => base.Resembles after ∧ outcome = .ok value)
      (fun error after => base.Resembles after ∧ outcome = .error error)) :
    Repeats context base program := by
  have comes (now : World Cloud) (here : base.Resembles now) :=
    Build.outcome_of_yields (yields now here)
  exact ⟨fun first second => (comes _ first).2.trans (comes _ second).2.symm,
    fun here => (comes _ here).1⟩

theorem pure (value : α) : Repeats context base (Pure.pure value) :=
  ⟨fun _ _ => rfl, fun here => here⟩

theorem throw (error : ProvisionError) :
    Repeats context base (MonadExcept.throw error : Build α) :=
  ⟨fun _ _ => rfl, fun here => here⟩

theorem lift (check : Except ProvisionError α) : Repeats context base (liftM check) := by
  cases check <;> exact ⟨fun _ _ => rfl, fun here => here⟩

/-- Programs that repeat themselves are sequenced to one that does. -/
theorem bind {program : Build α} {continuation : α → Build β} (first : Repeats context base program)
    (rest : ∀ value, Repeats context base (continuation value)) :
    Repeats context base (program >>= continuation) where
  alike here there := by
    rw [Build.outcome_bind (first.resembles here) here rest,
      Build.outcome_bind (first.resembles there) there rest, first.alike here there]
    cases program.outcome context _ with
    | error error => rfl
    | ok value => exact (rest value).alike here there
  resembles here := by
    have goesOn := first.resembles here
    unfold Build.aftermath at goesOn ⊢
    rw [ExceptT.run_bind, run_bind]
    generalize program.run.run context Cloud.remote _ = result at goesOn ⊢
    obtain ⟨outcome, after⟩ := result
    cases outcome with
    | error error => exact goesOn
    | ok value => exact (rest value).resembles goesOn

theorem forM {ι : Type} {items : List ι} {step : ι → Build PUnit}
    (each : ∀ item, Repeats context base (step item)) : Repeats context base (items.forM step) := by
  induction items with
  | nil => exact .pure _
  | cons item rest inductionHypothesis =>
      rw [List.forM]
      exact (each item).bind fun _ => inductionHypothesis

/-- A loop comes to what the outcomes of its steps come to. -/
theorem outcome_forM {ι : Type} {items : List ι} {step : ι → Build PUnit}
    (each : ∀ item, Repeats context base (step item)) (here : base.Resembles now) :
    Build.outcome (items.forM step) context now =
      items.forM fun item => (step item).outcome context now := by
  induction items with
  | nil => rfl
  | cons item rest inductionHypothesis =>
      rw [List.forM, List.forM, Build.outcome_bind ((each item).resembles here) here
        fun _ => forM each, inductionHypothesis]

/-- A step may depend on an identifier that is set. -/
theorem whenSet {id : ResourceId} {step : ResourceId → Build Unit}
    (repeats : Repeats context base (step id)) :
    Repeats context base (id.set?.elim (Pure.pure ()) step) := by
  rw [ResourceId.set?]
  split
  · exact .pure ()
  · exact repeats

section Lookup

variable {label : String} (request : Request) (table : Cloud.Table request.Answer)
  (id : ResourceId) (lookup : LooksUp request table id)

include lookup

/-- A lookup finds the record of the base or reports it as missing. -/
theorem yields_lookup (here : base.Resembles now) :
    Yields context Cloud.remote (Build.call label request) now
      (fun record after => base.Resembles after ∧ table.found base.store id = .ok record)
      (fun error after => base.Resembles after ∧ table.found base.store id = .error error) := by
  apply yields_silent_call here.silent
  rw [lookup.finds, CloudStep.yields_find,
    lookup.steady.read_eq (.logging request now.store.failures),
    here.read_eq lookup.steady lookup.kept, Cloud.Table.found]
  cases (table.read base.store).get? id with
  | none => exact ⟨here.logging request, rfl⟩
  | some record => exact ⟨here.logging request, rfl⟩

theorem call : Repeats context base (Build.call label request) :=
  of_yields _ fun _ => yields_lookup request table id lookup

/-- A lookup comes to what is found in the base. -/
theorem outcome_call (here : base.Resembles now) :
    (Build.call label request).outcome context now = table.found base.store id :=
  (Build.outcome_of_yields (yields_lookup request table id lookup here)).2

theorem seek : Repeats context base (Build.seek label request) :=
  (call request table id lookup).bind fun _ => .pure _

/-- A record is there when the base stores it. -/
theorem outcome_seek (here : base.Resembles now) :
    (Build.seek label request).outcome context now = .ok () ↔
      ((table.read base.store).get? id).isSome := by
  have asks : Repeats context base (Build.call label request) := call request table id lookup
  rw [Build.seek, Build.outcome_bind (asks.resembles here) here fun _ => .pure _,
    outcome_call request table id lookup here, Cloud.Table.found]
  cases (table.read base.store).get? id with
  | none => exact ⟨nofun, nofun⟩
  | some record => exact ⟨fun _ => rfl, fun _ => rfl⟩

end Lookup

/-- A read of a disk shows the lineage of the disk, or the disk is missing. -/
theorem yields_readDisk (id : ResourceId) (here : base.Resembles now) :
    Yields context Cloud.remote (Build.attempt (.disk zone (.read id))) now
      (fun read after => base.Resembles after ∧
        ∃ disk, base.store.disks.get? id = some disk ∧ read.lineage = disk.lineage)
      (fun miss after => base.Resembles after ∧ base.store.disks.get? id = none ∧
        miss = .missing "disk" id) := by
  have silent {request : Request} {after : Cloud} (written : request.Footprint
      (now.store.logging request now.store.failures) after) : after.failures = [] :=
    written.failures.trans here.silent
  apply yields_silent_attempt here.silent
  apply (((answerDisk_read _ id).and (answerDisk_misses _ id)).and
    (answerRequest_footprint (.disk zone (.read id)))).mono
  · rintro read after ⟨⟨⟨looked, disk, stored, same⟩, -⟩, written⟩
    obtain ⟨original, found, equal⟩ := here.looked.disk stored
    exact ⟨here.look looked.of_logging (silent written), original, found, same.trans equal⟩
  · rintro miss after ⟨⟨⟨looked, absent, -⟩, missing⟩, written⟩
    exact ⟨here.look looked.of_logging (silent written), here.looked.disk_none.mp absent, missing⟩

/-- A look at a disk that only matters by its success repeats itself. -/
theorem readDisk (label : String) (id : ResourceId) :
    Repeats context base (Build.seek label (.disk zone (.read id))) := by
  apply of_yields ((diskTable.found base.store id).map fun _ => ())
  intro now here
  rw [Build.seek, yields_bind, Build.call, yields_during]
  apply (yields_readDisk id here).mono
  · rintro read after ⟨goesOn, disk, stored, -⟩
    refine ⟨goesOn, ?_⟩
    rw [Cloud.Table.found, diskTable, stored]
    rfl
  · rintro miss after ⟨goesOn, absent, rfl⟩
    refine ⟨goesOn, ?_⟩
    rw [Cloud.Table.found, diskTable, absent]
    rfl

/-- A check of the context repeats itself, because no time passes. -/
theorem check (action : String) : Repeats context base (Provision.check action) := by
  apply of_yields ((context.check base.timeline).elim (.ok ()) fun interruption =>
    .error (interruption.error action))
  intro now here
  rw [yields_check, here.timeline]
  cases context.check base.timeline with
  | none => exact ⟨here, rfl⟩
  | some interruption => exact ⟨here, rfl⟩

end Repeats

section Disks

variable {context : Context} {base : World Cloud} {zone : Zone}

/-- An inspection repeats itself, because a disk is judged by its lineage only. -/
theorem Lineage.inspect_repeats (node : Node) : Repeats context base (inspect zone node) := by
  cases node with
  | disk id =>
      apply Repeats.of_yields
        ((base.store.disks.get? id).elim (.ok (.follow (.archive id))) judgeDisk)
      intro now here
      rw [inspect, yields_bind, yields_outcome]
      apply (Repeats.yields_readDisk id here).mono
      · rintro read after ⟨goesOn, disk, stored, same⟩
        rw [yields_liftExcept, stored, judgeDisk_congr same]
        cases judged : judgeDisk disk with
        | ok verdict => exact ⟨goesOn, judged⟩
        | error error => exact ⟨goesOn, judged⟩
      · rintro miss after ⟨goesOn, absent, rfl⟩
        rw [absent]
        exact ⟨goesOn, rfl⟩
  | archive id =>
      apply (Repeats.call (.catalogue zone (.readArchive id)) archiveTable id {}).bind
      exact fun archive => .lift (judgeArchive archive)

/-- A walk checks, inspects and goes on in the same way each time. -/
theorem Lineage.walk_repeats (start : ResourceId) (steps : Nat) (visited : List Node)
    (node : Node) : Repeats context base (walk zone start steps visited node) := by
  induction steps generalizing visited node with
  | zero => exact .throw _
  | succ steps inductionHypothesis =>
      rw [walk]
      apply (Repeats.check _).bind
      intro _
      split
      · exact .throw _
      · apply (inspect_repeats node).bind
        intro verdict
        cases verdict with
        | editable supported => exact .pure supported
        | follow source => exact inductionHypothesis (node :: visited) source

theorem DiskSpec.validate_repeats (spec : DiskSpec) :
    Repeats context base (spec.validate zone) := by
  apply (Repeats.lift _).bind
  intro _
  apply (Repeats.lift _).bind
  intro _
  apply (Repeats.call (.catalogue zone (.readDiskPlan spec.planId)) diskPlanTable _ {}).bind
  exact fun plan => .lift _

theorem UnixEdit.validate_repeats (edit : UnixEdit) : Repeats context base edit.validate := by
  apply (Repeats.lift _).bind
  intro _
  have keys : Repeats context base (edit.sshKeyIds.forM fun id => do
      let _ ← Build.call "read SSH key" (.credential (.readSshKey id))) := by
    apply Repeats.forM
    intro id
    exact .seek (.credential (.readSshKey id)) sshKeyTable id {}
  apply keys.bind
  intro _
  apply Repeats.forM
  intro note
  exact .seek (.credential (.readNote note.id)) noteTable note.id {}

theorem OperatingSystem.findArchive_repeats (system : OperatingSystem) :
    Repeats context base (system.findArchive zone) := by
  have finds : Repeats context base (Build.call "find archive"
      (.catalogue zone (.findArchives (.withTags system.archiveTags)))) := by
    apply Repeats.of_yields
      (.ok (base.store.archives.values.filter (isMatch (.withTags system.archiveTags))))
    intro now here
    apply yields_silent_call here.silent
    refine ⟨here.logging _, ?_⟩
    rw [← here.archives]
    rfl
  rw [findArchive]
  split
  · exact .throw _
  · apply finds.bind
    intro archives
    split
    · exact .pure _
    · exact .throw _

namespace DiskBlueprint

/-- The search for the source of a copy repeats itself. -/
theorem readSource_repeats (source : Node) : Repeats context base (readSource zone source) := by
  cases source with
  | disk id => exact .readDisk _ id
  | archive id =>
      exact .seek (.catalogue zone (.readArchive id)) archiveTable id {}

/-- The validation of a disk repeats itself. -/
theorem validate_repeats (blueprint : DiskBlueprint) :
    Repeats context base (blueprint.validate zone) := by
  cases blueprint with
  | unix spec system edit =>
      apply spec.validate_repeats.bind
      intro _
      apply (Repeats.lift _).bind
      intro _
      exact system.findArchive_repeats.bind fun _ => edit.validate_repeats
  | windows spec system edit =>
      apply spec.validate_repeats.bind
      intro _
      apply (Repeats.lift _).bind
      intro _
      exact system.findArchive_repeats.bind fun _ => .pure _
  | fixedArchive spec system =>
      apply spec.validate_repeats.bind
      intro _
      exact system.findArchive_repeats.bind fun _ => .pure _
  | copied spec sourceDiskId sourceArchiveId edit =>
      apply spec.validate_repeats.bind
      intro _
      apply (Repeats.lift _).bind
      intro source
      apply (readSource_repeats source).bind
      intro _
      cases edit with
      | none => exact .pure _
      | some edit =>
          apply (walk_repeats source.id _ [] (.disk source.id)).bind
          intro supported
          exact (Repeats.lift _).bind fun _ => edit.validate_repeats
  | blank spec => exact spec.validate_repeats
  | connected spec diskId =>
      apply (Repeats.lift _).bind
      exact fun _ => .readDisk _ diskId

end DiskBlueprint

end Disks

end Provisioning
