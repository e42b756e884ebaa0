import Provisioning.Blueprint.Basic

/-!
Rules for programs. In a context and against a remote, a program yields a condition on its value or
a condition on its failure. The rules follow a program from its first request to its last.
-/

namespace Provisioning

/-- A validation error rejects the input of a run. -/
def ProvisionError.IsValidation (error : ProvisionError) : Prop :=
  ∃ resource message, error = .validation resource message

/-- The failure of a remote call is never a validation error. -/
theorem ProvisionError.not_isValidation_ofRemote (label : String) (error : RemoteError) :
    ¬ (ofRemote label error).IsValidation := by
  rintro ⟨resource, message, same⟩
  cases error <;> nomatch same

/-- The error of an interruption is no validation error. -/
theorem Interruption.not_isValidation (action : String) (interruption : Interruption) :
    ¬ (interruption.error action).IsValidation := by
  rintro ⟨resource, message, same⟩
  cases interruption <;> nomatch same

/-- A sequence of checks accepts what each of its parts accepts. -/
theorem Check.of_bind {ε α β : Type} {first : Except ε α} {rest : α → Except ε β} {value : β}
    (accepted : first >>= rest = .ok value) :
    ∃ middle, first = .ok middle ∧ rest middle = .ok value := by
  cases first with
  | error error => nomatch accepted
  | ok middle => exact ⟨middle, rfl, accepted⟩

/-- A sequence of checks rejects what one of its parts rejects. -/
theorem Check.error_of_bind {ε α β : Type} {first : Except ε α} {rest : α → Except ε β} {error : ε}
    (rejected : first >>= rest = .error error) :
    first = .error error ∨ ∃ middle, rest middle = .error error := by
  cases first with
  | error same =>
      cases rejected
      exact .inl rfl
  | ok middle => exact .inr ⟨middle, rejected⟩

/-- A loop of checks accepts when each of them accepts. -/
theorem Check.of_forM {ε α : Type} {check : α → Except ε Unit} {items : List α}
    (accepted : items.forM check = .ok ()) : ∀ item ∈ items, check item = .ok () := by
  induction items with
  | nil => nofun
  | cons item rest inductionHypothesis =>
      obtain ⟨_, first, others⟩ := of_bind accepted
      exact List.forall_mem_cons.mpr ⟨first, inductionHypothesis others⟩

/-- A check that is rejected does not pass. -/
theorem Check.ne_ok_of_error {ε α : Type} {check : Except ε α} {error : ε} {value : α}
    (rejected : check = .error error) : check ≠ .ok value := by
  rw [rejected]
  rintro ⟨⟩

/-- A requirement passes exactly when its condition holds. -/
theorem Check.require_eq_ok {resource message : String} {condition : Bool} :
    Check.require resource condition message = .ok () ↔ condition = true := by
  rw [require]
  split
  next holds => exact ⟨fun _ => holds, fun _ => rfl⟩
  next fails => exact ⟨nofun, fun holds => absurd holds fails⟩

/-- A requirement is rejected with a validation error. -/
theorem Check.isValidation_of_require {resource message : String} {condition : Bool}
    {error : ProvisionError} (rejected : require resource condition message = .error error) :
    error.IsValidation := by
  rw [require] at rejected
  split at rejected
  · nomatch rejected
  · cases rejected
    exact ⟨resource, message, rfl⟩

/-- Where no duplicate is found, the items are distinct and none of them was seen before. -/
theorem firstDuplicateAfter_eq_none {α : Type} [DecidableEq α] {seen items : List α}
    (unique : firstDuplicateAfter seen items = none) :
    items.Nodup ∧ ∀ item ∈ items, item ∉ seen := by
  induction items generalizing seen with
  | nil => exact ⟨List.nodup_nil, nofun⟩
  | cons item rest inductionHypothesis =>
      rw [firstDuplicateAfter] at unique
      split at unique
      · nomatch unique
      next new =>
        obtain ⟨distinct, others⟩ := inductionHypothesis unique
        refine ⟨List.nodup_cons.mpr ⟨fun again => ?_, distinct⟩, ?_⟩
        · exact others item again List.mem_cons_self
        · exact List.forall_mem_cons.mpr
            ⟨new, fun other member old => others other member (List.mem_cons_of_mem _ old)⟩

/-- A list without a first duplicate has no item twice. -/
theorem nodup_of_firstDuplicate {α : Type} [DecidableEq α] {items : List α}
    (unique : firstDuplicate items = none) : items.Nodup :=
  (firstDuplicateAfter_eq_none unique).1

/-- A failure is excused when the circumstances are not quiet and it does not blame the input. -/
def ProvisionError.Excused (quiet : Prop) (error : ProvisionError) : Prop :=
  ¬ quiet ∧ ¬ error.IsValidation

namespace Program

variable {σ : Signature} {Store ε α β : Type}

/-- A program yields one condition when it succeeds and another one when it fails. -/
def Yields (context : Context) (remote : Remote σ Store) (program : ExceptT ε (Program σ) α)
    (world : World Store) (succeeds : α → World Store → Prop)
    (fails : ε → World Store → Prop) : Prop :=
  match program.run.run context remote world with
  | (.ok value, after) => succeeds value after
  | (.error error, after) => fails error after

section Rules

variable {context : Context} {remote : Remote σ Store} {world : World Store}
  {succeeds : α → World Store → Prop} {fails : ε → World Store → Prop}

/-- Conditions that a program yields may be weakened. -/
theorem Yields.mono {program : ExceptT ε (Program σ) α} {weaker : α → World Store → Prop}
    {weakerFailure : ε → World Store → Prop}
    (yields : Yields context remote program world succeeds fails)
    (onSuccess : ∀ value after, succeeds value after → weaker value after)
    (onFailure : ∀ error after, fails error after → weakerFailure error after) :
    Yields context remote program world weaker weakerFailure := by
  unfold Yields at yields ⊢
  split
  next value after same =>
    rw [same] at yields
    exact onSuccess value after yields
  next error after same =>
    rw [same] at yields
    exact onFailure error after yields

/-- Where only success matters, nothing is said about failures. -/
theorem Yields.onSuccess {program : ExceptT ε (Program σ) α} {weaker : α → World Store → Prop}
    (yields : Yields context remote program world succeeds fails)
    (implies : ∀ value after, succeeds value after → weaker value after) :
    Yields context remote program world weaker (fun _ _ => True) :=
  yields.mono implies fun _ _ _ => trivial

/-- A program yields two conditions together when it yields each of them. -/
theorem Yields.and {program : ExceptT ε (Program σ) α} {others : α → World Store → Prop}
    {otherFailures : ε → World Store → Prop}
    (first : Yields context remote program world succeeds fails)
    (second : Yields context remote program world others otherFailures) :
    Yields context remote program world
      (fun value after => succeeds value after ∧ others value after)
      (fun error after => fails error after ∧ otherFailures error after) := by
  unfold Yields at first second ⊢
  generalize program.run.run context remote world = result at first second ⊢
  obtain ⟨outcome, after⟩ := result
  cases outcome <;> exact ⟨first, second⟩

/-- A program yields whatever holds of every value and of every failure. -/
theorem Yields.of_forall {program : ExceptT ε (Program σ) α}
    (onSuccess : ∀ value after, succeeds value after)
    (onFailure : ∀ error after, fails error after) :
    Yields context remote program world succeeds fails := by
  unfold Yields
  split
  · exact onSuccess _ _
  · exact onFailure _ _

/-- A run that has succeeded meets the condition for success. -/
theorem Yields.succeeded {program : ExceptT ε (Program σ) α} {value : α} {after : World Store}
    (yields : Yields context remote program world succeeds fails)
    (ran : program.run.run context remote world = (.ok value, after)) : succeeds value after := by
  unfold Yields at yields
  rw [ran] at yields
  exact yields

/-- A condition on the outcome of a program holds when the program yields it either way. -/
theorem Yields.outcome {program : ExceptT ε (Program σ) α}
    {condition : Except ε α → World Store → Prop}
    (yields : Yields context remote program world (fun value after => condition (.ok value) after)
      (fun error after => condition (.error error) after)) :
    condition (program.run.run context remote world).1
      (program.run.run context remote world).2 := by
  unfold Yields at yields
  generalize program.run.run context remote world = result at yields ⊢
  obtain ⟨outcome, after⟩ := result
  cases outcome <;> exact yields

@[simp] theorem yields_pure (value : α) :
    Yields context remote (pure value) world succeeds fails ↔ succeeds value world := Iff.rfl

@[simp] theorem yields_throw (error : ε) :
    Yields context remote (throw error : ExceptT ε (Program σ) α) world succeeds fails ↔
      fails error world := Iff.rfl

/-- A sequence yields what its second part yields after its first part. -/
@[simp] theorem yields_bind (program : ExceptT ε (Program σ) α)
    (continuation : α → ExceptT ε (Program σ) β) {succeeds : β → World Store → Prop} :
    Yields context remote (program >>= continuation) world succeeds fails ↔
      Yields context remote program world
        (fun value after => Yields context remote (continuation value) after succeeds fails)
        fails := by
  unfold Yields
  rw [ExceptT.run_bind, run_bind]
  rcases program.run.run context remote world with ⟨outcome, after⟩
  cases outcome <;> rfl

/-- A sequence is proved part by part. -/
theorem Yields.bind {program : ExceptT ε (Program σ) α}
    {continuation : α → ExceptT ε (Program σ) β} {middle : α → World Store → Prop}
    {succeeds : β → World Store → Prop} (first : Yields context remote program world middle fails)
    (rest : ∀ value after, middle value after →
      Yields context remote (continuation value) after succeeds fails) :
    Yields context remote (program >>= continuation) world succeeds fails := by
  rw [yields_bind]
  exact first.mono rest (fun _ _ failure => failure)

/-- Two sequences run alike when their first parts do and then their rests do. -/
theorem run_bind_congr {program other : ExceptT ε (Program σ) α}
    {first second : α → ExceptT ε (Program σ) β}
    (alike : program.run.run context remote world = other.run.run context remote world)
    (same : Yields context remote other world
      (fun value after => (first value).run.run context remote after =
        (second value).run.run context remote after) (fun _ _ => True)) :
    (program >>= first).run.run context remote world =
      (other >>= second).run.run context remote world := by
  unfold Yields at same
  rw [ExceptT.run_bind, ExceptT.run_bind, run_bind, run_bind, alike]
  generalize other.run.run context remote world = result at same ⊢
  obtain ⟨outcome, after⟩ := result
  cases outcome with
  | ok value => exact same
  | error error => rfl

/-- A sequence answers with what its last part answers with. -/
theorem Yields.last {first : ExceptT ε (Program σ) α} {rest : α → ExceptT ε (Program σ) β}
    {answer : β} (answers : ∀ value after, Yields context remote (rest value) after
      (fun result _ => result = answer) (fun _ _ => True)) :
    Yields context remote (first >>= rest) world (fun result _ => result = answer)
      (fun _ _ => True) := by
  rw [yields_bind]
  exact .of_forall answers fun _ _ => trivial

/-- A choice yields what the program yields that it chooses. -/
@[simp] theorem yields_ite (condition : Prop) [Decidable condition]
    (first second : ExceptT ε (Program σ) α) :
    Yields context remote (if condition then first else second) world succeeds fails ↔
      if condition then Yields context remote first world succeeds fails
      else Yields context remote second world succeeds fails := by
  split <;> rfl

/-- A pure check yields what it decides. -/
@[simp] theorem yields_liftExcept (check : Except ε α) :
    Yields context remote (liftM check : ExceptT ε (Program σ) α) world succeeds fails ↔
      match check with
      | .ok value => succeeds value world
      | .error error => fails error world := by
  cases check <;> rfl

/-- A check either passes or fails with the error that it decides on. -/
theorem Yields.checked {check : Except ε Unit} {succeeds : Unit → World Store → Prop}
    (passes : check = .ok () → succeeds () world)
    (rejects : ∀ error, check = .error error → fails error world) :
    Yields context remote (liftM check : ExceptT ε (Program σ) Unit) world succeeds fails := by
  rw [yields_liftExcept]
  cases check with
  | ok passed => exact passes rfl
  | error error => exact rejects error rfl

/-- A loop keeps an invariant and collects a fact about each item. -/
theorem Yields.forM {ι : Type} (invariant : World Store → Prop) (fact : ι → Prop)
    {items : List ι} {step : ι → ExceptT ε (Program σ) PUnit}
    (each : ∀ item ∈ items, ∀ world, invariant world →
      Yields context remote (step item) world (fun _ after => invariant after ∧ fact item) fails)
    (here : invariant world) :
    Yields context remote (items.forM step) world
      (fun _ after => invariant after ∧ ∀ item ∈ items, fact item) fails := by
  induction items generalizing world with
  | nil => exact ⟨here, nofun⟩
  | cons item rest inductionHypothesis =>
      rw [List.forM]
      apply (each item List.mem_cons_self world here).bind
      rintro - after ⟨goesOn, collected⟩
      apply (inductionHypothesis (fun other member => each other (List.mem_cons_of_mem _ member))
        goesOn).mono
      · rintro - last ⟨holds, others⟩
        exact ⟨holds, List.forall_mem_cons.mpr ⟨collected, others⟩⟩
      · exact fun _ _ failure => failure

end Rules

section Steps

variable {context : Context} {remote : Remote σ Store} {world : World Store}

/-- The outcome of an attempt is available whether the attempt succeeds or fails. -/
@[simp] theorem yields_outcome (attempt : Attempt σ α)
    {succeeds : Except RemoteError α → World Store → Prop}
    {fails : ProvisionError → World Store → Prop} :
    Yields context remote attempt.outcome world succeeds fails ↔
      Yields context remote attempt world (fun value after => succeeds (.ok value) after)
        (fun error after => succeeds (.error error) after) := by
  unfold Yields Attempt.outcome
  rw [ExceptT.run_lift, map_eq_pure_bind, run_bind]
  rcases attempt.run.run context remote world with ⟨outcome, after⟩
  cases outcome <;> rfl

/-- A step of a run passes on the failure of its attempt under its label. -/
@[simp] theorem yields_during (label : String) (attempt : Attempt σ α)
    {succeeds : α → World Store → Prop} {fails : ProvisionError → World Store → Prop} :
    Yields context remote (Provision.during label attempt) world succeeds fails ↔
      Yields context remote attempt world succeeds
        (fun error after => fails (.ofRemote label error) after) := by
  unfold Provision.during
  rw [yields_bind, yields_outcome]
  exact Iff.rfl

@[simp] theorem yields_clock {succeeds : Nat → World Store → Prop}
    {fails : ε → World Store → Prop} :
    Yields context remote (ExceptT.lift (.clock .done) : ExceptT ε (Program σ) Nat) world succeeds
      fails ↔ succeeds world.timeline.now world := Iff.rfl

@[simp] theorem yields_now {succeeds : Nat → World Store → Prop}
    {fails : ProvisionError → World Store → Prop} :
    Yields context remote (Provision.now : Provision σ Nat) world succeeds fails ↔
      succeeds world.timeline.now world := Iff.rfl

/-- A check succeeds in an uninterrupted context and otherwise fails with the error of the
interruption. -/
@[simp] theorem yields_check (action : String) {succeeds : Unit → World Store → Prop}
    {fails : ProvisionError → World Store → Prop} :
    Yields context remote (Provision.check action : Provision σ Unit) world succeeds fails ↔
      match context.check world.timeline with
      | none => succeeds () world
      | some interruption => fails (interruption.error action) world := by
  unfold Provision.check
  rw [yields_bind]
  change Yields context remote (Provision.uninterrupted action (context.check world.timeline))
    world succeeds fails ↔ _
  cases context.check world.timeline <;> exact Iff.rfl

/-- A pause moves the time, and it fails when the context is interrupted during the pause. -/
@[simp] theorem yields_pause (span : Nat) (action : String)
    {succeeds : Unit → World Store → Prop} {fails : ProvisionError → World Store → Prop} :
    Yields context remote (Provision.pause span action : Provision σ Unit) world succeeds fails ↔
      match context.sleep span world.timeline with
      | (none, timeline) => succeeds () { world with timeline }
      | (some interruption, timeline) =>
          fails (interruption.error action) { world with timeline } := by
  unfold Provision.pause
  rw [yields_bind]
  change Yields context remote
    (Provision.uninterrupted action (context.sleep span world.timeline).1)
    { world with timeline := (context.sleep span world.timeline).2 } succeeds fails ↔ _
  rcases context.sleep span world.timeline with ⟨interruption, timeline⟩
  cases interruption <;> exact Iff.rfl

end Steps

section Checked

variable {quiet : Prop} {context : Context} {remote : Remote σ Store} {world : World Store}
  {check : Provision σ α} {program : Provision σ β}

/-- A program starts with a check and goes on after it. Once the check has succeeded, the program
does not fail in quiet circumstances, and never does it blame its input then. -/
def GoesOn (quiet : Prop) (context : Context) (remote : Remote σ Store) (check : Provision σ α)
    (program : Provision σ β) (world : World Store) : Prop :=
  ∃ continuation : α → Provision σ β, program = check >>= continuation ∧
    Yields context remote check world
      (fun value after => Yields context remote (continuation value) after (fun _ _ => True)
        (fun error _ => error.Excused quiet))
      (fun _ _ => True)

/-- In quiet circumstances a program that goes on after its check succeeds when the check does. -/
theorem GoesOn.isOk_iff (goesOn : GoesOn True context remote check program world) :
    (program.run.run context remote world).1.isOk ↔
      (check.run.run context remote world).1.isOk := by
  obtain ⟨continuation, rfl, yields⟩ := goesOn
  unfold Yields at yields
  rw [ExceptT.run_bind, run_bind]
  generalize check.run.run context remote world = result at yields ⊢
  obtain ⟨outcome, after⟩ := result
  cases outcome with
  | error error => rfl
  | ok value =>
      dsimp only at yields ⊢
      generalize (continuation value).run.run context remote after = result at yields ⊢
      obtain ⟨outcome, last⟩ := result
      cases outcome with
      | error error => exact absurd trivial yields.1
      | ok value => rfl

/-- A program that goes on after its check ends with a validation error only if its check does, and
then it stops there. -/
theorem GoesOn.stops (goesOn : GoesOn quiet context remote check program world)
    {error : ProvisionError} {after : World Store}
    (failed : program.run.run context remote world = (.error error, after))
    (validation : error.IsValidation) :
    check.run.run context remote world = (.error error, after) := by
  obtain ⟨continuation, rfl, yields⟩ := goesOn
  unfold Yields at yields
  rw [ExceptT.run_bind, run_bind] at failed
  generalize check.run.run context remote world = result at yields failed ⊢
  obtain ⟨outcome, middle⟩ := result
  cases outcome with
  | error same =>
      cases failed
      rfl
  | ok value =>
      dsimp only at yields failed
      rw [failed] at yields
      exact absurd validation yields.2

end Checked

section Calls

variable {context : Context}

/-- One request yields what the remote answers. -/
theorem yields_request {remote : Remote σ Store} {world : World Store} (request : σ.Request)
    {succeeds : σ.Answer request → World Store → Prop} {fails : RemoteError → World Store → Prop} :
    Yields context remote (Attempt.request request) world succeeds fails ↔
      match remote context request world with
      | (.ok value, after) => succeeds value after
      | (.error error, after) => fails error after := by
  unfold Yields
  simp only [Attempt.request, ExceptT.run_mk, run]
  rcases remote context request world with ⟨outcome, after⟩
  cases outcome <;> rfl

/-- A request to a cloud is one request. -/
@[simp] theorem yields_attempt {remote : Remote CloudService Store} {world : World Store}
    (request : Request) {succeeds : request.Answer → World Store → Prop}
    {fails : RemoteError → World Store → Prop} :
    Yields context remote (Build.attempt request) world succeeds fails ↔
      match remote context request world with
      | (.ok value, after) => succeeds value after
      | (.error error, after) => fails error after := by
  rw [Build.attempt, yields_request]
  rcases remote context request world with ⟨answer, after⟩
  cases answer <;> rfl

end Calls

end Program

end Provisioning
