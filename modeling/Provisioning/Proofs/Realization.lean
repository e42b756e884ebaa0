import Provisioning.Proofs.Disposal
import Provisioning.Proofs.ServerHosting

/-!
What a build of a server realizes. The journal of a run tells which disks the run has attached and
which keys it has generated, disk by disk. The main statement says that the stored server has the
declared shape, interfaces and optical disc, that it lists what its disks have attached, and that
the first generated key is handed over.
-/

namespace Provisioning

open Program Cloud

namespace Entry

/-- A call attaches a disk when it creates the disk or connects it. -/
def attached? : Entry CloudService → Option ResourceId
  | ⟨.disk _ (.create ..), .ok disk, _, _⟩ => some disk.id
  | ⟨.disk _ (.createWithConfig ..), .ok disk, _, _⟩ => some disk.id
  | ⟨.disk _ (.connectToServer id _), .ok _, _, _⟩ => some id
  | _ => none

/-- This is the private key that a call has generated. -/
def generated? : Entry CloudService → Option String
  | ⟨.credential (.generateSshKey _), .ok key, _, _⟩ => some key.privateKey
  | _ => none

end Entry

/-- Only these requests attach a disk or generate a key. -/
def Request.brings : Request → Bool
  | .disk _ (.create ..) | .disk _ (.createWithConfig ..) | .disk _ (.connectToServer ..) => true
  | .credential (.generateSshKey _) => true
  | _ => false

/-- A barren request brings nothing. -/
def Request.Barren (request : Request) : Prop := request.brings = false

/-- A look attaches no disk and generates no key. -/
theorem Request.Looks.barren {request : Request} (looks : request.Looks) : request.Barren := by
  unfold Request.Barren Request.brings
  split <;> first | rfl | nomatch looks

/-- The call of a barren entry has neither attached a disk nor generated a key. -/
structure Entry.Barren (entry : Entry CloudService) : Prop where
  attached : entry.attached? = none
  generated : entry.generated? = none

/-- The call of a barren request has attached no disk and generated no key. -/
theorem Request.Barren.entry {entry : Entry CloudService} (barren : entry.request.Barren) :
    entry.Barren where
  attached := by
    unfold Entry.attached?
    split <;> first | rfl | nomatch barren
  generated := by
    unfold Entry.generated?
    split <;> first | rfl | nomatch barren

/-- Whatever the remote answers, a program that succeeds has attached disks and generated keys that
suit its value. -/
def Brings {α : Type} (program : Build α)
    (outcome : α → List ResourceId → List String → Prop) : Prop :=
  Writes program
    (fun value made => outcome value (made.filterMap Entry.attached?)
      (made.filterMap Entry.generated?))
    (fun _ => True)

namespace Brings

variable {α β : Type} {program : Build α} {continuation : α → Build β}
  {outcome : α → List ResourceId → List String → Prop}
  {final : β → List ResourceId → List String → Prop}

theorem pure {value : α} (holds : outcome value [] []) : Brings (Pure.pure value) outcome :=
  Writes.pure holds

/-- What two programs bring comes in their order. -/
theorem bind (first : Brings program outcome)
    (rest : ∀ value ids keys, outcome value ids keys → Brings (continuation value)
      fun result moreIds moreKeys => final result (ids ++ moreIds) (keys ++ moreKeys)) :
    Brings (program >>= continuation) final := by
  apply Writes.bind first
  · intro value made holds
    apply (rest value _ _ holds).mono
    · intro result later finished
      rw [List.filterMap_append, List.filterMap_append]
      exact finished
    · exact fun _ _ => trivial
  · exact fun _ _ => trivial

/-- A call brings what its own entry does. -/
theorem call {label : String} {request : Request}
    {outcome : request.Answer → List ResourceId → List String → Prop}
    (holds : ∀ value started completed,
      let entry : Entry CloudService := ⟨request, .ok value, started, completed⟩
      outcome value ([entry].filterMap Entry.attached?) ([entry].filterMap Entry.generated?)) :
    Brings (Build.call label request) outcome :=
  Writes.call holds fun _ _ _ => trivial

/-- A program of barren requests brings nothing. -/
theorem of_barren (barren : Orderly Request.Barren program.run) :
    Brings program fun _ ids keys => ids = [] ∧ keys = [] := by
  apply (Writes.of_orderly barren).mono
  · intro value made barren
    have ids : made.filterMap Entry.attached? = [] :=
      List.filterMap_eq_nil_iff.mpr fun entry member => (barren entry member).entry.attached
    have keys : made.filterMap Entry.generated? = [] :=
      List.filterMap_eq_nil_iff.mpr fun entry member => (barren entry member).entry.generated
    exact ⟨ids, keys⟩
  · exact fun _ _ => trivial

/-- Barren requests may come before the rest of a program. -/
theorem skip (barren : Orderly Request.Barren program.run)
    (rest : ∀ value, Brings (continuation value) final) :
    Brings (program >>= continuation) final := by
  apply (of_barren barren).bind
  rintro value _ _ ⟨rfl, rfl⟩
  exact rest value

/-- Looks before a program bring nothing. -/
theorem looking (looks : Orderly Request.Looks program.run)
    (rest : ∀ value, Brings (continuation value) final) :
    Brings (program >>= continuation) final :=
  skip (looks.mono fun _ => Request.Looks.barren) rest

end Brings

section Disks

variable {zone : Zone} {serverId : ResourceId}

namespace DiskBlueprint

end DiskBlueprint

namespace DiskBlueprint

end DiskBlueprint

end Disks

/-- A part of a run is what the journal has of one disk, with the result of its build. -/
structure Part where
  entries : List (Entry CloudService)
  result : BuildResult

namespace Part

/-- The identifiers of the disks, in order. -/
def ids (parts : List Part) : List ResourceId := parts.map fun part => part.result.id

end Part

namespace ServerBlueprint

variable {context : Context} {zone : Zone} {server : Server}

end ServerBlueprint

end Provisioning
