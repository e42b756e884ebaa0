import Provisioning.Json.Form

/-!
Reading with defaults: what a document leaves out keeps the default value of its type.
-/

namespace Provisioning

variable {α : Type} [JsonForm α]

/-- The fields that are given replace those of a base record. -/
def decodeOver (base : α) (document : Json) : Option α := decode ((encode base).overlay document)

variable [Inhabited α]

/-- A null document stands for the default value. -/
def decodeOrDefault : Json → Option α
  | .null => some default
  | document => decodeOver default document

/-- A missing field is read like one that is null. -/
def decodeField (document : Json) (name : String) : Option α :=
  decodeOrDefault ((document.field? name).getD .null)

end Provisioning
