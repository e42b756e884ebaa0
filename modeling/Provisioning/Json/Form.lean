import Provisioning.Ipv4
import Provisioning.Identifier
import Provisioning.Json.Basic

/-!
The document form of a type: one function writes a value and one reads it. Records list their fields
once, and both functions come from that list.
-/

namespace Provisioning

/-- A type with a document form can be written and read; some types have a value for no document. -/
class JsonForm (α : Type) where
  encode : α → Json
  decode : Json → Option α
  absent : Option α := none

export JsonForm (encode decode)

instance : JsonForm Unit where
  encode _ := .null
  decode
    | .null => some ()
    | _ => none

instance : JsonForm Bool where
  encode := .bool
  decode
    | .bool value => some value
    | _ => none

instance : JsonForm String where
  encode := .str
  decode
    | .str value => some value
    | _ => none

instance : JsonForm UInt8 where
  encode number := .ofNat number.toNat
  decode document := (document.natBelow? UInt8.size).map UInt8.ofNat

instance : JsonForm UInt16 where
  encode number := .ofNat number.toNat
  decode document := (document.natBelow? UInt16.size).map UInt16.ofNat

instance : JsonForm UInt32 where
  encode number := .ofNat number.toNat
  decode document := (document.natBelow? UInt32.size).map UInt32.ofNat

instance : JsonForm UInt64 where
  encode number := .ofNat number.toNat
  decode document := (document.natBelow? UInt64.size).map UInt64.ofNat

instance : JsonForm ResourceId where
  encode id := encode id.value
  decode document := (decode document).map ResourceId.mk

instance : JsonForm Zone where
  encode zone := .str zone.name
  decode document := (decode document).map Zone.mk

instance : JsonForm Tag where
  encode tag := .str tag.label
  decode document := (decode document).map Tag.mk

instance : JsonForm Ipv4 where
  encode address := .str address.text
  decode
    | .str text => Ipv4.ofText? text
    | _ => none

/-- A document is its own form. -/
instance : JsonForm Json where
  encode := id
  decode := some

/-- An absent optional value is null, and a missing one is absent. -/
instance {α : Type} [JsonForm α] : JsonForm (Option α) where
  encode
    | none => .null
    | some value => encode value
  decode
    | .null => some none
    | document => (decode document).map some
  absent := some none

instance {α : Type} [JsonForm α] : JsonForm (List α) where
  encode items := .arr (items.map encode)
  decode
    | .arr items => items.mapM decode
    | _ => none

/-- A map from texts is an object. -/
instance {α : Type} [JsonForm α] : JsonForm (SortedMap String α) where
  encode map := .obj (map.entries.map fun entry => (entry.1, encode entry.2))
  decode
    | .obj fields => do
        let entries ← fields.mapM fun field => (decode field.2).map (field.1, ·)
        return .ofList entries
    | _ => none

/-- A pair is a list of two. -/
instance {α β : Type} [JsonForm α] [JsonForm β] : JsonForm (α × β) where
  encode pair := .arr [encode pair.1, encode pair.2]
  decode
    | .arr [first, second] => do
        let first ← decode first
        let second ← decode second
        return (first, second)
    | _ => none

/-- A choice among names is the name, or an object that gives the name with nothing in it. -/
abbrev JsonForm.ofNames {α : Type} (name : α → String) (all : List α) : JsonForm α where
  encode choice := .str (name choice)
  decode
    | .str text => all.find? fun choice => name choice == text
    | .obj [(text, .null)] => all.find? fun choice => name choice == text
    | _ => none

/-- The fields of a record come by name from an object or in order from a list. -/
inductive FieldSource where
  | named (fields : List (String × Json))
  | ordered (items : List Json)

namespace FieldSource

/-- This function takes the next field. Only a named field may be missing, and it may not be
repeated. -/
def take {α : Type} [JsonForm α] (name : String) : FieldSource → Option (α × FieldSource)
  | .named fields =>
      (Json.readField JsonForm.absent decode name fields).map (·, .named fields)
  | .ordered [] => none
  | .ordered (item :: rest) => (decode item).map (·, .ordered rest)

/-- Unknown names are ignored, repeated or not, but a list must be used up. -/
def isComplete : FieldSource → Bool
  | .named _ => true
  | .ordered items => items.isEmpty

end FieldSource

/-- A field list says how parts of a record are written and how they are read back. -/
structure FieldList (ρ α : Type) where
  write : ρ → List (String × Json)
  read : FieldSource → Option (α × FieldSource)

namespace FieldList

variable {ρ α β : Type}

/-- A constructor waits for the fields that follow. -/
def start (constructor : α) : FieldList ρ α where
  write _ := []
  read source := some (constructor, source)

/-- One more field feeds the constructor. -/
def field [JsonForm α] (fields : FieldList ρ (α → β)) (name : String) (part : ρ → α) :
    FieldList ρ β where
  write record := fields.write record ++ [(name, encode (part record))]
  read source := do
    let (build, source) ← fields.read source
    let (value, source) ← source.take name
    return (build value, source)

end FieldList

/-- A record is written as an object with all of its fields. -/
abbrev JsonForm.ofFields {ρ : Type} (fields : FieldList ρ ρ) : JsonForm ρ where
  encode record := .obj (fields.write record)
  decode document := do
    let source ← match document with
      | .obj named => some (FieldSource.named named)
      | .arr items => some (FieldSource.ordered items)
      | _ => none
    let (record, rest) ← fields.read source
    if rest.isComplete then some record else none

end Provisioning
