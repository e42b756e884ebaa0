/-!
Documents of plain data: null, booleans, whole and broken numbers, texts, lists and objects.
-/

namespace Provisioning

/-- A number that is written with a fraction or an exponent is never a whole number. -/
inductive Json where
  | null
  | bool (value : Bool)
  | int (value : Int)
  | float (value : Float)
  | str (value : String)
  | arr (items : List Json)
  | obj (fields : List (String × Json))

namespace Json

instance : Inhabited Json := ⟨null⟩

def ofNat (number : Nat) : Json := .int number

/-- This function reads a whole number below a bound. -/
def natBelow? (bound : Nat) : Json → Option Nat
  | .int (.ofNat number) => if number < bound then some number else none
  | _ => none

/-- The first field of a name counts. -/
def fieldOf (name : String) : List (String × Json) → Option Json
  | [] => none
  | (other, value) :: rest => if name = other then some value else fieldOf name rest

/-- These are all the documents that are given under a name. -/
def documentsOf (name : String) : List (String × Json) → List Json
  | [] => []
  | (other, document) :: rest =>
      if name = other then document :: documentsOf name rest else documentsOf name rest

/-- A field that is given is read, a missing one may have a value, and none may be repeated. -/
def readField {α : Type} (missing : Option α) (read : Json → Option α) (name : String)
    (given : List (String × Json)) : Option α :=
  match documentsOf name given with
  | [] => missing
  | [document] => read document
  | _ => none

def field? (name : String) : Json → Option Json
  | .obj fields => fieldOf name fields
  | _ => none

/-- This function replaces the value of a field in place, or adds the field at the end. -/
def setField (name : String) (value : Json) : List (String × Json) → List (String × Json)
  | [] => [(name, value)]
  | (other, old) :: rest =>
      if name = other then (name, value) :: rest else (other, old) :: setField name value rest

/-- The fields of the second object replace those of the first, each as a whole. -/
def overlay : Json → Json → Json
  | .obj fields, .obj changes =>
      .obj (changes.foldl (fun merged change => setField change.1 change.2 merged) fields)
  | _, other => other

mutual

/-- A patch changes the fields it names, field within field, and replaces all that is no object. -/
def patched : Json → Json → Json
  | .obj changes, .obj fields => .obj (patchedFields changes fields)
  | .obj changes, _ => .obj (patchedFields changes [])
  | change, _ => change

def patchedFields : List (String × Json) → List (String × Json) → List (String × Json)
  | [], fields => fields
  | (name, change) :: rest, fields =>
      patchedFields rest (setField name (patched change ((fieldOf name fields).getD .null)) fields)

end

def applyPatch (document change : Json) : Json := patched change document

mutual

/-- This function changes every text of a document, but no name of a field. -/
def mapTexts (change : String → String) : Json → Json
  | .str text => .str (change text)
  | .arr items => .arr (mapTextsOfItems change items)
  | .obj fields => .obj (mapTextsOfFields change fields)
  | document => document

def mapTextsOfItems (change : String → String) : List Json → List Json
  | [] => []
  | item :: rest => mapTexts change item :: mapTextsOfItems change rest

def mapTextsOfFields (change : String → String) : List (String × Json) → List (String × Json)
  | [] => []
  | (name, value) :: rest => (name, mapTexts change value) :: mapTextsOfFields change rest

end

end Json

end Provisioning
