/-!
Generated names: a fixed start and a random identifier, which is never shown.
-/

namespace Provisioning.Text

/-- Every generated name is shown as this one text, whatever its random identifier is. The text does
not say which name was generated, so no result may depend on it. -/
def generatedName : String := "kumo-<uuid>"

def nameStart : List Char := "kumo-".toList

def isLowerHex (char : Char) : Bool := char.isDigit || ('a' ≤ char && char ≤ 'f')

/-- Hexadecimal digits stand for themselves in the shape of an identifier, but for two of them. -/
def shapeTest : Char → Char → Bool
  | 'x', char => isLowerHex char
  | 'y', char => char == '8' || char == '9' || char == 'a' || char == 'b'
  | fixed, char => char == fixed

/-- A random identifier has its version in the third group and its variant in the fourth. -/
def identifierShape : List (Char → Bool) :=
  ("xxxxxxxx-xxxx-4xxx-yxxx-xxxxxxxxxxxx".toList).map shapeTest

def nameShape : List (Char → Bool) :=
  nameStart.map (fun fixed char => char == fixed) ++ identifierShape

/-- A text has a shape when each of its first characters passes its test. -/
def startsWithShape : List (Char → Bool) → List Char → Bool
  | [], _ => true
  | _ :: _, [] => false
  | test :: tests, char :: rest => test char && startsWithShape tests rest

/-- Characters that belong to a name that has been found already are passed over. -/
def hideFrom : Nat → List Char → List Char
  | _, [] => []
  | passed + 1, _ :: rest => hideFrom passed rest
  | 0, char :: rest =>
      if startsWithShape nameShape (char :: rest) then
        generatedName.toList ++ hideFrom (nameShape.length - 1) rest
      else char :: hideFrom 0 rest

def hideGeneratedNames (text : String) : String := String.ofList (hideFrom 0 text.toList)

end Provisioning.Text
