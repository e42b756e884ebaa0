import Provisioning.SortedMap

/-!
Names of remote things: numeric identifiers, zones and tags.
-/

namespace Provisioning

/-- A resource identifier is a 64-bit number; zero names no resource and means "not set". -/
structure ResourceId where
  value : UInt64
  deriving DecidableEq, Repr

namespace ResourceId

def unset : ResourceId := ⟨0⟩

instance : Inhabited ResourceId := ⟨unset⟩

def isUnset (id : ResourceId) : Bool := id.value == 0

/-- A set identifier is itself and an unset one is absent. -/
def set? (id : ResourceId) : Option ResourceId := if id.isUnset then none else some id

def text (id : ResourceId) : String := toString id.value.toNat

instance : LT ResourceId := ⟨fun first second => first.value < second.value⟩

instance : DecidableLT ResourceId := fun first second =>
  inferInstanceAs (Decidable (first.value < second.value))

instance : KeyOrder ResourceId where
  irrefl id := UInt64.lt_irrefl id.value
  trans first second := UInt64.lt_trans first second
  connected {first second} notBelow notAbove := by
    cases first
    cases second
    exact congrArg ResourceId.mk
      (UInt64.le_antisymm (UInt64.not_lt.mp notAbove) (UInt64.not_lt.mp notBelow))

/-- Identifiers compare by number. -/
def compare (first second : ResourceId) : Ordering :=
  if first < second then .lt else if first = second then .eq else .gt

end ResourceId

/-- A zone is the name of the place where a zonal resource lives. -/
structure Zone where
  name : String
  deriving DecidableEq, Repr, Inhabited

/-- A tag is a free label on a resource. -/
structure Tag where
  label : String
  deriving DecidableEq, Repr, Inhabited

/-- A list of tags carries a label only when one of them is exactly that label. -/
def hasTag (tags : List Tag) (wanted : String) : Bool :=
  tags.any fun tag => tag.label == wanted

end Provisioning
