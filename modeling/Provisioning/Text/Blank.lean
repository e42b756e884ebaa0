/-!
Blank characters: those with the Unicode property White_Space.
-/

namespace Provisioning.Text

/-- These ranges hold the code points with the property White_Space. -/
def blankRanges : List (Nat × Nat) :=
  [(0x9, 0xD), (0x20, 0x20), (0x85, 0x85), (0xA0, 0xA0), (0x1680, 0x1680), (0x2000, 0x200A),
    (0x2028, 0x2029), (0x202F, 0x202F), (0x205F, 0x205F), (0x3000, 0x3000)]

def isBlankChar (char : Char) : Bool :=
  blankRanges.any fun range => decide (range.1 ≤ char.toNat ∧ char.toNat ≤ range.2)

/-- A text is blank when all of its characters are. -/
def isBlank (text : String) : Bool := text.toList.all isBlankChar

/-- A text is trimmed by dropping the blank characters at both of its ends. -/
def trimmed (chars : List Char) : List Char :=
  ((chars.dropWhile isBlankChar).reverse.dropWhile isBlankChar).reverse

end Provisioning.Text
