import Provisioning.Text.Dotted

/-!
Internet addresses of four octets and their dotted decimal text. The main statements say that
reading the text of an address gives the address back, and that no other text gives it.
-/

namespace Provisioning

/-- An address has four octets, the most significant one first. -/
structure Ipv4 where
  first : UInt8
  second : UInt8
  third : UInt8
  fourth : UInt8
  deriving DecidableEq, Repr, Inhabited

namespace Ipv4

/-- This function writes a number in decimal digits. -/
def octetText (octet : UInt8) : List Char := (toString octet.toNat).toList

def chars (address : Ipv4) : List Char :=
  octetText address.first ++ '.' :: (octetText address.second ++ '.' ::
    (octetText address.third ++ '.' :: octetText address.fourth))

def text (address : Ipv4) : String := String.ofList address.chars

/-- This function reads one digit. -/
def digit? (char : Char) : Option Nat :=
  if '0' ≤ char ∧ char ≤ '9' then some (char.toNat - '0'.toNat) else none

/-- An octet has one to three digits, no leading zero and a value below 256. -/
def octet? : List Char → Option UInt8
  | [units] => do
      let units ← digit? units
      return UInt8.ofNat units
  | [tens, units] => do
      let tens ← digit? tens
      let units ← digit? units
      if tens = 0 then none else return UInt8.ofNat (10 * tens + units)
  | [hundreds, tens, units] => do
      let hundreds ← digit? hundreds
      let tens ← digit? tens
      let units ← digit? units
      let number := 100 * hundreds + 10 * tens + units
      if hundreds = 0 ∨ 255 < number then none else return UInt8.ofNat number
  | _ => none

/-- An address is four octets with a dot between any two and nothing around them. -/
def ofChars? (chars : List Char) : Option Ipv4 :=
  match Text.splitAtDots chars with
  | [first, second, third, fourth] => do
      let first ← octet? first
      let second ← octet? second
      let third ← octet? third
      let fourth ← octet? fourth
      return ⟨first, second, third, fourth⟩
  | _ => none

def ofText? (text : String) : Option Ipv4 := ofChars? text.toList

theorem octet?_octetText (octet : UInt8) : octet? (octetText octet) = some octet := by
  have every : ∀ number : Fin 256,
      octet? (octetText (UInt8.ofFin number)) = some (UInt8.ofFin number) := by
    decide +kernel
  simpa using every octet.toFin

theorem dot_not_mem_octetText (octet : UInt8) : '.' ∉ octetText octet := by
  have every : ∀ number : Fin 256, '.' ∉ octetText (UInt8.ofFin number) := by
    decide +kernel
  simpa using every octet.toFin

/-- Reading the text of an address gives the address back. -/
theorem ofText?_text (address : Ipv4) : ofText? address.text = some address := by
  have dotless := dot_not_mem_octetText
  simp [ofText?, text, ofChars?, chars, Text.splitAtDots_append (dotless _),
    Text.splitAtDots_of_not_mem (dotless _), octet?_octetText]

/-- A character that is read as a digit is the character of this digit. -/
theorem digit?_eq_some {char : Char} {digit : Nat} (read : digit? char = some digit) :
    ∃ small : Fin 10, digit = small ∧ char = Nat.digitChar small := by
  rw [digit?] at read
  split at read
  next inside =>
    have low : 48 ≤ char.toNat := inside.1
    have high : char.toNat ≤ 57 := inside.2
    cases read
    have every : ∀ small : Fin 10, Nat.digitChar small = Char.ofNat (48 + small) := by decide
    refine ⟨⟨char.toNat - 48, by omega⟩, rfl, ?_⟩
    have same : 48 + (char.toNat - 48) = char.toNat := by omega
    rw [every, same, Char.ofNat_toNat]
  next => nomatch read

/-- The text of an octet that was read is the text that it was read from. -/
theorem octetText_of_octet? {chars : List Char} {octet : UInt8}
    (read : octet? chars = some octet) : octetText octet = chars := by
  rcases chars with _ | ⟨first, _ | ⟨second, _ | ⟨third, _ | ⟨fourth, rest⟩⟩⟩⟩
  · nomatch read
  · obtain ⟨units, unitsRead, done⟩ := Option.bind_eq_some_iff.mp read
    obtain ⟨units, rfl, rfl⟩ := digit?_eq_some unitsRead
    cases done
    have every : ∀ units : Fin 10,
        octetText (UInt8.ofNat units) = [Nat.digitChar units] := by decide +kernel
    exact every units
  · obtain ⟨tens, tensRead, read⟩ := Option.bind_eq_some_iff.mp read
    obtain ⟨units, unitsRead, done⟩ := Option.bind_eq_some_iff.mp read
    obtain ⟨tens, rfl, rfl⟩ := digit?_eq_some tensRead
    obtain ⟨units, rfl, rfl⟩ := digit?_eq_some unitsRead
    have every : ∀ tens units : Fin 10, ¬ (tens : Nat) = 0 →
        octetText (UInt8.ofNat (10 * tens + units)) =
          [Nat.digitChar tens, Nat.digitChar units] := by
      decide +kernel
    split at done
    next => nomatch done
    next leads =>
      cases done
      exact every tens units leads
  · obtain ⟨hundreds, hundredsRead, read⟩ := Option.bind_eq_some_iff.mp read
    obtain ⟨tens, tensRead, read⟩ := Option.bind_eq_some_iff.mp read
    obtain ⟨units, unitsRead, done⟩ := Option.bind_eq_some_iff.mp read
    obtain ⟨hundreds, rfl, rfl⟩ := digit?_eq_some hundredsRead
    obtain ⟨tens, rfl, rfl⟩ := digit?_eq_some tensRead
    obtain ⟨units, rfl, rfl⟩ := digit?_eq_some unitsRead
    have every : ∀ hundreds tens units : Fin 10,
        ¬ ((hundreds : Nat) = 0 ∨ 255 < 100 * (hundreds : Nat) + 10 * tens + units) →
        octetText (UInt8.ofNat (100 * hundreds + 10 * tens + units)) =
          [Nat.digitChar hundreds, Nat.digitChar tens, Nat.digitChar units] := by
      decide +kernel
    dsimp only at done
    split at done
    next => nomatch done
    next fits =>
      cases done
      exact every hundreds tens units fits
  · nomatch read

/-- An address that is read from a text has this very text. -/
theorem text_of_ofText? {text : String} {address : Ipv4} (read : ofText? text = some address) :
    address.text = text := by
  rw [ofText?, ofChars?] at read
  have joined := Text.intercalate_splitAtDots text.toList
  split at read
  next first second third fourth parts =>
    obtain ⟨one, firstRead, read⟩ := Option.bind_eq_some_iff.mp read
    obtain ⟨two, secondRead, read⟩ := Option.bind_eq_some_iff.mp read
    obtain ⟨three, thirdRead, read⟩ := Option.bind_eq_some_iff.mp read
    obtain ⟨four, fourthRead, done⟩ := Option.bind_eq_some_iff.mp read
    cases done
    rw [parts, ← octetText_of_octet? firstRead, ← octetText_of_octet? secondRead,
      ← octetText_of_octet? thirdRead, ← octetText_of_octet? fourthRead] at joined
    have chars : Ipv4.chars ⟨one, two, three, four⟩ = text.toList := by
      rw [← joined]
      simp [Ipv4.chars, List.intercalate]
    rw [Ipv4.text, chars, String.ofList_toList]
  next => nomatch read

end Ipv4

end Provisioning
