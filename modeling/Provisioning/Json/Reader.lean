import Provisioning.Json.Number

/-!
Reading a document from its text. A scanner takes what it reads off the front of the text. The rules
are those of the format: nothing but blanks may stand around a document, and the last of several
fields with one name counts.
-/

namespace Provisioning.Json

/-- A scanner answers what it has read and the rest of the text. -/
abbrev Scanner (α : Type) : Type := List Char → Option (α × List Char)

namespace Scanner

def isSpace (char : Char) : Bool :=
  char == ' ' || char == '\t' || char == '\n' || char == '\r'

def skipSpaces (chars : List Char) : List Char := chars.dropWhile isSpace

/-- This function drops one expected character and the blanks before it. -/
def skip (expected : Char) (chars : List Char) : Option (List Char) :=
  match skipSpaces chars with
  | char :: rest => if char = expected then some rest else none
  | [] => none

/-- This scanner reads a fixed word. -/
def word {α : Type} (expected : String) (value : α) : Scanner α := fun chars =>
  let length := expected.toList.length
  if chars.take length = expected.toList then some (value, chars.drop length) else none

/-! ### Numbers -/

def digitOf (char : Char) : Nat := char.toNat - '0'.toNat

/-- At least one digit is read. -/
def digits : Scanner (List Nat) := fun chars =>
  match chars.span Char.isDigit with
  | ([], _) => none
  | (digits, rest) => some (digits.map digitOf, rest)

/-- More than one whole digit must not start with a zero. -/
def wholeDigits : Scanner (List Nat) := fun chars => do
  let (whole, rest) ← digits chars
  if 1 < whole.length ∧ whole.head? = some 0 then none else return (whole, rest)

def fraction : Scanner (Option (List Nat))
  | '.' :: rest => do
      let (places, rest) ← digits rest
      return (some places, rest)
  | chars => some (none, chars)

def exponentValue (negative : Bool) : Scanner (Option Int) := fun chars => do
  let (digits, rest) ← digits chars
  let size : Nat := digits.foldl (fun sum digit => 10 * sum + digit) 0
  return (some (if negative then -size else size), rest)

def exponent : Scanner (Option Int)
  | char :: rest =>
      if char == 'e' || char == 'E' then
        match rest with
        | '-' :: rest => exponentValue true rest
        | '+' :: rest => exponentValue false rest
        | rest => exponentValue false rest
      else some (none, char :: rest)
  | [] => some (none, [])

def magnitude (negative : Bool) : Scanner Json := fun chars => do
  let (whole, rest) ← wholeDigits chars
  let (fraction, rest) ← fraction rest
  let (exponent, rest) ← exponent rest
  let document ← ({ negative, whole, fraction, exponent } : Numeral).document?
  return (document, rest)

def number : Scanner Json
  | '-' :: rest => magnitude true rest
  | chars => magnitude false chars

/-! ### Texts -/

def hexDigit? (char : Char) : Option Nat :=
  if char.isDigit then some (digitOf char)
  else if 'a' ≤ char ∧ char ≤ 'f' then some (10 + char.toNat - 'a'.toNat)
  else if 'A' ≤ char ∧ char ≤ 'F' then some (10 + char.toNat - 'A'.toNat)
  else none

/-- A code unit has four hexadecimal digits. -/
def codeUnit : Scanner Nat
  | first :: second :: third :: fourth :: rest => do
      let digits ← [first, second, third, fourth].mapM hexDigit?
      return (digits.foldl (fun sum digit => 16 * sum + digit) 0, rest)
  | _ => none

/-- A high code unit needs a low one after it, and a low one never stands alone. -/
def codePoint : Scanner Char := fun chars => do
  let (unit, rest) ← codeUnit chars
  if 0xD800 ≤ unit ∧ unit < 0xDC00 then
    match rest with
    | '\\' :: 'u' :: rest => do
        let (low, rest) ← codeUnit rest
        if 0xDC00 ≤ low ∧ low < 0xE000 then
          return (Char.ofNat (0x10000 + (unit - 0xD800) * 0x400 + (low - 0xDC00)), rest)
        else none
    | _ => none
  else if 0xDC00 ≤ unit ∧ unit < 0xE000 then none
  else return (Char.ofNat unit, rest)

/-- These letters stand for characters that are hard to write. -/
def escapes : List (Char × Char) :=
  [('\x22', '\x22'), ('\\', '\\'), ('/', '/'), ('b', '\x08'), ('f', '\x0c'), ('n', '\n'),
    ('r', '\r'), ('t', '\t')]

def escaped : Scanner Char
  | 'u' :: rest => codePoint rest
  | char :: rest => (escapes.lookup char).map (·, rest)
  | [] => none

/-- The characters so far are in reverse, and control characters have to be escaped. -/
def textFrom : Nat → List Char → Scanner String
  | 0, _, _ => none
  | _, _, [] => none
  | steps + 1, before, char :: rest =>
      if char = '\x22' then some (String.ofList before.reverse, rest)
      else if char = '\\' then do
        let (char, rest) ← escaped rest
        textFrom steps (char :: before) rest
      else if char.toNat < 0x20 then none
      else textFrom steps (char :: before) rest

/-! ### Documents -/

mutual

/-- Each step reads at least one character or hands over to a step that does. -/
def document : Nat → Scanner Json
  | 0, _ => none
  | steps + 1, chars =>
      match skipSpaces chars with
      | 'n' :: rest => word "ull" .null rest
      | 't' :: rest => word "rue" (.bool true) rest
      | 'f' :: rest => word "alse" (.bool false) rest
      | '\x22' :: rest => do
          let (text, rest) ← textFrom steps [] rest
          return (.str text, rest)
      | '[' :: rest =>
          match skip ']' rest with
          | some rest => some (.arr [], rest)
          | none => do
              let (items, rest) ← itemsFrom steps [] rest
              return (.arr items, rest)
      | '\x7b' :: rest =>
          match skip '\x7d' rest with
          | some rest => some (.obj [], rest)
          | none => do
              let (fields, rest) ← fieldsFrom steps [] rest
              return (.obj fields, rest)
      | chars => number chars

/-- The items so far are in reverse. -/
def itemsFrom : Nat → List Json → Scanner (List Json)
  | 0, _, _ => none
  | steps + 1, before, chars => do
      let (item, rest) ← document steps chars
      match skip ',' rest with
      | some rest => itemsFrom steps (item :: before) rest
      | none => do
          let rest ← skip ']' rest
          return ((item :: before).reverse, rest)

def fieldsFrom : Nat → List (String × Json) → Scanner (List (String × Json))
  | 0, _, _ => none
  | steps + 1, before, chars => do
      let rest ← skip '\x22' chars
      let (name, rest) ← textFrom steps [] rest
      let rest ← skip ':' rest
      let (value, rest) ← document steps rest
      let fields := setField name value before
      match skip ',' rest with
      | some rest => fieldsFrom steps fields rest
      | none => do
          let rest ← skip '\x7d' rest
          return (fields, rest)

end

end Scanner

/-- A text is a document only when nothing is left of it. -/
def ofText? (text : String) : Option Json :=
  let chars := text.toList
  match Scanner.document (2 * chars.length + 1) chars with
  | some (document, rest) => if (Scanner.skipSpaces rest).isEmpty then some document else none
  | none => none

end Provisioning.Json
