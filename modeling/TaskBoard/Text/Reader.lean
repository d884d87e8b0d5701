import TaskBoard.Text.Numeral

/-!
# Readers

A reader takes a value from the start of a text and leaves the rest, or finds that no value is
there.
-/

namespace TaskBoard.Text

abbrev Reader (α : Type) := List Char → Option (α × List Char)

def mark? (c : Char) (s : List Char) : Option (List Char) :=
  match s with
  | d :: rest => if d = c then some rest else none
  | [] => none

def after? (start s : List Char) : Option (List Char) :=
  if start.isPrefixOf s then some (s.drop start.length) else none

def isHexDigit (c : Char) : Bool :=
  isDigit c || ('a' ≤ c && c ≤ 'f') || ('A' ≤ c && c ≤ 'F')

def hexDigitValue (c : Char) : Nat := (hexValue? c.val.toUInt8).getD 0

/-- The value of digits in a base. -/
def valueIn (base : Nat) (digits : List Char) : Nat :=
  digits.foldl (fun n c => base * n + hexDigitValue c) 0

def charOf? (n : Nat) : Option Char :=
  if n < 0xD800 || (0xDFFF < n && n < 0x110000) then some (Char.ofNat n) else none

def hexCode (width : Nat) : Reader Nat := fun s =>
  let digits := s.take width
  if digits.length = width && digits.all isHexDigit then some (valueIn 16 digits, s.drop width)
  else none

/-- The character with the code that `width` hexadecimal digits give. -/
def hexChar (width : Nat) : Reader Char := fun s => do
  let (n, s) ← hexCode width s
  some (← charOf? n, s)

end TaskBoard.Text
