/-!
# Numerals

Reading whole numbers from decimal and hexadecimal digits. Only the ASCII digits count.
-/

namespace TaskBoard.Text

def isDigit (c : Char) : Bool := '0' ≤ c && c ≤ '9'

def digitValue (c : Char) : Nat := c.toNat - '0'.toNat

/-- The value of a list of decimal digits, with nothing else in it. -/
def digits? (s : List Char) : Option Nat :=
  if s.all isDigit && !s.isEmpty then some (s.foldl (fun n c => 10 * n + digitValue c) 0) else none

/-- A number without a minus sign: digits, with one `+` before them or not, and at most `max`. -/
def unsigned? (max : Nat) (s : List Char) : Option Nat :=
  let body := match s with
    | '+' :: rest => rest
    | _ => s
  match digits? body with
  | some n => if n ≤ max then some n else none
  | none => none

/-- A number with or without a sign, between `min` and `max`. -/
def signed? (min max : Int) (s : List Char) : Option Int :=
  let value := match s with
    | '-' :: rest => (digits? rest).map fun n => -(n : Int)
    | '+' :: rest => (digits? rest).map fun n => (n : Int)
    | _ => (digits? s).map fun n => (n : Int)
  match value with
  | some n => if min ≤ n ∧ n ≤ max then some n else none
  | none => none

def decimal (n : Nat) : List Char := Nat.toDigits 10 n

/-- The decimal digits of `n`, with zeros before them up to `width` digits. -/
def padded (width n : Nat) : List Char :=
  List.replicate (width - (decimal n).length) '0' ++ decimal n

/-- Digits without the zeros at their end. -/
def trimZeros (s : List Char) : List Char := (s.reverse.dropWhile (· = '0')).reverse

def hexValue? (b : UInt8) : Option Nat :=
  let n := b.toNat
  if 48 ≤ n ∧ n ≤ 57 then some (n - 48)
  else if 65 ≤ n ∧ n ≤ 70 then some (n - 55)
  else if 97 ≤ n ∧ n ≤ 102 then some (n - 87)
  else none

def hexDigit (n : Nat) : Char := Char.ofNat (if n < 10 then 48 + n else 87 + n)

def twoTo (n : Nat) : Nat := Nat.pow 2 n
def tenTo (n : Nat) : Nat := Nat.pow 10 n

def maxU16 : Nat := 65535
def maxU32 : Nat := 4294967295
def maxU64 : Nat := 18446744073709551615
def maxI64 : Int := 9223372036854775807
def minI64 : Int := -9223372036854775808

end TaskBoard.Text
