import TaskBoard.Text.Numeral

/-!
# Binary floating point

Numbers of the 64-bit binary format, held exactly. An operation takes the exact result and rounds it
once, to the nearest number, and to the one with the even significand where two are as near.
-/

namespace TaskBoard

open Text (twoTo tenTo)

/-- A finite number is `significand · 2 ^ exponent`. -/
inductive Binary64 where
  | nan
  | infinite (negative : Bool)
  | finite (negative : Bool) (significand : Nat) (exponent : Int)
deriving DecidableEq, Repr

namespace Binary64

def leastExponent : Int := -1074

def greatestExponent : Int := 971

def zero (negative : Bool) : Binary64 := finite negative 0 leastExponent

/-- The quotient rounded to a whole number, a half to the even one. -/
def roundHalfEven (num den : Nat) : Nat :=
  let q := num / den
  match compare (2 * (num % den)) den with
  | .lt => q
  | .gt => q + 1
  | .eq => if q % 2 = 0 then q else q + 1

/-- The greatest `k` with `2 ^ k ≤ num / den`, for a positive quotient. -/
def binaryScale (num den : Nat) : Int :=
  let k : Int := (num.log2 : Int) - den.log2
  if den * twoTo k.toNat ≤ num * twoTo (-k).toNat then k else k - 1

/-- The number nearest to `num / den`. -/
def ofRatio (negative : Bool) (num den : Nat) : Binary64 :=
  if num = 0 then zero negative
  else
    let e := max (binaryScale num den - 52) leastExponent
    let m := roundHalfEven (num * twoTo (-e).toNat) (den * twoTo e.toNat)
    let (m, e) := if m = twoTo 53 then (twoTo 52, e + 1) else (m, e)
    if e > greatestExponent then infinite negative else finite negative m e

/-- The number nearest to `digits · 10 ^ exponent`. -/
def ofDecimal (negative : Bool) (digits : Nat) (exponent : Int) : Binary64 :=
  let scale := exponent + (Text.decimal digits).length
  if digits = 0 || scale < -330 then zero negative
  else if scale > 310 then infinite negative
  else ofRatio negative (digits * tenTo exponent.toNat) (tenTo (-exponent).toNat)

def ofNat (n : Nat) : Binary64 := ofRatio false n 1

def isZero : Binary64 → Bool
  | finite _ m _ => m = 0
  | nan | infinite _ => false

def finite? : Binary64 → Option Binary64
  | finite negative m e => some (finite negative m e)
  | nan | infinite _ => none

/-! ## Arithmetic -/

def negate : Binary64 → Binary64
  | nan => nan
  | infinite negative => infinite (!negative)
  | finite negative m e => finite (!negative) m e

/-- The product. That of zero and an infinite number is no number. -/
def mul : Binary64 → Binary64 → Binary64
  | nan, _ | _, nan => nan
  | infinite a, infinite b => infinite (a != b)
  | infinite a, finite b m _ | finite b m _, infinite a => if m = 0 then nan else infinite (a != b)
  | finite a m e, finite b n f =>
    ofRatio (a != b) (m * n * twoTo (e + f).toNat) (twoTo (-(e + f)).toNat)

/-- The quotient. Those of two zeros and of two infinite numbers are no numbers. -/
def div : Binary64 → Binary64 → Binary64
  | nan, _ | _, nan => nan
  | infinite _, infinite _ => nan
  | infinite a, finite b _ _ => infinite (a != b)
  | finite a _ _, infinite b => zero (a != b)
  | finite a m e, finite b n f =>
    if n = 0 then if m = 0 then nan else infinite (a != b)
    else ofRatio (a != b) (m * twoTo (e - f).toNat) (n * twoTo (f - e).toNat)

/-- The magnitude of a finite number as a quotient. -/
def ratio (m : Nat) (e : Int) : Nat × Nat := (m * twoTo e.toNat, twoTo (-e).toNat)

/-- The whole number from zero to `max` that is nearest, a half away from zero. What is no number
counts as zero. -/
def toNat (max : Nat) : Binary64 → Nat
  | nan => 0
  | infinite negative => if negative then 0 else max
  | finite negative m e =>
    let (num, den) := ratio m e
    if negative then 0 else min ((2 * num + den) / (2 * den)) max

/-! ## The shortest decimal -/

/-- Compares `a · 10 ^ i` with `n · 2 ^ j`. -/
def compareDecimal (a : Nat) (i : Int) (n : Nat) (j : Int) : Ordering :=
  compare (a * tenTo i.toNat * twoTo (-j).toNat) (n * twoTo j.toNat * tenTo (-i).toNat)

/-- Whether the number nearest to `a · 10 ^ i` is `m · 2 ^ e`. Below a power of two the next number
is only half as far away. -/
def isNearest (m : Nat) (e : Int) (a : Nat) (i : Int) : Bool :=
  let below := if m = twoTo 52 && e > leastExponent then 1 else 2
  let low := compareDecimal a i (4 * m - below) (e - 2)
  let high := compareDecimal a i (4 * m + 2) (e - 2)
  let atEnds := m % 2 = 0
  (low = .gt || (atEnds && low = .eq)) && (high = .lt || (atEnds && high = .eq))

/-- The least `k` with `num / den < 10 ^ k`, for a positive quotient. -/
def decimalScale (num den : Nat) : Int :=
  if num ≥ den then (Text.decimal (num / den)).length
  else 1 - ((Text.decimal ((den - 1) / num)).length : Int)

/-- The decimal on the grid of `10 ^ i` that reads back as `m · 2 ^ e`, the nearer one of two, and
the greater one of two that are as near. -/
def onGrid? (m : Nat) (e i : Int) : Option Nat :=
  let (num, den) := ratio m e
  let a := num * tenTo (-i).toNat / (den * tenTo i.toNat)
  match isNearest m e a i, isNearest m e (a + 1) i with
  | true, true =>
    if compareDecimal (2 * a + 1) i (2 * m) e = .gt then some a else some (a + 1)
  | true, false => some a
  | false, true => some (a + 1)
  | false, false => none

/-- The digits and the power of ten of the shortest decimal that reads back as `m · 2 ^ e`. -/
def shortest (m : Nat) (e : Int) : List Char × Int :=
  let (num, den) := ratio m e
  let k := decimalScale num den
  let found := (List.range 17).findSome? fun n =>
    let i := k - (n + 1 : Nat)
    (onGrid? m e i).map (·, i)
  let (a, i) := found.getD (num * tenTo (17 - k).toNat / (den * tenTo (k - 17).toNat), k - 17)
  let digits := Text.trimZeros (Text.decimal a)
  (digits, i + ((Text.decimal a).length - digits.length : Nat))

/-- Digits times a power of ten, without an exponent. -/
def positional (digits : List Char) (i : Int) : List Char :=
  if 0 ≤ i then digits ++ List.replicate i.toNat '0'
  else
    let places := (-i).toNat
    if places < digits.length then
      digits.take (digits.length - places) ++ '.' :: digits.drop (digits.length - places)
    else '0' :: '.' :: List.replicate (places - digits.length) '0' ++ digits

def signed (negative : Bool) (s : List Char) : List Char := if negative then '-' :: s else s

/-- The shortest decimal, written without an exponent. -/
def text : Binary64 → List Char
  | nan => "NaN".toList
  | infinite negative => signed negative "inf".toList
  | finite negative m e =>
    if m = 0 then signed negative ['0']
    else
      let (digits, i) := shortest m e
      signed negative (positional digits i)

end Binary64

end TaskBoard
