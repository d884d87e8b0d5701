import TaskBoard.Config.Value
import TaskBoard.Time.Moment
import TaskBoard.Toml.Text

/-!
# Scalars in TOML

Truth values, numbers, dates and times: the values that are written without quotes.
-/

namespace TaskBoard.Toml

open Text Config

/-- Digits of a kind, without underscores. An underscore stands between two digits. -/
def digitRun? (isDigit : Char → Bool) (s : List Char) : Option (List Char) :=
  let parts := splitAll '_' s
  if parts.all fun part => !part.isEmpty && part.all isDigit then some parts.flatten else none

def whole? (n : Int) : Option Value :=
  if minI64 ≤ n ∧ n ≤ maxI64 then some (.whole n) else none

def isOctalDigit (c : Char) : Bool := '0' ≤ c && c ≤ '7'

def isBinaryDigit (c : Char) : Bool := c = '0' || c = '1'

def based (base : Nat) (isDigit : Char → Bool) (s : List Char) : Option Value := do
  let digits ← digitRun? isDigit s
  whole? (valueIn base digits)

/-- Decimal digits as they stand before a point: no zero before other digits. -/
def wholeDigits? (s : List Char) : Option (List Char) := do
  let digits ← digitRun? isDigit s
  if digits.length > 1 && digits.head? = some '0' then none else some digits

def splitSign (s : List Char) : Bool × List Char :=
  match s with
  | '-' :: s => (true, s)
  | '+' :: s => (false, s)
  | s => (false, s)

def negated (negative : Bool) (n : Nat) : Int := if negative then -(n : Int) else n

def exponent? (s : List Char) : Option Int :=
  let (negative, s) := splitSign s
  (digitRun? isDigit s).map fun digits => negated negative (valueIn 10 digits)

/-- A decimal number: a whole one, or one with a point or an exponent. -/
def decimalNumber? (s : List Char) : Option Value := do
  let (negative, s) := splitSign s
  let (mantissa, exponent) := match splitFirst? 'e' (s.map fun c => if c = 'E' then 'e' else c) with
    | some (mantissa, exponent) => (mantissa, some exponent)
    | none => (s, none)
  let (before, after) := match splitFirst? '.' mantissa with
    | some (before, after) => (before, some after)
    | none => (mantissa, none)
  let digits ← wholeDigits? before
  if after.isNone && exponent.isNone then whole? (negated negative (valueIn 10 digits))
  else
    let places ← match after with
      | some after => digitRun? isDigit after
      | none => some []
    let power ← match exponent with
      | some exponent => exponent? exponent
      | none => some 0
    match Binary64.ofDecimal negative (valueIn 10 (digits ++ places)) (power - places.length) with
    | .finite negative m e => some (.real (.finite negative m e))
    | .infinite _ | .nan => none

/-! ## Dates and times -/

/-- As many decimal digits as `width`, with a value up to `max`. -/
def field? (width max : Nat) (s : List Char) : Option (Nat × List Char) :=
  let digits := s.take width
  if digits.length = width && digits.all isDigit && valueIn 10 digits ≤ max then
    some (valueIn 10 digits, s.drop width)
  else none

def date? (s : List Char) : Option (List Char × List Char) := do
  let (year, s) ← field? 4 9999 s
  let s ← mark? '-' s
  let (month, s) ← field? 2 12 s
  let s ← mark? '-' s
  let (day, s) ← field? 2 31 s
  if month = 0 || day = 0 || day > Time.daysInMonth year month then none
  else some (padded 4 year ++ '-' :: padded 2 month ++ '-' :: padded 2 day, s)

/-- A fraction without zeros at its end. One digit is left. -/
def fraction (digits : List Char) : List Char :=
  match trimZeros (digits.take 9) with
  | [] => ['0']
  | digits => digits

/-- The seconds of a time, with a fraction if they are written with one. -/
def seconds? (s : List Char) : Option (List Char × List Char) := do
  let (second, s) ← field? 2 60 s
  match s with
  | '.' :: s =>
    let digits := s.takeWhile isDigit
    if digits.isEmpty then none
    else some (padded 2 second ++ '.' :: fraction digits, s.dropWhile isDigit)
  | s => some (padded 2 second, s)

/-- A time. Its seconds may be left out. -/
def time? (s : List Char) : Option (List Char × List Char) := do
  let (hour, s) ← field? 2 23 s
  let s ← mark? ':' s
  let (minute, s) ← field? 2 59 s
  let start := padded 2 hour ++ ':' :: padded 2 minute
  match s with
  | ':' :: s => do
    let (seconds, s) ← seconds? s
    some (start ++ ':' :: seconds, s)
  | s => some (start, s)

/-- A distance from universal time. None of zero is negative. -/
def zone? (s : List Char) : Option (List Char) :=
  match s with
  | [] => some []
  | ['Z'] => some ['Z']
  | ['z'] => some ['Z']
  | sign :: s => do
    if sign != '+' && sign != '-' then none
    let (hour, s) ← field? 2 23 s
    let s ← mark? ':' s
    let (minute, s) ← field? 2 59 s
    let sign := if hour = 0 && minute = 0 then '+' else sign
    if s.isEmpty then some (sign :: padded 2 hour ++ ':' :: padded 2 minute) else none

def moment? (s : List Char) : Option (List Char) :=
  match date? s with
  | some (date, []) => some date
  | some (date, mark :: s) => do
    if mark != 'T' && mark != 't' && mark != ' ' then none
    let (time, s) ← time? s
    let zone ← zone? s
    some (date ++ 'T' :: time ++ zone)
  | none =>
    match time? s with
    | some (time, []) => some time
    | _ => none

/-! ## All of them -/

def isScalarChar (c : Char) : Bool :=
  isBareKeyChar c || c = '+' || c = '.' || c = ':'

def scalarOf? (s : List Char) : Option Value :=
  let (negative, magnitude) := splitSign s
  if s = "true".toList then some (.truth true)
  else if s = "false".toList then some (.truth false)
  else if magnitude = "inf".toList then some (.real (.infinite negative))
  else if magnitude = "nan".toList then some (.real .nan)
  else match s with
    | '0' :: 'x' :: digits => based 16 isHexDigit digits
    | '0' :: 'o' :: digits => based 8 isOctalDigit digits
    | '0' :: 'b' :: digits => based 2 isBinaryDigit digits
    | s => match moment? s with
      | some text => some (.text text)
      | none => decimalNumber? s

/-- A scalar at the start of a text. A date and a time may have a blank between them. -/
def scalar : Reader Value := fun s =>
  let word := s.takeWhile isScalarChar
  let rest := s.dropWhile isScalarChar
  match date? word, rest with
  | some (_, []), ' ' :: c :: more =>
    if isDigit c then
      let time := (c :: more).takeWhile isScalarChar
      (scalarOf? (word ++ ' ' :: time)).map (·, (c :: more).dropWhile isScalarChar)
    else (scalarOf? word).map (·, rest)
  | _, _ => (scalarOf? word).map (·, rest)

end TaskBoard.Toml
