import TaskBoard.Text.Numeral
import TaskBoard.Text.Utf8

/-!
# Moments

Dates and times of day with an offset from UTC, in the format of RFC 3339. Two moments are compared
by the instant that they name, and keep the offset that they were given.
-/

namespace TaskBoard.Time

def isLeapYear (year : Int) : Bool := year % 4 = 0 && (year % 100 ≠ 0 || year % 400 = 0)

def daysInMonth (year : Int) (month : Nat) : Nat :=
  if month = 2 then (if isLeapYear year then 29 else 28)
  else if month = 4 || month = 6 || month = 9 || month = 11 then 30
  else 31

/-- The days before a year, counted from the first day of the year 0, which is a leap year. -/
def daysBeforeYear (year : Int) : Int :=
  365 * year + (year - 1) / 4 - (year - 1) / 100 + (year - 1) / 400 + 1

def daysBeforeMonth (year : Int) (month : Nat) : Nat :=
  ((List.range (month - 1)).map fun i => daysInMonth year (i + 1)).foldr (· + ·) 0

structure Moment where
  year : Nat
  month : Nat
  day : Nat
  hour : Nat
  minute : Nat
  second : Nat
  nano : Nat
  /-- Minutes east of UTC. -/
  offset : Int
deriving DecidableEq, Repr

namespace Moment

/-- Minutes from the start of the year 0 in UTC. -/
def utcMinutes (m : Moment) : Int :=
  let days := daysBeforeYear m.year + daysBeforeMonth m.year m.month + (m.day - 1 : Int)
  (days * 24 + m.hour) * 60 + m.minute - m.offset

/-- The instant of a moment: nanoseconds from the start of the year 0 in UTC. -/
def instant (m : Moment) : Int := (m.utcMinutes * 60 + m.second) * 1000000000 + m.nano

def isBefore (a b : Moment) : Bool := a.instant < b.instant

/-- Whether the minute of a moment is the last one of a month in UTC: the next minute is the first
one of a day, and that day is the first one of a month. -/
def endsMonthInUtc (m : Moment) : Bool :=
  let next := m.utcMinutes + 1
  let firstDay (year : Int) (month : Nat) : Int := daysBeforeYear year + daysBeforeMonth year month
  next % 1440 = 0 && [-1, 0, 1].any fun (years : Int) =>
    (List.range 12).any fun i => firstDay (m.year + years) (i + 1) = next / 1440

/-- The moment in UTC so many seconds and nanoseconds after the start of 1970. Days count in years
from March to February, so that a leap day is the last day of its year. -/
def ofUnix (seconds nanos : Nat) : Moment :=
  let days := seconds / 86400 + 719468
  let day := days % 146097
  let year := (day - day / 1460 + day / 36524 - day / 146096) / 365
  let dayOfYear := day - (365 * year + year / 4 - year / 100)
  let month := (5 * dayOfYear + 2) / 153
  let isLate := 10 ≤ month
  let ofDay := seconds % 86400
  { year := days / 146097 * 400 + year + (if isLate then 1 else 0)
    month := if isLate then month - 9 else month + 3
    day := dayOfYear - (153 * month + 2) / 5 + 1
    hour := ofDay / 3600
    minute := ofDay / 60 % 60
    second := ofDay % 60
    nano := nanos
    offset := 0 }

/-! ## Reading -/

def digits (n : Nat) (s : Bytes) : Option (Nat × Bytes) :=
  let ds := (s.take n).map fun b => Char.ofNat b.toNat
  if ds.length = n then (Text.digits? ds).map fun v => (v, s.drop n) else none

def literal (c : Char) : Bytes → Option Bytes
  | b :: s => if b.toNat = c.toNat then some s else none
  | [] => none

def isDigit (b : UInt8) : Bool := 48 ≤ b && b ≤ 57

/-- The nanoseconds after a point, if there is one. Digits past the ninth do not count. -/
def nanos (s : Bytes) : Option (Nat × Bytes) :=
  match literal '.' s with
  | none => some (0, s)
  | some s =>
    let ds := s.takeWhile isDigit
    if ds.isEmpty then none
    else
      let given := (ds.take 9).map fun b => Char.ofNat b.toNat
      let nine := given ++ List.replicate (9 - ds.length) '0'
      (Text.digits? nine).map fun v => (v, s.dropWhile isDigit)

def zone : Bytes → Option (Int × Bytes)
  | b :: s =>
    if b = 90 || b = 122 then some (0, s)
    else if b = 43 || b = 45 then do
      let (hours, s) ← digits 2 s
      let s ← literal ':' s
      let (minutes, s) ← digits 2 s
      if hours ≤ 23 ∧ minutes ≤ 59 then
        let n : Int := hours * 60 + minutes
        some (if b = 45 then -n else n, s)
      else none
    else none
  | [] => none

/-- Whether the fields name a day of the calendar and a time of day without a leap second. -/
def isValid (m : Moment) : Bool :=
  1 ≤ m.month && m.month ≤ 12 && 1 ≤ m.day && m.day ≤ daysInMonth m.year m.month &&
    m.hour ≤ 23 && m.minute ≤ 59 && m.second ≤ 59

/-- A leap second stands for the last nanosecond of the second before it, and is only allowed as
the last second of a month in UTC. -/
def settle (m : Moment) : Option Moment :=
  if m.second = 60 then
    let m := { m with second := 59, nano := 999999999 }
    if m.isValid && m.endsMonthInUtc then some m else none
  else if m.isValid then some m
  else none

/-- Reads a whole text as a moment. Any one byte may stand between the date and the time. -/
def read? (s : Bytes) : Option Moment := do
  let (year, s) ← digits 4 s
  let s ← literal '-' s
  let (month, s) ← digits 2 s
  let s ← literal '-' s
  let (day, s) ← digits 2 s
  if s.isEmpty then none
  let s := s.drop 1
  let (hour, s) ← digits 2 s
  let s ← literal ':' s
  let (minute, s) ← digits 2 s
  let s ← literal ':' s
  let (second, s) ← digits 2 s
  let (nano, s) ← nanos s
  let (offset, s) ← zone s
  if s.isEmpty then settle ⟨year, month, day, hour, minute, second, nano, offset⟩ else none

def parse? (s : List Char) : Option Moment := read? (Text.Utf8.encode s)

/-! ## Writing -/

def two (n : Nat) : List Char := Text.padded 2 n

def nanosText (n : Nat) : List Char :=
  if n = 0 then [] else '.' :: Text.trimZeros (Text.padded 9 n)

def zoneText (offset : Int) : List Char :=
  if offset = 0 then ['Z']
  else
    let n := offset.natAbs
    (if offset < 0 then '-' else '+') :: two (n / 60) ++ ':' :: two (n % 60)

/-- The date and the time of day up to the second. -/
def secondText (m : Moment) : List Char :=
  Text.padded 4 m.year ++ '-' :: two m.month ++ '-' :: two m.day ++ 'T' :: two m.hour ++
    ':' :: two m.minute ++ ':' :: two m.second

def text (m : Moment) : List Char := m.secondText ++ nanosText m.nano ++ zoneText m.offset

/-- The text with all digits of the microseconds, as log records have it. -/
def microText (m : Moment) : List Char :=
  m.secondText ++ '.' :: Text.padded 6 (m.nano / 1000) ++ zoneText m.offset

end Moment

end TaskBoard.Time
