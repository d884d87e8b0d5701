import TaskBoard.Text.Numeral

/-!
# Durations

A duration is a number of nanoseconds. Its text is in the largest of the units s, ms, µs and ns
that it fills at least once, with a fraction where it needs one.
-/

namespace TaskBoard.Time

/-- A length of time in nanoseconds. -/
abbrev Duration := Nat

/-- A point on the clock that only moves forward, in nanoseconds from its start. -/
abbrev Instant := Nat

namespace Duration

def nanosPerMicro : Nat := 1000
def nanosPerMilli : Nat := 1000000
def nanosPerSecond : Nat := 1000000000

def ofSeconds (n : Nat) : Duration := n * nanosPerSecond
def ofMillis (n : Nat) : Duration := n * nanosPerMilli

def wholeSeconds (d : Duration) : Nat := d / nanosPerSecond
def wholeMillis (d : Duration) : Nat := d / nanosPerMilli

/-- The digits of `rest / 10 ^ width` after the point, without zeros at the end; none for zero. -/
def fraction (width rest : Nat) : List Char :=
  match Text.trimZeros (Text.padded width rest) with
  | [] => []
  | digits => '.' :: digits

def inUnit (width : Nat) (unit : String) (d : Duration) : String :=
  let whole := Text.tenTo width
  String.ofList (Text.decimal (d / whole) ++ fraction width (d % whole)) ++ unit

def text (d : Duration) : String :=
  if d ≥ nanosPerSecond then inUnit 9 "s" d
  else if d ≥ nanosPerMilli then inUnit 6 "ms" d
  else if d ≥ nanosPerMicro then inUnit 3 "µs" d
  else inUnit 0 "ns" d

end Duration

end TaskBoard.Time
