import TaskBoard.Number.Binary64
import TaskBoard.Text.Split

/-!
# Decimals

Reading numbers with a point or an exponent.
-/

namespace TaskBoard.Binary64

open Text

/-- A number with a minus sign or without, and the rest of its text. -/
def splitSign (s : List Char) : Bool × List Char :=
  match s with
  | '-' :: s => (true, s)
  | '+' :: s => (false, s)
  | s => (false, s)

def exponent? (s : List Char) : Option Int :=
  let (negative, s) := splitSign s
  (digits? s).map fun n => if negative then -(n : Int) else n

/-- Reads digits with a point among them or none, and an exponent after them or none. Digits may
lack on one side of the point. -/
def ofText? (s : List Char) : Option Binary64 := do
  let (negative, s) := splitSign s
  let (mantissa, power) ← match splitFirst? 'e' (s.map fun c => if c = 'E' then 'e' else c) with
    | some (mantissa, power) => do some (mantissa, ← exponent? power)
    | none => some (s, 0)
  let (before, after) := (splitFirst? '.' mantissa).getD (mantissa, [])
  let n ← digits? (before ++ after)
  some (ofDecimal negative n (power - after.length))

end TaskBoard.Binary64
