import TaskBoard.Config.Value
import TaskBoard.Text.Blank

/-!
# Places

A place leads from a value to one within it, by names and by positions: `server.ports[0]`.
-/

namespace TaskBoard.Config

open Text

inductive Step where
  | name (n : Name)
  /-- A position in a list. A negative one is counted from the end. -/
  | position (i : Int)
deriving DecidableEq, Repr

abbrev Place := List Step

namespace Place

def isNameChar (c : Char) : Bool :=
  ('a' ≤ c && c ≤ 'z') || ('A' ≤ c && c ≤ 'Z') || isDigit c || c = '_' || c = '-'

def isSpace (c : Char) : Bool := c = ' ' || c = '\t'

/-- A position between brackets, with blanks around it or not. -/
def position? (s : List Char) : Option Int :=
  let digits := trimBy isSpace s
  if digits.head? = some '+' then none else signed? minI64 maxI64 digits

def name? (s : List Char) : Option (Name × List Char) :=
  let name := s.takeWhile isNameChar
  if name.isEmpty then none else some (name, s.dropWhile isNameChar)

def stepsLoop : Nat → List Char → Option Place
  | _, [] => some []
  | 0, _ => none
  | fuel + 1, c :: s =>
    if c = '.' then do
      let (name, s) ← name? s
      some (.name name :: (← stepsLoop fuel s))
    else if c = '[' then do
      let (inside, s) ← splitFirst? ']' s
      some (.position (← position? inside) :: (← stepsLoop fuel s))
    else none

def parse? (s : List Char) : Option Place := do
  let (name, s) ← name? s
  some (.name name :: (← stepsLoop s.length s))

/-- The place that a text names. A text that names none is a name itself. -/
def ofText (s : List Char) : Place := (parse? s).getD [.name s]

end Place

end TaskBoard.Config
