import TaskBoard.Text.Numeral

/-!
# Log levels

How grave a record is, and from which level on records are kept.
-/

namespace TaskBoard.Log

inductive Level where
  | error
  | warn
  | info
  | debug
  | trace
deriving DecidableEq, Repr

namespace Level

def name : Level → String
  | error => "ERROR"
  | warn => "WARN"
  | info => "INFO"
  | debug => "DEBUG"
  | trace => "TRACE"

def rank : Level → Nat
  | error => 1
  | warn => 2
  | info => 3
  | debug => 4
  | trace => 5

def all : List Level := [error, warn, info, debug, trace]

end Level

structure Threshold where
  level : Option Level
deriving DecidableEq, Repr

namespace Threshold

def off : Threshold := ⟨none⟩

def rank (t : Threshold) : Nat := (t.level.map Level.rank).getD 0

def keeps (t : Threshold) (level : Level) : Bool := level.rank ≤ t.rank

def all : List Threshold := off :: Level.all.map fun level => ⟨some level⟩

def name (t : Threshold) : String := (t.level.map (·.name.toLower)).getD "off"

def parse? (s : List Char) : Option Threshold :=
  match Text.unsigned? Text.maxU64 s with
  | some n => all.find? (·.rank = n)
  | none => all.find? (·.name.toList = s.map Char.toLower)

end Threshold

end TaskBoard.Log
