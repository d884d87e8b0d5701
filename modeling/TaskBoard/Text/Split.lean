/-!
# Splitting

A list cut at every occurrence of a separator, and cut once at the first.
-/

namespace TaskBoard.Text

variable {α : Type} [DecidableEq α]

/-- The pieces between the separators, from first to last: one more than there are separators. -/
def splitAll (sep : α) : List α → List (List α)
  | [] => [[]]
  | c :: s =>
    if c = sep then [] :: splitAll sep s
    else match splitAll sep s with
      | [] => [[c]]
      | piece :: pieces => (c :: piece) :: pieces

/-- The parts before and after the first separator, if there is one. -/
def splitFirst? (sep : α) : List α → Option (List α × List α)
  | [] => none
  | c :: s => if c = sep then some ([], s) else (splitFirst? sep s).map fun (a, b) => (c :: a, b)

end TaskBoard.Text
