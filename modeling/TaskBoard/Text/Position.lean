/-!
# Positions

Where something stands in a text: in which line, and how far into it.
-/

namespace TaskBoard.Text

/-- A line and a column. Lines are counted from one. -/
structure Position where
  line : Nat
  column : Nat
deriving DecidableEq, Repr

/-- The position after a text: the column is how much of the text is on its last line. -/
def Position.after {α : Type} (isLineEnd : α → Bool) (s : List α) : Position :=
  ⟨s.countP isLineEnd + 1, (s.reverse.takeWhile (!isLineEnd ·)).length⟩

end TaskBoard.Text
