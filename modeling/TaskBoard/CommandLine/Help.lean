import TaskBoard.Text.Split
import TaskBoard.Text.Terminal

/-!
# Help pages

A page says what a command is for, how it is used, and what each of its words and flags means. The
explanations stand in a column beside the words, or below them where the column would be too narrow.
-/

namespace TaskBoard.CommandLine

open Text

abbrev Line := List Char

/-- A word or a flag with what it means, and remarks on its value. -/
structure Term where
  label : String
  about : String
  remarks : List Line := []
deriving DecidableEq, Repr

structure Section where
  title : String
  terms : List Term
deriving DecidableEq, Repr

structure Page where
  about : String
  usage : String
  sections : List Section
deriving DecidableEq, Repr

def pageWidth : Nat := 100

def blanks (n : Nat) : Line := List.replicate n ' '

namespace Term

def text (t : Term) : Line := [' '].intercalate (t.about.toList :: t.remarks)

/-- The explanation in a column beside the words, which is `column` characters from the left. -/
def beside (column : Nat) (t : Term) : List Line :=
  match splitAll '\n' t.text with
  | [] => [t.label.toList]
  | line :: lines =>
    (t.label.toList ++ blanks (column - t.label.length) ++ line) :: lines.map (blanks column ++ ·)

/-- How far an explanation below its word is from the left. -/
def indent : Nat := 10

def below (t : Term) : List Line :=
  t.label.toList :: (splitAll '\n' t.text).map (blanks indent ++ ·)

end Term

namespace Section

def longest (s : Section) : Nat := (s.terms.map (·.label.length)).foldl max 0

/-- Whether the words take so much of the page that an explanation does not fit beside them. -/
def isWide (s : Section) : Bool :=
  let taken := s.longest + 6
  taken * 100 > pageWidth * 40 && s.terms.any (·.text.length > pageWidth - taken)

def lines (s : Section) : List Line :=
  (s.title.toList ++ [':']) ::
    s.terms.flatMap (if s.isWide then Term.below else Term.beside (s.longest + 2))

end Section

/-- The lines of a page. What would control a terminal is left out. -/
def Page.lines (p : Page) : List Line :=
  let lines := [p.about.toList, [], "Usage: ".toList ++ p.usage.toList] ++
    p.sections.flatMap fun s => [] :: s.lines
  splitAll '\n' (Terminal.plain (['\n'].intercalate lines))

end TaskBoard.CommandLine
