import TaskBoard.Config.Value
import TaskBoard.Text.Blank
import TaskBoard.Text.Position
import TaskBoard.Text.Reader

/-!
# Configuration in INI

Sections of keys with values, which are all texts. A later section takes the place of an earlier one
with its name.
-/

namespace TaskBoard.Config.Ini

open Text

inductive Stop where
  | sign
  | bracket
  | quote (c : Char)
  | lineEnd
deriving DecidableEq, Repr

def Stop.holds : Stop → Char → Bool
  | sign, c => c = '=' || c = ':'
  | bracket, c => c = ']'
  | quote q, c => c = q
  | lineEnd, c => c = '\n' || c = '\r'

def Stop.text : Stop → String
  | sign => "[Some('='), Some(':')]"
  | bracket => "[Some(']')]"
  | quote c => if c = '"' then "[Some('\"')]" else "[Some('\\'')]"
  | lineEnd => "[Some('\\n'), Some('\\r'), None]"

inductive Flaw where
  | noKey
  | lateComment
  | unended (stop : Stop)
  | badCode
deriving DecidableEq, Repr

def Flaw.message : Flaw → String
  | noKey => "missing key"
  | lateComment => "doesn't support inline comment"
  | unended stop => "expecting \"" ++ stop.text ++ "\" but found EOF."
  | badCode => "unknown character in \\xHH form"

/-- A flaw, and how many characters there are from where it shows on. -/
structure Spot where
  flaw : Flaw
  after : Nat
deriving DecidableEq, Repr

def flawAt {α : Type} (flaw : Flaw) (s : List Char) : Except Spot α := .error ⟨flaw, s.length⟩

def Spot.position (text : List Char) (spot : Spot) : Position :=
  let place := Position.after (· = '\n') (text.take (text.length + 1 - spot.after))
  { place with column := place.column + 1 }

/-- A reader of the characters before it, or the first flaw. -/
abbrev Reading (α : Type) := List Char → Except Spot (α × List Char)

/-! ## Texts -/

def codeChar (stop : Stop) : Reading Char := fun s =>
  if s.length < 4 then flawAt (.unended stop) []
  else match hexChar 4 s with
    | some done => .ok done
    | none => flawAt .badCode (s.drop 3)

/-- The character that an escape stands for, from after the backslash on. One that stands for none
stands for itself. -/
def escape (stop : Stop) : Reading Char
  | '0' :: s => .ok ('\x00', s)
  | 'a' :: s => .ok ('\x07', s)
  | 'b' :: s => .ok ('\x08', s)
  | 't' :: s => .ok ('\t', s)
  | 'r' :: s => .ok ('\r', s)
  | 'n' :: s => .ok ('\n', s)
  | 'x' :: s => codeChar stop s
  | c :: s => .ok (c, s)
  | [] => flawAt (.unended stop) []

/-- The text up to what ends it, onto a text that is held in reverse. The end of the document ends a
line. A backslash before a line end takes the line end away. -/
def upToLoop (stop : Stop) : Nat → List Char → Reading (List Char)
  | 0, done, s => .ok (done.reverse, s)
  | _, done, [] => if stop = .lineEnd then .ok (done.reverse, []) else flawAt (.unended stop) []
  | fuel + 1, done, c :: s =>
    if stop.holds c then .ok (done.reverse, c :: s)
    else if c != '\\' then upToLoop stop fuel (c :: done) s
    else match s with
      | '\n' :: s => upToLoop stop fuel done s
      | s => do
        let (c, s) ← escape stop s
        upToLoop stop fuel (c :: done) s

def upTo (stop : Stop) : Reading (List Char) := fun s => upToLoop stop (s.length + 1) [] s

/-- A value up to the end of its line. A part in quotes keeps its blanks and its line ends. -/
def valueLoop : Nat → Bool → List Char → Reading (List Char)
  | 0, _, done, s => .ok (done, s)
  | _, _, done, [] => .ok (done, [])
  | fuel + 1, isFirst, done, c :: s =>
    if c = '"' || c = '\'' then do
      let (part, s) ← upTo (.quote c) s
      valueLoop fuel false (done ++ part) (s.drop 1)
    else do
      let (part, s) ← upTo .lineEnd (c :: s)
      .ok (done ++ (if isFirst then trim part else trimEnd isBlank part), s)

def value : Reading (List Char) := fun s =>
  let s := s.dropWhile fun c => isBlank c && !Stop.lineEnd.holds c
  valueLoop (s.length + 1) true [] s

/-! ## Sections -/

/-- A section with its keys. Keys may stand before the first section. -/
structure Section where
  name : Option Name
  entries : Table

def addEntry (sections : List Section) (key v : List Char) : List Section :=
  match sections.getLast? with
  | none => [⟨none, [(key, .text v)]⟩]
  | some last => sections.dropLast ++ [{ last with entries := putNamed last.entries key (.text v) }]

/-- Reads comments, sections, keys and values. A comment starts at the start of a line. A key, which
is empty while there is none, waits for its value. -/
def sectionsLoop : Nat → Bool → List Char → List Section → List Char → Except Spot (List Section)
  | 0, _, _, done, _ => .ok done
  | fuel + 1, isLineStart, key, done, s =>
    let isLineStart := match (s.takeWhile isBlank).getLast? with
      | some c => c == '\n'
      | none => isLineStart
    match s.dropWhile isBlank with
    | [] => .ok done
    | c :: s =>
      if c = ';' || c = '#' then
        if isLineStart then sectionsLoop fuel true key done ((s.dropWhile (· != '\n')).drop 1)
        else flawAt .lateComment (c :: s)
      else if c = '[' then do
        let (name, s) ← upTo .bracket s
        sectionsLoop fuel false key (done ++ [⟨some (trim name), []⟩]) (s.drop 1)
      else if c = '=' || c = ':' then
        if key.isEmpty then flawAt .noKey (c :: s)
        else do
          let (v, s) ← value s
          sectionsLoop fuel false [] (addEntry done key v) s
      else do
        let (name, s) ← upTo .sign (c :: s)
        sectionsLoop fuel false (trim name) done s

def addSection (t : Table) (part : Section) : Table :=
  match part.name with
  | some name => putNamed t name (.table part.entries)
  | none => part.entries.foldl (fun t (key, v) => putNamed t key v) t

def parse (s : List Char) : Except Spot Table := do
  let sections ← sectionsLoop (s.length + 1) true [] [] s
  return sections.foldl addSection []

end TaskBoard.Config.Ini
