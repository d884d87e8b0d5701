import TaskBoard.Text.Position
import TaskBoard.Toml.Document

/-!
# Flaws of TOML documents

What is wrong with the first line that cannot be read, where that is easily told: a key, a sign, a
quote or a bracket that is missing, what is too much, or what is there twice.
-/

namespace TaskBoard.Toml

open Text

inductive Flaw where
  | emptyKey
  | badKey
  | noSign
  | noQuotes
  | openBasic
  | openLiteral
  | openList
  | openEntries
  | openHeader
  | openListHeader (marks : String)
  | extra
  | twice
deriving DecidableEq, Repr

namespace Flaw

def keyChars : String := "letters, numbers, \x60-\x60, \x60_\x60"

def message : Flaw → String
  | emptyKey => "unquoted keys cannot be empty, expected " ++ keyChars
  | badKey => "invalid unquoted key, expected " ++ keyChars
  | noSign => "key with no value, expected \x60=\x60"
  | noQuotes => "string values must be quoted, expected literal string"
  | openBasic => "invalid basic string, expected \x60\"\x60"
  | openLiteral => "invalid literal string, expected \x60'\x60"
  | openList => "unclosed array, expected \x60]\x60"
  | openEntries => "unclosed inline table, expected \x60\x7d\x60"
  | openHeader => "unclosed table, expected \x60]\x60"
  | openListHeader marks => "unclosed array table, expected \x60" ++ marks ++ "\x60"
  | extra => "unexpected key or value, expected newline, \x60#\x60"
  | twice => "duplicate key"

end Flaw

/-- A flaw, the characters that show it, and how many there are from the first of them on. -/
structure Spot where
  flaw : Flaw
  shown : List Char
  after : Nat
deriving DecidableEq, Repr

def spot (flaw : Flaw) (shown s : List Char) : Spot := ⟨flaw, shown, s.length⟩

/-! ## Keys -/

def isAtomChar (c : Char) : Bool := !".=,[]\x7b\x7d#\"' \t\r\n".toList.contains c

def restOfLine (s : List Char) : List Char := s.dropWhile (!isLineEnd ·)

def checkName (s : List Char) : Except (Option Spot) (List Char) :=
  match s with
  | '"' :: _ | '\'' :: _ =>
    match lineString? s with
    | some (_, rest) => .ok rest
    | none => .error none
  | s =>
    let atom := s.takeWhile isAtomChar
    let bad := s.dropWhile isBareKeyChar
    if atom.isEmpty then .error (some (spot .emptyKey [] s))
    else if atom.all isBareKeyChar then .ok (s.dropWhile isAtomChar)
    else .error (some (spot .badKey [] bad))

/-- The flaw of a key, or what follows it and the last name in it. -/
def checkKey : Nat → List Char → Except (Option Spot) (List Char × Spot)
  | 0, _ => .error none
  | fuel + 1, s => do
    let s := skipSpaces s
    let rest ← checkName s
    match skipSpaces rest with
    | '.' :: rest => checkKey fuel rest
    | _ => .ok (rest, spot .twice (s.take (s.length - rest.length)) s)

/-! ## Values -/

/-- The bracket that is still open where a value breaks off at the end of the text, if there is one:
the last one that has been opened. Within a string there are none. -/
def openBracket : Nat → List Char → List Char → Option Char
  | 0, _, _ => none
  | _, opened, [] => opened.head?
  | fuel + 1, opened, c :: s =>
    if c = '"' || c = '\'' then
      (string? (c :: s)).bind fun (_, rest) => openBracket fuel opened rest
    else if c = '#' then openBracket fuel opened (restOfLine s)
    else if c = '[' || c = '\x7b' then openBracket fuel (c :: opened) s
    else if c = ']' || c = '\x7d' then
      let opening := if c = ']' then '[' else '\x7b'
      if opened.length ≤ 1 || opened.head? != some opening then none
      else openBracket fuel opened.tail s
    else openBracket fuel opened s

/-- Whether a scalar would be taken for a number, a truth value or a date. -/
def startsScalar (c : Char) : Bool := isDigit c || "+-._tTfFiInN".toList.contains c

def valueFlaw? (s : List Char) : Option Spot :=
  let ended (q : Char) := ((s.drop 1).takeWhile (!isLineEnd ·)).contains q
  match s with
  | '"' :: _ => if ended '"' then none else some (spot .openBasic [] (restOfLine s))
  | '\'' :: _ => if ended '\'' then none else some (spot .openLiteral [] (restOfLine s))
  | [] => some (spot .noQuotes [] s)
  | c :: _ =>
    if isLineEnd c || c = '#' then some (spot .noQuotes [] s)
    else if c = '[' || c = '\x7b' then
      (openBracket (s.length + 1) [] s).map fun c =>
        spot (if c = '[' then .openList else .openEntries) [] []
    else
      let atom := s.takeWhile fun c => isAtomChar c || c = '.'
      if startsScalar c || atom.isEmpty then none else some (spot .noQuotes atom s)

/-! ## Lines -/

def endFlaw? (s : List Char) : Option Spot :=
  let s := skipSpaces s
  if s.head?.any fun c => isLineEnd c || c = '#' then none else some (spot .extra [] s)

def headerFlaw? (isList : Bool) (s : List Char) : Option Spot :=
  match checkKey (s.length + 1) s with
  | .error flaw => flaw
  | .ok (rest, last) =>
    match isList, skipSpaces rest with
    | false, ']' :: rest => (endFlaw? rest).orElse fun _ => some last
    | true, ']' :: ']' :: rest => (endFlaw? rest).orElse fun _ => some last
    | true, ']' :: rest => some (spot (.openListHeader "]") [] rest)
    | false, _ => some (spot .openHeader [] rest)
    | true, _ => some (spot (.openListHeader "]]") [] rest)

/-- The flaw of a line, from its first character that is not blank on. -/
def lineFlaw? (s : List Char) : Option Spot :=
  match s with
  | '[' :: '[' :: s => headerFlaw? true s
  | '[' :: s => headerFlaw? false s
  | s =>
    if s.head?.any fun c => ",]\x7b\x7d.".toList.contains c then none
    else match checkKey (s.length + 1) s with
      | .error flaw => flaw
      | .ok (rest, last) =>
        match skipSpaces rest with
        | '=' :: rest =>
          let s := skipSpaces rest
          match value (2 * s.length + 2) maxDepth s with
          | some (_, rest) => (endFlaw? rest).orElse fun _ => some last
          | none => valueFlaw? s
        | rest => some (spot .noSign [] rest)

def linesFlaw? : Nat → Progress → List Char → Option Spot
  | 0, _, _ => none
  | fuel + 1, draft, s => do
    let s ← skipGap s
    match line draft s with
    | some (draft, rest) =>
      match endLine rest with
      | some rest => linesFlaw? fuel draft rest
      | none => endFlaw? rest
    | none => lineFlaw? s

def flaw? (s : List Char) : Option Spot := linesFlaw? (s.length + 1) {} s

/-! ## Messages -/

/-- The line and the column of a flaw. What is wrong at the end of a text is shown after its last
character. -/
def Spot.position (text : List Char) (p : Spot) : Position :=
  let index := text.length - p.after
  let last := min index (text.length - 1)
  let place := Position.after (· = '\n') (text.take last)
  { place with column := place.column + 1 + (index - last) }

/-- The message, with the line and marks below what shows the flaw. -/
def Spot.message (text : List Char) (p : Spot) : List Char :=
  let ⟨line, column⟩ := p.position text
  let content := (splitAll '\n' text).getD (line - 1) []
  let number := decimal line
  let margin := List.replicate (number.length + 1) ' ' ++ ['|']
  let width := min (Utf8.encode p.shown).length ((Utf8.encode content).length - (column - 1))
  let title := "TOML parse error at line ".toList ++ number ++ ", column ".toList ++ decimal column
  ['\n'].intercalate [title, margin, number ++ " | ".toList ++ content,
    margin ++ List.replicate column ' ' ++ List.replicate (max 1 width) '^',
    p.flaw.message.toList, []]

end TaskBoard.Toml
