import TaskBoard.Text.Reader

/-!
# Texts in TOML

The blanks, comments and strings of a TOML document.
-/

namespace TaskBoard.Toml

open Text

def isSpace (c : Char) : Bool := c = ' ' || c = '\t'

def skipSpaces (s : List Char) : List Char := s.dropWhile isSpace

def isControl (c : Char) : Bool := (c.toNat < 0x20 && c != '\t') || c.toNat = 0x7F

def newline? : List Char → Option (List Char)
  | '\n' :: s => some s
  | '\r' :: '\n' :: s => some s
  | _ => none

def isLineEnd (c : Char) : Bool := c = '\n' || c = '\r'

def skipComment (s : List Char) : Option (List Char) :=
  match s with
  | '#' :: rest =>
    if (rest.takeWhile (!isLineEnd ·)).any isControl then none
    else some (rest.dropWhile (!isLineEnd ·))
  | _ => some s

def skipGapLoop : Nat → List Char → Option (List Char)
  | 0, _ => none
  | fuel + 1, s => do
    let s ← skipComment (skipSpaces s)
    match newline? s with
    | some s => skipGapLoop fuel s
    | none => some s

def skipGap (s : List Char) : Option (List Char) := skipGapLoop (s.length + 1) s

/-- The text after the end of a line, with blanks and a comment before it or not. -/
def endLine (s : List Char) : Option (List Char) := do
  let s ← skipComment (skipSpaces s)
  match s with
  | [] => some []
  | s => newline? s

/-! ## Strings -/

/-- The character that an escape stands for, from after the backslash on. -/
def escape : Reader Char
  | 'b' :: s => some ('\x08', s)
  | 't' :: s => some ('\t', s)
  | 'n' :: s => some ('\n', s)
  | 'f' :: s => some ('\x0C', s)
  | 'r' :: s => some ('\r', s)
  | 'e' :: s => some ('\x1B', s)
  | '"' :: s => some ('"', s)
  | '\\' :: s => some ('\\', s)
  | 'x' :: s => hexChar 2 s
  | 'u' :: s => hexChar 4 s
  | 'U' :: s => hexChar 8 s
  | _ => none

/-- A string between double quotes, read onto a text that is held in reverse. -/
def basic : Nat → List Char → Reader (List Char)
  | 0, _, _ => none
  | _, _, [] => none
  | fuel + 1, done, c :: s =>
    if c = '"' then some (done.reverse, s)
    else if c = '\\' then do
      let (c, s) ← escape s
      basic fuel (c :: done) s
    else if isControl c then none
    else basic fuel (c :: done) s

/-- A string between single quotes. It has no escapes. -/
def literal : Reader (List Char) := fun s =>
  let body := s.takeWhile (· != '\'')
  match s.dropWhile (· != '\'') with
  | _ :: rest => if body.any isControl then none else some (body, rest)
  | [] => none

/-- The blanks and line ends after a backslash that ends a line. -/
def continuation? (s : List Char) : Option (List Char) :=
  (newline? (skipSpaces s)).map (·.dropWhile fun c => isSpace c || isLineEnd c)

/-- A string over several lines between three quotes, read onto a text that is held in reverse. Its
line ends stay as they are written. It may end in one or two quotes of its own. -/
def multiline (quote : Char) : Nat → List Char → Reader (List Char)
  | 0, _, _ => none
  | _, _, [] => none
  | fuel + 1, done, c :: s =>
    if c = quote then
      let run := (c :: s).takeWhile (· = quote)
      let rest := (c :: s).dropWhile (· = quote)
      if run.length < 3 then multiline quote fuel (run ++ done) rest
      else if run.length ≤ 5 then
        some ((List.replicate (run.length - 3) quote ++ done).reverse, rest)
      else none
    else if c = '\\' && quote = '"' then
      match continuation? s with
      | some s => multiline quote fuel done s
      | none => do
        let (c, s) ← escape s
        multiline quote fuel (c :: done) s
    else if isControl c && (newline? (c :: s)).isNone then none
    else multiline quote fuel (c :: done) s

def dropNewline (s : List Char) : List Char := (newline? s).getD s

def lineString? : List Char → Option (List Char × List Char)
  | '"' :: s => basic (s.length + 1) [] s
  | '\'' :: s => literal s
  | _ => none

def string? : List Char → Option (List Char × List Char)
  | '"' :: '"' :: '"' :: s => multiline '"' (s.length + 1) [] (dropNewline s)
  | '\'' :: '\'' :: '\'' :: s => multiline '\'' (s.length + 1) [] (dropNewline s)
  | s => lineString? s

/-! ## Keys -/

def isBareKeyChar (c : Char) : Bool :=
  ('a' ≤ c && c ≤ 'z') || ('A' ≤ c && c ≤ 'Z') || isDigit c || c = '_' || c = '-'

def simpleKey : Reader (List Char) := fun s =>
  match s with
  | '"' :: _ => lineString? s
  | '\'' :: _ => lineString? s
  | _ =>
    let name := s.takeWhile isBareKeyChar
    if name.isEmpty then none else some (name, s.dropWhile isBareKeyChar)

/-- Names with points between them, at most as many as given. Blanks may stand around each name. -/
def names : Nat → Reader (List (List Char))
  | 0, _ => none
  | most + 1, s => do
    let (name, s) ← simpleKey (skipSpaces s)
    match skipSpaces s with
    | '.' :: s => do
      let (rest, s) ← names most s
      some (name :: rest, s)
    | s => some ([name], s)

/-- How many names a key may have, and how deep the lists and tables in a value may nest. -/
def maxDepth : Nat := 80

def key : Reader (List (List Char)) := names maxDepth

end TaskBoard.Toml
