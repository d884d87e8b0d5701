import TaskBoard.Text.Blank
import TaskBoard.Yaml.Node

/-!
# Texts in YAML

The blanks, comments, scalars and properties of a YAML document, in which every line ends with a
line feed.
-/

namespace TaskBoard.Yaml

open Text Config

def isSpace (c : Char) : Bool := c = ' ' || c = '\t'

def startsBlank (s : List Char) : Bool := s.head?.all fun c => isSpace c || c = '\n'

def skipSpaces (s : List Char) : List Char := s.dropWhile isSpace

def withLineFeeds : List Char → List Char
  | '\r' :: '\n' :: s => '\n' :: withLineFeeds s
  | '\r' :: s => '\n' :: withLineFeeds s
  | c :: s => c :: withLineFeeds s
  | [] => []

def indentOf (s : List Char) : Nat := (s.takeWhile (· = ' ')).length

def nextLine (s : List Char) : List Char := (s.dropWhile (· != '\n')).drop 1

/-- Whether nothing but blanks and a comment is left on a line. `afterSpace` says whether a comment
may start at once. -/
def isLineDone (afterSpace : Bool) (s : List Char) : Bool :=
  let rest := skipSpaces s
  rest.isEmpty || rest.head? = some '\n' ||
    (rest.head? = some '#' && (afterSpace || rest.length < s.length))

def skipLines : Nat → List Char → List Char
  | 0, s => s
  | fuel + 1, s => if !s.isEmpty && isLineDone true s then skipLines fuel (nextLine s) else s

def contentLine (s : List Char) : List Char := skipLines (s.length + 1) s

def isMarker (mark : String) (s : List Char) : Bool :=
  mark.toList.isPrefixOf s && startsBlank (s.drop 3)

def isAnyMarker (s : List Char) : Bool := isMarker "---" s || isMarker "..." s

/-! ## Quoted scalars -/

/-- The character that an escape in double quotes stands for, from after the backslash on. -/
def escape : Reader Char
  | '0' :: s => some ('\x00', s)
  | 'a' :: s => some ('\x07', s)
  | 'b' :: s => some ('\x08', s)
  | 't' :: s | '\t' :: s => some ('\t', s)
  | 'n' :: s => some ('\n', s)
  | 'v' :: s => some ('\x0b', s)
  | 'f' :: s => some ('\x0c', s)
  | 'r' :: s => some ('\r', s)
  | 'e' :: s => some ('\x1b', s)
  | 'N' :: s => some (Char.ofNat 0x85, s)
  | '_' :: s => some (Char.ofNat 0xA0, s)
  | 'L' :: s => some (Char.ofNat 0x2028, s)
  | 'P' :: s => some (Char.ofNat 0x2029, s)
  | 'x' :: s => hexChar 2 s
  | 'u' :: s => hexChar 4 s
  | 'U' :: s => hexChar 8 s
  | c :: s => if c = ' ' || c = '"' || c = '/' || c = '\\' then some (c, s) else none
  | [] => none

/-- What stands for the line ends at the start of a text: a blank for a single one, and line feeds
for those after the first. -/
def folded (s : List Char) : List Char :=
  match (s.takeWhile fun c => isSpace c || c = '\n').count '\n' with
  | 0 => []
  | 1 => [' ']
  | n + 1 => List.replicate n '\n'

def skipBreaks (s : List Char) : List Char := s.dropWhile fun c => isSpace c || c = '\n'

/-- A scalar up to its quote, onto a text that is held in reverse. Blanks around line ends do not
count, and line ends are folded. -/
def quotedLoop (quote : Char) : Nat → List Char → Reader (List Char)
  | 0, _, _ => none
  | _, _, [] => none
  | fuel + 1, done, c :: s =>
    if c = quote then
      if quote = '\'' && s.head? = some '\'' then quotedLoop quote fuel ('\'' :: done) (s.drop 1)
      else some (done.reverse, s)
    else if quote = '"' && c = '\\' then
      if s.head? = some '\n' then quotedLoop quote fuel done (skipSpaces (s.drop 1))
      else do
        let (c, s) ← escape s
        quotedLoop quote fuel (c :: done) s
    else
      let fold := folded (c :: s)
      if fold.isEmpty then quotedLoop quote fuel (c :: done) s
      else if isAnyMarker (skipBreaks (c :: s)) then none
      else quotedLoop quote fuel (fold.reverse ++ done) (skipBreaks (c :: s))

def quoted? (s : List Char) : Option (List Char × List Char) :=
  match s with
  | '"' :: s => quotedLoop '"' (s.length + 1) [] s
  | '\'' :: s => quotedLoop '\'' (s.length + 1) [] s
  | _ => none

/-! ## Plain scalars -/

def isFlowMark (c : Char) : Bool := ",[]\x7b\x7d".toList.contains c

def isIndicator (c : Char) : Bool := isFlowMark c || "#&*!|>'\"%@\x60".toList.contains c

/-- Whether what follows a colon makes it the end of a key. -/
def endsKey (inFlow : Bool) (s : List Char) : Bool :=
  startsBlank s || (inFlow && s.head?.any isFlowMark)

def startsPlain (inFlow : Bool) (s : List Char) : Bool :=
  match s with
  | [] => false
  | c :: s =>
    if c = '-' || c = '?' || c = ':' then !endsKey inFlow s
    else !isSpace c && c != '\n' && !isIndicator c

/-- The part of a plain scalar on one line. `prev` is the character before. -/
def plainPart (inFlow : Bool) (prev : Char) : List Char → List Char × List Char
  | [] => ([], [])
  | c :: s =>
    if c = '\n' || (c = '#' && isSpace prev) || (c = ':' && endsKey inFlow s) ||
        (inFlow && isFlowMark c) then ([], c :: s)
    else
      let (part, rest) := plainPart inFlow c s
      (c :: part, rest)

/-- The part of a plain scalar on one line, without blanks at its end. -/
def plainLine (inFlow : Bool) (s : List Char) : List Char × List Char :=
  let (part, rest) := plainPart inFlow 'x' s
  (trimEnd isSpace part, rest)

/-! ## Properties -/

/-- What may be said of a node before it: its name and its tag. -/
structure Properties where
  name : Option Name := none
  tag : Option Tag := none

def isNameChar (c : Char) : Bool := !isSpace c && c != '\n' && !isFlowMark c

def nodeName : Reader Name := fun s =>
  let name := s.takeWhile isNameChar
  if name.isEmpty then none else some (name, s.dropWhile isNameChar)

def kindTags : List (List Char × Tag) := [
  ("null".toList, .null), ("bool".toList, .truth), ("int".toList, .whole), ("float".toList, .real)]

/-- A tag, from after its exclamation mark on. A document declares no marks of its own. -/
def tag : Reader Tag := fun s =>
  let body := s.takeWhile isNameChar
  let rest := s.dropWhile isNameChar
  match body with
  | '<' :: _ =>
    match s.dropWhile (· != '>') with
    | _ :: rest => some (.text, rest)
    | [] => none
  | '!' :: kind => if kind.isEmpty then none else some ((kindTags.lookup kind).getD .text, rest)
  | _ => if body.contains '!' then none else some (.text, rest)

/-- The properties before a node, in either order, with what parts one from the next. -/
def propertiesLoop (skip : List Char → List Char) : Nat → Properties → Reader Properties
  | 0, _, _ => none
  | fuel + 1, p, s =>
    match s with
    | '&' :: s =>
      if p.name.isSome then none
      else do
        let (name, s) ← nodeName s
        propertiesLoop skip fuel { p with name := some name } (skip s)
    | '!' :: s =>
      if p.tag.isSome then none
      else do
        let (tag, s) ← tag s
        propertiesLoop skip fuel { p with tag := some tag } (skip s)
    | s => some (p, s)

def properties (skip : List Char → List Char) : Reader Properties := propertiesLoop skip 3 {}

/-- The node with its properties. A tag says something of scalars alone. -/
def Properties.on (p : Properties) (node : Node) : Node :=
  let node := match node with
    | .scalar isPlain _ s => .scalar isPlain p.tag s
    | node => node
  match p.name with
  | some name => .named name node
  | none => node

def Properties.areNone (p : Properties) : Bool := p.name.isNone && p.tag.isNone

end TaskBoard.Yaml
