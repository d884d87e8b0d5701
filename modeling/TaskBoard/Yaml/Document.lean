import TaskBoard.Yaml.Text

/-!
# YAML documents

A document is a node: a scalar, a list or a table. Lists and tables are written in brackets, or line
by line, and then their indentation tells what is within them.
-/

namespace TaskBoard.Yaml

open Text Config

/-! ## Brackets -/

def skipGapLoop : Nat → List Char → List Char
  | 0, s => s
  | fuel + 1, s =>
    if s.isEmpty then s
    else if isLineDone true s then skipGapLoop fuel (nextLine s)
    else skipSpaces s

def skipGap (s : List Char) : List Char := skipGapLoop (s.length + 1) s

/-- A plain scalar in brackets. It may run over several lines. -/
def flowPlain : Nat → Reader (List Char)
  | 0, _ => none
  | fuel + 1, s =>
    if !startsPlain true s then none
    else
      let (part, rest) := plainLine true s
      if rest.head? = some '\n' && startsPlain true (skipBreaks rest) then do
        let (more, rest') ← flowPlain fuel (skipBreaks rest)
        some (part ++ folded rest ++ more, rest')
      else some (part, rest)

def flowScalar : Reader Node := fun s =>
  match quoted? s with
  | some (text, s) => some (.scalar false none text, s)
  | none =>
    match s with
    | '*' :: s => (nodeName s).map fun (name, s) => (.alias name, s)
    | s => (flowPlain (s.length + 1) s).map fun (text, s) => (.scalar true none text, s)

def isLeftOut (s : List Char) : Bool :=
  match s with
  | [] => true
  | c :: s => c = ',' || c = ']' || c = '\x7d' || (c = ':' && endsKey true s)

/-- A scalar in brackets with its properties. It may be left out if it has some. -/
def flowKey : Reader Node := fun s => do
  let (p, s) ← properties skipGap s
  if !p.areNone && isLeftOut s then some (p.on .empty, s)
  else do
    let (node, s) ← flowScalar s
    some (p.on node, s)

/-- Whether a colon right after a key ends it, whatever follows the colon. -/
def Node.isQuoted : Node → Bool
  | scalar isPlain _ _ => !isPlain
  | named _ (scalar isPlain _ _) => !isPlain
  | _ => false

/-- The text after the colon that follows a key in brackets. -/
def afterColon? (key : Node) (s : List Char) : Option (List Char) :=
  match skipGap s with
  | ':' :: s => if key.isQuoted || endsKey true s then some s else none
  | _ => none

mutual

/-- A node in brackets. It may be left out. `fuel` bounds the steps. -/
def flowNode : Nat → Reader Node
  | 0, _ => none
  | fuel + 1, s => do
    let (p, s) ← properties skipGap (skipGap s)
    match s with
    | '[' :: s => do
      let (items, s) ← flowItems fuel [] s
      some (p.on (.list items), s)
    | '\x7b' :: s => do
      let (entries, s) ← flowEntries fuel [] s
      some (p.on (.table entries), s)
    | s =>
      if isLeftOut s then some (p.on .empty, s)
      else do
        let (node, s) ← flowScalar s
        some (p.on node, s)

/-- An item of a list: a node, or a key with its node. -/
def flowItem (fuel : Nat) (s : List Char) : Option (Node × List Char) :=
  match fuel with
  | 0 => none
  | fuel + 1 =>
    match flowKey s with
    | none => if isLeftOut s then none else flowNode fuel s
    | some (key, rest) =>
      match afterColon? key rest with
      | none => some (key, rest)
      | some rest => do
        let (node, rest) ← flowNode fuel rest
        some (.table [(key, node)], rest)

def flowItems : Nat → List Node → Reader (List Node)
  | 0, _, _ => none
  | fuel + 1, done, s =>
    match skipGap s with
    | ']' :: s => some (done.reverse, s)
    | s => do
      let (node, s) ← flowItem fuel s
      match skipGap s with
      | ',' :: s => flowItems fuel (node :: done) s
      | ']' :: s => some ((node :: done).reverse, s)
      | _ => none

def flowEntries : Nat → List (Node × Node) → Reader (List (Node × Node))
  | 0, _, _ => none
  | fuel + 1, done, s =>
    match skipGap s with
    | '\x7d' :: s => some (done.reverse, s)
    | s => do
      let (key, s) ← flowKey s
      let (node, s) ← match afterColon? key s with
        | some s => flowNode fuel s
        | none => some (.empty, s)
      match skipGap s with
      | ',' :: s => flowEntries fuel ((key, node) :: done) s
      | '\x7d' :: s => some (((key, node) :: done).reverse, s)
      | _ => none

end

/-! ## Scalars on lines -/

def lineDone? (s : List Char) : Option (List Char) :=
  if isLineDone false s then some (nextLine s) else none

/-- A plain scalar, whose further lines are indented by at least `least`. -/
def plainLines (least : Nat) : Nat → Reader (List Char)
  | 0, _ => none
  | fuel + 1, s =>
    let (part, rest) := plainLine false s
    let next := skipBreaks rest
    let line := (rest.take (rest.length - next.length)).reverse.takeWhile (· != '\n')
    if rest.head? = some '\n' && !next.isEmpty && next.head? != some '#' &&
        least ≤ line.length && !(line.isEmpty && isAnyMarker next) then do
      let (more, rest') ← plainLines least fuel next
      some (part ++ folded rest ++ more, rest')
    else if isLineDone true rest then some (part, nextLine rest)
    else none

/-- How the line ends at the end of a block of text are treated. -/
inductive Chomp where
  | clip
  | strip
  | keep
deriving DecidableEq, Repr

def blockLines (indent : Nat) : Nat → List Char → List (List Char) × List Char
  | 0, s => ([], s)
  | fuel + 1, s =>
    let line := s.takeWhile (· != '\n')
    let isBlank := line.all (· = ' ')
    if s.isEmpty || (!isBlank && indentOf line < indent) || (indent = 0 && isAnyMarker s) then
      ([], s)
    else
      let (lines, rest) := blockLines indent fuel (nextLine s)
      (line.drop indent :: lines, rest)

/-- Lines with the line ends between them folded. Those beside a line that starts with a blank are
kept. `before` says of the line before whether it does not, and `blanks` counts the empty lines. -/
def foldLines (before : Option Bool) (blanks : Nat) : List (List Char) → List Char
  | [] => []
  | line :: rest =>
    if line.isEmpty then foldLines before (blanks + 1) rest
    else
      let isOpen := !line.head?.any isSpace
      let gap := match before with
        | none => List.replicate blanks '\n'
        | some wasOpen =>
          if !(wasOpen && isOpen) then List.replicate (blanks + 1) '\n'
          else if blanks = 0 then [' ']
          else List.replicate blanks '\n'
      gap ++ line ++ foldLines (some isOpen) 0 rest

def blockText (isFolded : Bool) (least : Nat) : Reader (List Char) := fun s =>
  let header := s.takeWhile fun c => c = '+' || c = '-' || isDigit c
  let signs := header.filter (!isDigit ·)
  let digits := header.filter isDigit
  let chomp := if signs = ['+'] then Chomp.keep else if signs = ['-'] then .strip else .clip
  if signs.length > 1 || digits.length > 1 || digits = ['0'] then none
  else do
    let s ← lineDone? (s.drop header.length)
    let first := s.dropWhile fun c => c = ' ' || c = '\n'
    let before := (s.take (s.length - first.length)).reverse.takeWhile (· = ' ')
    let indent := match digits with
      | [d] => least - 1 + digitValue d
      | _ => max least before.length
    let (lines, rest) := blockLines indent (s.length + 1) s
    let blanks := (lines.reverse.takeWhile List.isEmpty).length
    let body := lines.take (lines.length - blanks)
    let text := if isFolded then foldLines none 0 body else ['\n'].intercalate body
    let ends := match chomp with
      | .strip => 0
      | .clip => if body.isEmpty then 0 else 1
      | .keep => blanks + if body.isEmpty then 0 else 1
    some (text ++ List.replicate ends '\n', rest)

/-- Whether the lines after the first one of a node are indented enough. A line may be one character
short of `least`, unless it starts with a character that `isOpen` holds of. -/
def hangs (least : Nat) (isOpen : Char → Bool) (s : List Char) : Bool :=
  (splitAll '\n' s).tail.all fun line =>
    match line.dropWhile isSpace with
    | [] => true
    | c :: rest =>
      let before := line.length - rest.length
      least ≤ before && (least < before || !isOpen c)

/-- Whether a line in brackets starts with a plain scalar, if it starts so. -/
def opensPlain (c : Char) : Bool := !isIndicator c && c != ':'

def inlineNode (least : Nat) (s : List Char) : Option (Node × List Char) :=
  match s with
  | '|' :: s => (blockText false least s).map fun (text, s) => (.scalar false none text, s)
  | '>' :: s => (blockText true least s).map fun (text, s) => (.scalar false none text, s)
  | '*' :: s => do
    let (name, s) ← nodeName s
    some (.alias name, ← lineDone? s)
  | c :: _ =>
    if c = '[' || c = '\x7b' then do
      let (node, rest) ← flowNode (3 * s.length + 3) s
      if hangs least opensPlain (s.take (s.length - rest.length)) then
        some (node, ← lineDone? rest)
      else none
    else match quoted? s with
      | some (text, rest) =>
        if hangs least (fun _ => false) (s.take (s.length - rest.length)) then do
          some (.scalar false none text, ← lineDone? rest)
        else none
      | none =>
        if startsPlain false s then do
          let (text, s) ← plainLines least (s.length + 1) s
          some (.scalar true none text, s)
        else none
  | [] => none

/-! ## Lines -/

/-- A key with its colon. It stands on one line. -/
def key : Reader Node := fun s => do
  let (p, s) ← properties skipSpaces s
  let (node, rest) ← match quoted? s with
    | some (text, rest) =>
      if (s.take (s.length - rest.length)).contains '\n' then none
      else some (.scalar false none text, skipSpaces rest)
    | none =>
      match s with
      | '*' :: s => (nodeName s).map fun (name, s) => (.alias name, skipSpaces s)
      | s =>
        if startsPlain false s then
          let (text, rest) := plainLine false s
          some (.scalar true none text, rest)
        else none
  match rest with
  | ':' :: rest => if startsBlank rest then some (p.on node, rest) else none
  | _ => none

def isMarked (c : Char) (s : List Char) : Bool := s.head? = some c && startsBlank (s.drop 1)

def isItem : List Char → Bool := isMarked '-'

mutual

/-- A node on the next lines, indented by at least `least`. `fuel` bounds the steps. -/
def blockNode : Nat → Nat → Reader Node
  | 0, _, _ => none
  | fuel + 1, least, s =>
    let s := contentLine s
    let n := indentOf s
    if s.isEmpty || isAnyMarker s || n < least then some (.empty, s)
    else nodeAt fuel n least (s.drop n)

/-- A node that begins `n` characters from the left. What is not a list or a table may go on on
lines that are indented by at least `least`. -/
def nodeAt (fuel n least : Nat) (s : List Char) : Option (Node × List Char) :=
  match fuel with
  | 0 => none
  | fuel + 1 =>
    if isItem s then do
      let (items, s) ← blockItems fuel n [] s
      some (.list items, s)
    else if isMarked '?' s || (key s).isSome then do
      let (entries, s) ← blockEntries fuel n [] s
      some (.table entries, s)
    else lineNode fuel none least s

/-- A node with its properties that begins on a line with no key. Right below its properties, a list
may be as far from the left as the table that it is in, which is `n`. -/
def lineNode (fuel : Nat) (n : Option Nat) (least : Nat) (s : List Char) :
    Option (Node × List Char) :=
  match fuel with
  | 0 => none
  | fuel + 1 => do
    let (p, s) ← properties skipSpaces s
    if isLineDone true s then
      let next := contentLine (nextLine s)
      if n = some (indentOf next) && isItem (next.drop (indentOf next)) && !isAnyMarker next then
        let (items, s) ← blockItems fuel (indentOf next) [] (next.drop (indentOf next))
        some (p.on (.list items), s)
      else
        let (node, s) ← blockNode fuel least (nextLine s)
        some (p.on node, s)
    else
      let (node, s) ← inlineNode least s
      some (p.on node, s)

/-- What follows a mark that is `n` characters from the left. -/
def markedNode (fuel n : Nat) (s : List Char) : Option (Node × List Char) :=
  match fuel with
  | 0 => none
  | fuel + 1 =>
    let rest := s.drop 1
    let content := skipSpaces rest
    if isLineDone true content then blockNode fuel (n + 1) (nextLine rest)
    else nodeAt fuel (n + 1 + (rest.length - content.length)) (n + 1) content

def blockItems : Nat → Nat → List Node → Reader (List Node)
  | 0, _, _, _ => none
  | fuel + 1, n, done, s => do
    let (node, s) ← markedNode fuel n s
    let s := contentLine s
    if indentOf s = n && isItem (s.drop n) && !isAnyMarker s then
      blockItems fuel n (node :: done) (s.drop n)
    else if n < indentOf s && !s.isEmpty then none
    else some ((node :: done).reverse, s)

def blockEntry (fuel n : Nat) (s : List Char) : Option ((Node × Node) × List Char) :=
  match fuel with
  | 0 => none
  | fuel + 1 =>
    if isMarked '?' s then do
      let (key, s) ← markedNode fuel n s
      let s := contentLine s
      if indentOf s = n && isMarked ':' (s.drop n) then
        let (node, s) ← markedNode fuel n (s.drop n)
        some ((key, node), s)
      else some ((key, .empty), s)
    else do
      let (key, rest) ← key s
      let (node, s) ← lineNode fuel (some n) (n + 1) (skipSpaces rest)
      some ((key, node), s)

def blockEntries : Nat → Nat → List (Node × Node) → Reader (List (Node × Node))
  | 0, _, _, _ => none
  | fuel + 1, n, done, s => do
    let (entry, s) ← blockEntry fuel n s
    let done := entry :: done
    let s := contentLine s
    if s.isEmpty || isAnyMarker s || indentOf s < n then some (done.reverse, s)
    else if indentOf s = n then blockEntries fuel n done (s.drop n)
    else none

end

/-! ## Documents -/

/-- The text after the directives at the start of a document, and whether there are some. -/
def skipDirectives : Nat → List Char → Bool × List Char
  | 0, s => (false, s)
  | fuel + 1, s =>
    let s := contentLine s
    if s.head? = some '%' then (true, (skipDirectives fuel (nextLine s)).2) else (false, s)

def isAtEnd (s : List Char) : Bool :=
  let s := contentLine s
  s.isEmpty || (isMarker "..." s && (contentLine (nextLine s)).isEmpty)

/-- Reads the one document of a text, if there is one. A mark may stand before it, and must stand
after directives. -/
def document? (s : List Char) : Option Node := do
  let fuel := 6 * s.length + 6
  let (hasDirectives, s) := skipDirectives (s.length + 1) s
  let (node, rest) ←
    if isMarker "---" s then lineNode fuel none 0 (skipSpaces (s.drop 3))
    else if hasDirectives then none
    else blockNode fuel 0 s
  if isAtEnd rest then some node else none

/-- Reads a text of at most one document. A text without content holds an empty table. -/
def parse? (s : List Char) : Option Value :=
  let s := withLineFeeds s
  if (contentLine s).isEmpty then some (.table []) else (document? s).bind Node.value?

end TaskBoard.Yaml
