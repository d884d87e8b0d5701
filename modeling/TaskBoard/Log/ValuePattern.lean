import TaskBoard.Number.Decimal
import TaskBoard.Text.Reader

/-!
# Patterns of values

A log filter may ask for a field whose value is a given one, or matches a pattern. Here is which
texts are such values and patterns. No brace closes in them.
-/

namespace TaskBoard.Log

open Text

def isClassLetter (c : Char) : Bool := "dDsSwW".toList.contains c

/-- What follows an escape, from after its backslash on. A boundary of words is not among them. -/
def afterEscape? : List Char → Option (List Char)
  | [] => none
  | 'x' :: s => (hexChar 2 s).map (·.2)
  | 'u' :: s => (hexChar 4 s).map (·.2)
  | 'U' :: s => (hexChar 8 s).map (·.2)
  | 'p' :: c :: s | 'P' :: c :: s => if "CLMNPSZ".toList.contains c then some s else none
  | c :: s =>
    if isClassLetter c || "Aznrtfva".toList.contains c then some s
    else if c.isAlphanum || c = '<' || c = '>' || c.toNat > 0x7F then none
    else some s

/-- What follows a set of characters in brackets, which may hold other sets. `prev` is the character
that a range may start from. -/
def afterSet? : Nat → Nat → Option Char → List Char → Option (List Char)
  | 0, _, _, _ => none
  | _, _, _, [] => none
  | fuel + 1, depth, prev, c :: s =>
    if c = ']' then if depth = 0 then some s else afterSet? fuel (depth - 1) none s
    else if c = '[' then afterSet? fuel (depth + 1) none (s.dropWhile (· = '^'))
    else if c = '\\' then (afterEscape? s).bind (afterSet? fuel depth none)
    else match prev, c, s with
      | some a, '-', b :: rest =>
        if b = ']' || b = '[' || b = '\\' || b = '-' then afterSet? fuel depth none s
        else if b < a then none
        else afterSet? fuel depth none rest
      | _, _, _ => afterSet? fuel depth (some c) s

/-- The rest of a set, from after its bracket on. A closing bracket right at its start stands for
itself. -/
def setRest? (s : List Char) : Option (List Char) :=
  let s := (mark? '^' s).getD s
  let s := (mark? ']' s).getD s
  afterSet? (s.length + 1) 0 none s

def isNameStart (c : Char) : Bool := c.isAlpha || c = '_'

/-- What follows the start of a group, from after its parenthesis on, and whether a group is open
there. -/
def groupStart? (s : List Char) : Option (Bool × List Char) :=
  match s with
  | '?' :: s =>
    match (after? ['P', '<'] s).orElse fun _ => after? ['<'] s with
    | some s =>
      let name := s.takeWhile (· != '>')
      if name.head?.any isNameStart && name.all (fun c => c.isAlphanum || c = '_') then
        some (true, (s.dropWhile (· != '>')).drop 1)
      else none
    | none =>
      let flags := s.takeWhile fun c => "imsRUux-".toList.contains c
      match s.dropWhile fun c => "imsRUux-".toList.contains c with
      | ':' :: rest => some (true, rest)
      | ')' :: rest => if flags.isEmpty then none else some (false, rest)
      | _ => none
  | s => some (true, s)

/-- Whether a text is a pattern, given how many groups are open, and whether something stands before
it that may be repeated. -/
def isPatternLoop : Nat → Nat → Bool → List Char → Bool
  | 0, _, _, _ => false
  | _, depth, _, [] => depth = 0
  | fuel + 1, depth, mayRepeat, c :: s =>
    if c = '*' || c = '+' || c = '?' then
      mayRepeat && isPatternLoop fuel depth true ((mark? '?' s).getD s)
    else if c = '\x7b' then false
    else if c = '|' then isPatternLoop fuel depth false s
    else if c = ')' then 0 < depth && isPatternLoop fuel (depth - 1) true s
    else if c = '(' then
      match groupStart? s with
      | some (isOpen, s) => isPatternLoop fuel (if isOpen then depth + 1 else depth) false s
      | none => false
    else
      let rest? := if c = '[' then setRest? s else if c = '\\' then afterEscape? s else some s
      match rest? with
      | some s => isPatternLoop fuel depth true s
      | none => false

def isPattern (s : List Char) : Bool := isPatternLoop (s.length + 1) 0 false s

def isNumber (s : List Char) : Bool :=
  let word := (Binary64.splitSign s).2.map Char.toLower
  (Binary64.ofText? s).isSome || ["inf", "infinity", "nan"].any (·.toList = word)

def isValuePattern (s : List Char) : Bool := isNumber s || isPattern s

end TaskBoard.Log
