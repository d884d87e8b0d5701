import TaskBoard.Json.Reader
import TaskBoard.Text.Position

/-!
# Flaws of JSON texts

What is wrong with a text that is no JSON, and where. Each check takes the bytes before it, and
gives what comes after what it checks, or the first flaw with the bytes after it.
-/

namespace TaskBoard.Json

inductive Flaw where
  | endInValue
  | endInList
  | endInObject
  | endInString
  | noValue
  | noWord
  | noColon
  | noListEnd
  | noObjectEnd
  | nameNotText
  | commaAtEnd
  | moreText
  | badNumber
  | beyondRange
  | badEscape
  | control
  | loneSurrogate
  | halfEscape
  | tooDeep
deriving DecidableEq, Repr

def Flaw.message : Flaw → String
  | endInValue => "EOF while parsing a value"
  | endInList => "EOF while parsing a list"
  | endInObject => "EOF while parsing an object"
  | endInString => "EOF while parsing a string"
  | noValue => "expected value"
  | noWord => "expected ident"
  | noColon => "expected \x60:\x60"
  | noListEnd => "expected \x60,\x60 or \x60]\x60"
  | noObjectEnd => "expected \x60,\x60 or \x60\x7d\x60"
  | nameNotText => "key must be a string"
  | commaAtEnd => "trailing comma"
  | moreText => "trailing characters"
  | badNumber => "invalid number"
  | beyondRange => "number out of range"
  | badEscape => "invalid escape"
  | control => "control character (\\u0000-\\u001F) found while parsing a string"
  | loneSurrogate => "lone leading surrogate in hex escape"
  | halfEscape => "unexpected end of hex escape"
  | tooDeep => "recursion limit exceeded"

structure Spot where
  flaw : Flaw
  after : Nat
deriving DecidableEq, Repr

/-- The bytes after what is checked, or the first flaw. -/
abbrev Checked := Except Spot Bytes

/-- A flaw that ends where `s` begins. -/
def flawBefore {α : Type} (flaw : Flaw) (s : Bytes) : Except Spot α := .error ⟨flaw, s.length⟩

/-- A flaw that the first byte of `s` shows, or its end. -/
def flawAt {α : Type} (flaw : Flaw) (s : Bytes) : Except Spot α := flawBefore flaw (s.drop 1)

def Spot.position (text : Bytes) (spot : Spot) : Text.Position :=
  .after (· = 10) (text.take (text.length - spot.after))

/-! ## Strings -/

def checkHex (s : Bytes) : Except Spot (Nat × Bytes) :=
  match hex4 s with
  | .ok done => .ok done
  | .error .truncated => flawBefore .endInString []
  | .error _ => flawBefore .badEscape (s.drop 4)

/-- The byte that goes on with an escape for the first half of a pair. -/
def checkMark (b : UInt8) : Bytes → Checked
  | [] => flawBefore .endInString []
  | c :: s => if c = b then .ok s else flawBefore .halfEscape s

def checkUnicode (s : Bytes) : Checked := do
  let (n, s) ← checkHex s
  if isLowSurrogate n then flawBefore .loneSurrogate s
  else if isHighSurrogate n then
    let s ← checkMark backslash s
    let s ← checkMark letterU s
    let (m, s) ← checkHex s
    if isLowSurrogate m then .ok s else flawBefore .loneSurrogate s
  else .ok s

def checkEscape : Bytes → Checked
  | [] => flawBefore .endInString []
  | b :: s =>
    if (simpleEscape? b).isSome then .ok s
    else if b = letterU then checkUnicode s
    else flawBefore .badEscape s

def checkString : Nat → Bytes → Checked
  | 0, s => flawBefore .endInString s
  | _, [] => flawBefore .endInString []
  | fuel + 1, b :: s =>
    if b = quote then .ok s
    else if b = backslash then do checkString fuel (← checkEscape s)
    else if b < 32 then flawBefore .control s
    else checkString fuel s

/-! ## Numbers and words -/

def checkDigits (s : Bytes) (missing : Bytes → Checked) : Checked :=
  let rest := s.dropWhile isDigit
  if rest.length < s.length then .ok rest else missing s

/-- What is wrong where a digit is missing: with the byte that stands there, once it has been
read. -/
def noDigitThere : Bytes → Checked
  | [] => flawBefore .endInValue []
  | _ :: s => flawBefore .badNumber s

def checkWhole (s : Bytes) : Checked :=
  match s with
  | 48 :: rest => if rest.head?.any isDigit then flawAt .badNumber rest else .ok rest
  | s => checkDigits s noDigitThere

def checkFraction (s : Bytes) : Checked :=
  match s with
  | [] => .ok []
  | b :: rest => if b = point then checkDigits rest noDigitThere else .ok s

def checkExponent (s : Bytes) : Checked :=
  match s with
  | [] => .ok []
  | b :: rest =>
    if b = 101 || b = 69 then
      let rest := if rest.head?.any fun c => c = plus || c = minus then rest.drop 1 else rest
      checkDigits rest noDigitThere
    else .ok s

def checkNumber (s : Bytes) : Checked := do
  let rest ← checkWhole (if s.head? = some minus then s.drop 1 else s)
  let rest ← checkExponent (← checkFraction rest)
  match number s with
  | .ok _ => .ok rest
  | .error _ => flawBefore .beyondRange rest

def checkWord : List UInt8 → Bytes → Checked
  | [], s => .ok s
  | _ :: _, [] => flawBefore .endInValue []
  | w :: ws, b :: s => if b = w then checkWord ws s else flawBefore .noWord s

/-! ## Values -/

mutual

/-- A value. `fuel` bounds the steps, `depth` the brackets that may still be opened. -/
def checkValue : Nat → Nat → Bytes → Checked
  | 0, _, s => flawAt .noValue s
  | fuel + 1, depth, s =>
    match skipBlank s with
    | [] => flawAt .endInValue []
    | b :: rest =>
      if b = letterN then checkWord afterN rest
      else if b = letterT then checkWord afterT rest
      else if b = letterF then checkWord afterF rest
      else if b = minus || isDigit b then checkNumber (b :: rest)
      else if b = quote then checkString (rest.length + 1) rest
      else if b = openBracket then
        if depth = 0 then flawBefore .tooDeep rest else checkItems fuel (depth - 1) true rest
      else if b = openBrace then
        if depth = 0 then flawBefore .tooDeep rest else checkMembers fuel (depth - 1) true rest
      else flawBefore .noValue rest

/-- The items of a list, from before the first one or from after one on. -/
def checkItems : Nat → Nat → Bool → Bytes → Checked
  | 0, _, _, s => flawAt .endInList s
  | fuel + 1, depth, isFirst, s =>
    match skipBlank s with
    | [] => flawBefore .endInList []
    | b :: rest =>
      if b = closeBracket then .ok rest
      else if isFirst then do
        checkItems fuel depth false (← checkValue fuel depth (b :: rest))
      else if b = comma then
        match skipBlank rest with
        | [] => flawBefore .endInValue []
        | c :: rest =>
          if c = closeBracket then flawBefore .commaAtEnd rest
          else do checkItems fuel depth false (← checkValue fuel depth (c :: rest))
      else flawBefore .noListEnd rest

/-- The members of an object, from before the first one or from after one on. -/
def checkMembers : Nat → Nat → Bool → Bytes → Checked
  | 0, _, _, s => flawAt .endInObject s
  | fuel + 1, depth, isFirst, s =>
    match skipBlank s with
    | [] => flawBefore .endInObject []
    | b :: rest =>
      if b = closeBrace then .ok rest
      else if isFirst then do
        checkMembers fuel depth false (← checkMember fuel depth (b :: rest))
      else if b = comma then
        match skipBlank rest with
        | [] => flawBefore .endInValue []
        | c :: rest =>
          if c = closeBrace then flawBefore .commaAtEnd rest
          else do checkMembers fuel depth false (← checkMember fuel depth (c :: rest))
      else flawBefore .noObjectEnd rest

def checkMember (fuel depth : Nat) (s : Bytes) : Checked :=
  match fuel with
  | 0 => flawAt .endInObject s
  | fuel + 1 =>
    match s with
    | [] => flawBefore .endInObject []
    | b :: rest =>
      if b != quote then flawBefore .nameNotText rest
      else do
        match skipBlank (← checkString (rest.length + 1) rest) with
        | [] => flawBefore .endInObject []
        | c :: rest =>
          if c = colon then checkValue fuel depth rest else flawBefore .noColon rest

end

/-- The first flaw of a text in which at most `depth` brackets are open at once. -/
def flaw? (depth : Nat) (s : Bytes) : Option Spot :=
  let outcome : Checked := do
    let rest ← checkValue (3 * s.length + 3) depth s
    match skipBlank rest with
    | [] => .ok []
    | _ :: rest => flawBefore .moreText rest
  match outcome with
  | .ok _ => none
  | .error spot => some spot

end TaskBoard.Json
