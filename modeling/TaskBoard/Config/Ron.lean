import TaskBoard.Config.Value
import TaskBoard.Number.Decimal
import TaskBoard.Text.Alphanumeric
import TaskBoard.Text.Reader

/-!
# Configuration in RON

A notation for records: `(host: "::1", port: Some(80))`. A record is a table, a tuple is a list, and
what is in `Some` stands for itself.
-/

namespace TaskBoard.Config.Ron

open Text

/-! ## Gaps -/

def isSpace (c : Char) : Bool :=
  let n := c.toNat
  (9 ≤ n && n ≤ 13) || [0x20, 0x85, 0x200E, 0x200F, 0x2028, 0x2029].contains n

/-- The text after a comment, within as many others. -/
def afterComment? : Nat → List Char → Option (List Char)
  | _, [] => none
  | 0, '*' :: '/' :: s => some s
  | n + 1, '*' :: '/' :: s => afterComment? n s
  | n, '/' :: '*' :: s => afterComment? (n + 1) s
  | n, _ :: s => afterComment? n s

def skipGapLoop : Nat → List Char → Option (List Char)
  | 0, _ => none
  | fuel + 1, s =>
    match s.dropWhile isSpace with
    | '/' :: '/' :: s => skipGapLoop fuel (s.dropWhile (· != '\n'))
    | '/' :: '*' :: s => (afterComment? 0 s).bind (skipGapLoop fuel)
    | s => some s

def skipGap (s : List Char) : Option (List Char) := skipGapLoop (s.length + 1) s

/-! ## Texts -/

/-- The character that an escape stands for, from after the backslash on. -/
def escape : Reader Char
  | '\'' :: s => some ('\'', s)
  | '"' :: s => some ('"', s)
  | '\\' :: s => some ('\\', s)
  | 'n' :: s => some ('\n', s)
  | 'r' :: s => some ('\r', s)
  | 't' :: s => some ('\t', s)
  | '0' :: s => some ('\x00', s)
  | 'x' :: s => hexChar 2 s
  | 'u' :: '\x7b' :: s => do
    let digits := s.takeWhile isHexDigit
    let s ← mark? '\x7d' (s.dropWhile isHexDigit)
    if digits.isEmpty || digits.length > 6 then none
    else some (← charOf? (valueIn 16 digits), s)
  | _ => none

/-- A string up to its quote, onto a text that is held in reverse. -/
def stringLoop : Nat → List Char → Reader (List Char)
  | 0, _, _ => none
  | _, _, [] => none
  | fuel + 1, done, c :: s =>
    if c = '"' then some (done.reverse, s)
    else if c = '\\' then do
      let (c, s) ← escape s
      stringLoop fuel (c :: done) s
    else stringLoop fuel (c :: done) s

/-- The text up to an end, onto a text that is held in reverse. -/
def upTo (stop : List Char) (done : List Char) : Reader (List Char)
  | [] => none
  | c :: s =>
    match after? stop (c :: s) with
    | some rest => some (done.reverse, rest)
    | none => upTo stop (c :: done) s

/-- A string without escapes, from after its letter on. As many number signs stand before as after
it. -/
def rawString : Reader (List Char) := fun s =>
  let signs := s.takeWhile (· = '#')
  (mark? '"' (s.dropWhile (· = '#'))).bind (upTo ('"' :: signs) [])

def character : Reader Char
  | '\\' :: s => do
    let (c, s) ← escape s
    some (c, ← mark? '\'' s)
  | c :: '\'' :: s => some (c, s)
  | _ => none

def text? (s : List Char) : Option (List Char × List Char) :=
  match s with
  | '"' :: s => stringLoop (s.length + 1) [] s
  | 'r' :: '"' :: s => rawString ('"' :: s)
  | 'r' :: '#' :: s => rawString ('#' :: s)
  | '\'' :: s => (character s).map fun (c, s) => ([c], s)
  | _ => none

def isNameStart (c : Char) : Bool := (isAlphanumeric c && !isDigit c) || c = '_'

def isNameChar (c : Char) : Bool := isNameStart c || isDigit c

def identifier : Reader Name
  | c :: s =>
    if isNameStart c then some (c :: s.takeWhile isNameChar, s.dropWhile isNameChar) else none
  | [] => none

/-! ## Numbers -/

def isNumberChar (c : Char) : Bool :=
  isAlphanumeric c || c = '.' || c = '_' || c = '+' || c = '-'

/-- Digits with underscores among them. -/
def digits? (isDigit : Char → Bool) (s : List Char) : Option (List Char) :=
  let digits := s.filter (· != '_')
  if !digits.isEmpty && s.head? != some '_' && digits.all isDigit then some digits else none

def whole? (negative : Bool) (n : Nat) : Option Value :=
  let n : Int := if negative then -(n : Int) else n
  if minI64 ≤ n ∧ n ≤ maxU64 then some (.whole n) else none

def based? (negative : Bool) (base : Nat) (isDigit : Char → Bool) (s : List Char) :
    Option Value := do
  whole? negative (valueIn base (← digits? isDigit s))

def magnitude? (negative : Bool) (s : List Char) : Option Value :=
  match s with
  | '0' :: 'x' :: s => based? negative 16 isHexDigit s
  | '0' :: 'o' :: s => based? negative 8 (fun c => '0' ≤ c && c ≤ '7') s
  | '0' :: 'b' :: s => based? negative 2 (fun c => c = '0' || c = '1') s
  | s =>
    if s = "inf".toList then some (.real (.infinite negative))
    else if s = "NaN".toList then some (.real .nan)
    else (based? negative 10 isDigit s).orElse fun _ =>
      if s.head?.any fun c => isDigit c || c = '.' then
        (Binary64.ofText? (s.filter (· != '_'))).map fun x =>
          .real (if negative then x.negate else x)
      else none

def number : Reader Value := fun s =>
  let word := s.takeWhile isNumberChar
  let rest := s.dropWhile isNumberChar
  let value := match word with
    | '-' :: word => magnitude? true word
    | '+' :: word => magnitude? false word
    | word => magnitude? false word
  value.map (·, rest)

/-! ## Values -/

/-- Whether a record with names follows, from after its parenthesis on. -/
def isRecord (s : List Char) : Bool :=
  match identifier s with
  | some (_, rest) => ((skipGap rest).bind List.head?) = some ':'
  | none => false

mutual

/-- A value of any type. `fuel` bounds the steps. -/
def value : Nat → Reader Value
  | 0, _ => none
  | fuel + 1, s =>
    match text? s with
    | some (text, s) => some (.text text, s)
    | none =>
      match s with
      | '[' :: s => items fuel ']' [] s
      | '\x7b' :: s => entries fuel [] s
      | '(' :: s => inside fuel s
      | s =>
        match identifier s with
        | some (name, rest) => named fuel name rest
        | none => number s

/-- What an identifier begins: a word of its own, or a record with a title. -/
def named (fuel : Nat) (name : Name) (s : List Char) : Option (Value × List Char) :=
  match fuel with
  | 0 => none
  | fuel + 1 =>
    if name = "true".toList then some (.truth true, s)
    else if name = "false".toList then some (.truth false, s)
    else if name = "None".toList then some (.null, s)
    else if name = "inf".toList then some (.real (.infinite false), s)
    else if name = "NaN".toList then some (.real .nan, s)
    else do
      let rest ← skipGap s
      match rest with
      | '(' :: rest =>
        if name = "Some".toList then
          let (v, rest) ← value fuel (← skipGap rest)
          let rest ← skipGap rest
          let rest ← skipGap ((mark? ',' rest).getD rest)
          some (v, ← mark? ')' rest)
        else inside fuel rest
      | _ => if name = "Some".toList then none else some (.null, s)

/-- What is in parentheses, from after the first one on: a record, or a tuple. -/
def inside (fuel : Nat) (s : List Char) : Option (Value × List Char) :=
  match fuel with
  | 0 => none
  | fuel + 1 => do
    let s ← skipGap s
    if s.head? = some ')' then some (.null, s.drop 1)
    else if isRecord s then fields fuel [] s
    else items fuel ')' [] s

def items : Nat → Char → List Value → Reader Value
  | 0, _, _, _ => none
  | fuel + 1, stop, done, s => do
    let s ← skipGap s
    if s.head? = some stop then some (.list done.reverse, s.drop 1)
    else
      let (v, s) ← value fuel s
      match ← skipGap s with
      | c :: s =>
        if c = ',' then items fuel stop (v :: done) s
        else if c = stop then some (.list (v :: done).reverse, s)
        else none
      | [] => none

def fields : Nat → Table → Reader Value
  | 0, _, _ => none
  | fuel + 1, done, s => do
    match ← skipGap s with
    | ')' :: s => some (.table done, s)
    | s =>
      let (name, s) ← identifier s
      let s ← mark? ':' (← skipGap s)
      let (v, s) ← value fuel (← skipGap s)
      let done := putNamed done name v
      match ← skipGap s with
      | ',' :: s => fields fuel done s
      | ')' :: s => some (.table done, s)
      | _ => none

/-- The entries of a map, after those before them. Their keys are texts. -/
def entries : Nat → Table → Reader Value
  | 0, _, _ => none
  | fuel + 1, done, s => do
    match ← skipGap s with
    | '\x7d' :: s => some (.table done, s)
    | s =>
      let (name, s) ← text? s
      let s ← mark? ':' (← skipGap s)
      let (v, s) ← value fuel (← skipGap s)
      let done := putNamed done name v
      match ← skipGap s with
      | ',' :: s => entries fuel done s
      | '\x7d' :: s => some (.table done, s)
      | _ => none

end

/-- The text after the switches that a document may start with. -/
def skipSwitches (s : List Char) : Option (List Char) :=
  match s with
  | '#' :: '!' :: '[' :: s => do skipGap (s.dropWhile (· != ']')).tail
  | s => some s

def parse? (s : List Char) : Option Value := do
  let s ← skipSwitches (← skipGap s)
  let (v, rest) ← value (3 * s.length + 3) s
  if (← skipGap rest).isEmpty then some v else none

end TaskBoard.Config.Ron
