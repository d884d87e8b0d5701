import TaskBoard.Config.Value
import TaskBoard.Text.Alphanumeric
import TaskBoard.Text.Blank
import TaskBoard.Text.Reader

/-!
# Configuration in JSON5

JSON with comments, names without quotes, single quotes, commas after the last item, and more ways
to write numbers.
-/

namespace TaskBoard.Config.Json5

open Text

def isLineEnd (c : Char) : Bool :=
  c = '\n' || c = '\r' || c.toNat = 0x2028 || c.toNat = 0x2029

def isSpace (c : Char) : Bool := (isBlank c && c.toNat != 0x85) || c.toNat = 0xFEFF

/-- The text after a comment that may run over several lines. -/
def afterComment? : List Char → Option (List Char)
  | [] => none
  | '*' :: '/' :: s => some s
  | _ :: s => afterComment? s

def skipGapLoop : Nat → List Char → Option (List Char)
  | 0, _ => none
  | fuel + 1, s =>
    match s.dropWhile isSpace with
    | '/' :: '/' :: s => skipGapLoop fuel (s.dropWhile (!isLineEnd ·))
    | '/' :: '*' :: s => (afterComment? s).bind (skipGapLoop fuel)
    | s => some s

def skipGap (s : List Char) : Option (List Char) := skipGapLoop (s.length + 1) s

/-! ## Strings and names -/

/-- The character of a code of four digits, together with a second escape if it is half of one. -/
def unicodeEscape : Reader Char := fun s => do
  let (n, s) ← hexCode 4 s
  if 0xD800 ≤ n && n ≤ 0xDBFF then
    let s ← after? ['\\', 'u'] s
    let (m, s) ← hexCode 4 s
    if 0xDC00 ≤ m && m ≤ 0xDFFF then
      some (Char.ofNat (0x10000 + (n - 0xD800) * 0x400 + (m - 0xDC00)), s)
    else none
  else some (← charOf? n, s)

/-- The character that an escape stands for, from after the backslash on. -/
def escape : Reader Char
  | 'b' :: s => some ('\x08', s)
  | 'f' :: s => some ('\x0c', s)
  | 'n' :: s => some ('\n', s)
  | 'r' :: s => some ('\r', s)
  | 't' :: s => some ('\t', s)
  | 'v' :: s => some ('\x0b', s)
  | 'x' :: s => hexChar 2 s
  | 'u' :: s => unicodeEscape s
  | '0' :: s => if s.head?.any isDigit then none else some ('\x00', s)
  | c :: s => if isDigit c then none else some (c, s)
  | [] => none

/-- The text after a line end that starts it. -/
def afterLineEnd? : List Char → Option (List Char)
  | '\r' :: '\n' :: s => some s
  | c :: s => if isLineEnd c then some s else none
  | [] => none

/-- A string up to its quote, onto a text that is held in reverse. -/
def stringLoop (quote : Char) : Nat → List Char → Reader (List Char)
  | 0, _, _ => none
  | _, _, [] => none
  | fuel + 1, done, c :: s =>
    if c = quote then some (done.reverse, s)
    else if c = '\n' || c = '\r' then none
    else if c != '\\' then stringLoop quote fuel (c :: done) s
    else match afterLineEnd? s with
      | some s => stringLoop quote fuel done s
      | none => do
        let (c, s) ← escape s
        stringLoop quote fuel (c :: done) s

def isNameStart (c : Char) : Bool := (isAlphanumeric c && !isDigit c) || c = '$' || c = '_'

def isNameChar (c : Char) : Bool :=
  isNameStart c || isDigit c || c.toNat = 0x200C || c.toNat = 0x200D

/-- A name without quotes, onto a text that is held in reverse. -/
def nameLoop : Nat → List Char → Reader Name
  | 0, _, _ => none
  | fuel + 1, done, s =>
    match s with
    | '\\' :: 'u' :: rest => do
      let (c, rest) ← hexChar 4 rest
      nameLoop fuel (c :: done) rest
    | c :: rest =>
      if if done.isEmpty then isNameStart c else isNameChar c then nameLoop fuel (c :: done) rest
      else if done.isEmpty then none else some (done.reverse, s)
    | [] => if done.isEmpty then none else some (done.reverse, s)

def string? (s : List Char) : Option (List Char × List Char) :=
  match s with
  | '"' :: s => stringLoop '"' (s.length + 1) [] s
  | '\'' :: s => stringLoop '\'' (s.length + 1) [] s
  | _ => none

def name : Reader Name := fun s => (string? s).orElse fun _ => nameLoop (s.length + 1) [] s

/-! ## Numbers -/

def whole? (negative : Bool) (n : Nat) : Option Value :=
  let n : Int := if negative then -(n : Int) else n
  if minI64 ≤ n ∧ n ≤ maxI64 then some (.whole n) else none

def exponent : Reader (Option Int) := fun s =>
  match s with
  | c :: rest =>
    if c = 'e' || c = 'E' then
      let (negative, rest) := match rest with
        | '-' :: rest => (true, rest)
        | '+' :: rest => (false, rest)
        | rest => (false, rest)
      let digits := rest.takeWhile isDigit
      if digits.isEmpty then none
      else
        let n : Int := valueIn 10 digits
        some (some (if negative then -n else n), rest.dropWhile isDigit)
    else some (none, s)
  | [] => some (none, s)

/-- The digits of a number, its point and its exponent. Digits may lack before or after the point,
and no zero stands before other digits. -/
def decimalNumber (negative : Bool) : Reader Value := fun s => do
  let before := s.takeWhile isDigit
  let s := s.dropWhile isDigit
  let (pointed, s) := match s with
    | '.' :: s => (true, s)
    | s => (false, s)
  let places := if pointed then s.takeWhile isDigit else []
  let s := if pointed then s.dropWhile isDigit else s
  let (power, s) ← exponent s
  if before.isEmpty && places.isEmpty || before.length > 1 && before.head? = some '0' then none
  else if !pointed && power.isNone then some (← whole? negative (valueIn 10 before), s)
  else
    let digits := valueIn 10 (before ++ places)
    some (.real (Binary64.ofDecimal negative digits (power.getD 0 - places.length)), s)

def magnitude (negative : Bool) : Reader Value := fun s =>
  match after? "Infinity".toList s, after? "NaN".toList s, s with
  | some s, _, _ => some (.real (.infinite negative), s)
  | none, some s, _ => some (.real .nan, s)
  | none, none, '0' :: x :: rest =>
    if x = 'x' || x = 'X' then do
      let digits := rest.takeWhile isHexDigit
      if digits.isEmpty then none
      else some (← whole? negative (valueIn 16 digits), rest.dropWhile isHexDigit)
    else decimalNumber negative s
  | none, none, s => decimalNumber negative s

def number : Reader Value
  | '-' :: s => magnitude true s
  | '+' :: s => magnitude false s
  | s => magnitude false s

/-! ## Values -/

def word? (s : List Char) : Option (Value × List Char) :=
  match after? "null".toList s, after? "true".toList s, after? "false".toList s with
  | some s, _, _ => some (.null, s)
  | _, some s, _ => some (.truth true, s)
  | _, _, some s => some (.truth false, s)
  | _, _, _ => none

mutual

/-- A value of any type. `fuel` bounds the steps. -/
def value : Nat → Reader Value
  | 0, _ => none
  | fuel + 1, s =>
    match s with
    | '[' :: s => items fuel [] s
    | '\x7b' :: s => members fuel [] s
    | s => ((string? s).map fun (text, s) => (.text text, s)).orElse fun _ =>
      (word? s).orElse fun _ => number s

def items : Nat → List Value → Reader Value
  | 0, _, _ => none
  | fuel + 1, done, s => do
    match ← skipGap s with
    | ']' :: s => some (.list done.reverse, s)
    | s =>
      let (v, s) ← value fuel s
      match ← skipGap s with
      | ',' :: s => items fuel (v :: done) s
      | ']' :: s => some (.list (v :: done).reverse, s)
      | _ => none

def members : Nat → Table → Reader Value
  | 0, _, _ => none
  | fuel + 1, done, s => do
    match ← skipGap s with
    | '\x7d' :: s => some (.table done, s)
    | s =>
      let (name, s) ← name s
      let s ← mark? ':' (← skipGap s)
      let (v, s) ← value fuel (← skipGap s)
      let done := putNamed done name v
      match ← skipGap s with
      | ',' :: s => members fuel done s
      | '\x7d' :: s => some (.table done, s)
      | _ => none

end

def parse? (s : List Char) : Option Value := do
  let (v, rest) ← value (2 * s.length + 2) (← skipGap s)
  if (← skipGap rest).isEmpty then some v else none

end TaskBoard.Config.Json5
