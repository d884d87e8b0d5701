import TaskBoard.Number.Binary64
import TaskBoard.Text.Utf8

/-!
# Reading JSON

JSON text is read in one pass over its bytes, and what is wrong with it is whatever is met first.
A reader takes the bytes before it and gives a value with the bytes after it.
-/

namespace TaskBoard.Json

/-- What is wrong with a JSON text: it is no JSON, it holds a value that does not fit, or it ends
too early. -/
inductive Fault where
  | malformed
  | mismatch
  | truncated
deriving DecidableEq, Repr

abbrev Reader (α : Type) := Bytes → Except Fault (α × Bytes)

def quote : UInt8 := 34
def backslash : UInt8 := 92
def comma : UInt8 := 44
def colon : UInt8 := 58
def openBracket : UInt8 := 91
def closeBracket : UInt8 := 93
def openBrace : UInt8 := 123
def closeBrace : UInt8 := 125
def minus : UInt8 := 45
def plus : UInt8 := 43
def point : UInt8 := 46

def isBlank (b : UInt8) : Bool := b = 32 || b = 9 || b = 10 || b = 13

def skipBlank (s : Bytes) : Bytes := s.dropWhile isBlank

def isDigit (b : UInt8) : Bool := 48 ≤ b && b ≤ 57

/-! ## Strings -/

/-- The character after a backslash that stands for one character. -/
def simpleEscape? (b : UInt8) : Option Char :=
  if b = 34 then some '"'
  else if b = 92 then some '\\'
  else if b = 47 then some '/'
  else if b = 98 then some '\x08'
  else if b = 102 then some '\x0c'
  else if b = 110 then some '\n'
  else if b = 114 then some '\r'
  else if b = 116 then some '\t'
  else none

def letterU : UInt8 := 117

def hex4 : Reader Nat
  | a :: b :: c :: d :: s =>
    match Text.hexValue? a, Text.hexValue? b, Text.hexValue? c, Text.hexValue? d with
    | some w, some x, some y, some z => .ok (((w * 16 + x) * 16 + y) * 16 + z, s)
    | _, _, _, _ => .error .malformed
  | _ => .error .truncated

def isHighSurrogate (n : Nat) : Bool := 0xD800 ≤ n && n ≤ 0xDBFF
def isLowSurrogate (n : Nat) : Bool := 0xDC00 ≤ n && n ≤ 0xDFFF

/-- The second half of a surrogate pair, from its backslash on. -/
def lowSurrogate : Reader Nat
  | [] => .error .truncated
  | b :: s =>
    if b = backslash then
      match s with
      | [] => .error .truncated
      | u :: s =>
        if u = letterU then
          match hex4 s with
          | .ok (n, s) => if isLowSurrogate n then .ok (n, s) else .error .malformed
          | .error e => .error e
        else .error .malformed
    else .error .malformed

/-- The character of a surrogate pair. -/
def pairChar (high low : Nat) : Char :=
  Char.ofNat (0x10000 + (high - 0xD800) * 0x400 + (low - 0xDC00))

/-- The character that four digits name, together with a second escape if they name a half. -/
def unicodeEscape : Reader Char := fun s =>
  match hex4 s with
  | .error e => .error e
  | .ok (n, s) =>
    if isLowSurrogate n then .error .malformed
    else if isHighSurrogate n then
      match lowSurrogate s with
      | .ok (m, s) => .ok (pairChar n m, s)
      | .error e => .error e
    else .ok (Char.ofNat n, s)

def escape : Reader Char
  | [] => .error .truncated
  | b :: s =>
    match simpleEscape? b with
    | some c => .ok (c, s)
    | none => if b = letterU then unicodeEscape s else .error .malformed

theorem hex4_length {s rest : Bytes} {n : Nat} (h : hex4 s = .ok (n, rest)) :
    rest.length < s.length := by
  unfold hex4 at h
  split at h
  · split at h
    · simp only [Except.ok.injEq, Prod.mk.injEq] at h
      rw [← h.2]
      simp only [List.length_cons]
      omega
    · cases h
  · cases h

theorem lowSurrogate_length {s rest : Bytes} {n : Nat} (h : lowSurrogate s = .ok (n, rest)) :
    rest.length < s.length := by
  unfold lowSurrogate at h
  repeat' split at h
  all_goals first | cases h; done | skip
  next hx _ => cases h; have := hex4_length hx; simp only [List.length_cons]; omega

theorem unicodeEscape_length {s rest : Bytes} {c : Char} (h : unicodeEscape s = .ok (c, rest)) :
    rest.length < s.length := by
  unfold unicodeEscape at h
  cases h₁ : hex4 s with
  | error e => simp [h₁] at h
  | ok first =>
    have hlt := @hex4_length s first.2 first.1 h₁
    simp only [h₁] at h
    split at h
    · cases h
    · split at h
      · cases h₂ : lowSurrogate first.2 with
        | error e => simp [h₂] at h
        | ok second =>
          have := @lowSurrogate_length first.2 second.2 second.1 h₂
          simp only [h₂, Except.ok.injEq, Prod.mk.injEq] at h
          rw [← h.2]
          omega
      · simp only [Except.ok.injEq, Prod.mk.injEq] at h
        rw [← h.2]
        exact hlt

theorem escape_length {s rest : Bytes} {c : Char} (h : escape s = .ok (c, rest)) :
    rest.length < s.length := by
  unfold escape at h
  repeat' split at h
  · cases h
  · cases h; simp
  · have := unicodeEscape_length h; simp only [List.length_cons]; omega
  · cases h

/-- Reads the bytes of a string to its closing quote, onto bytes that are held in reverse. -/
def stringOnto (done : Bytes) : Reader Bytes
  | [] => .error .truncated
  | b :: s =>
    if b = quote then .ok (done.reverse, s)
    else if b = backslash then
      match _h : escape s with
      | .ok (c, rest) => stringOnto ((String.utf8EncodeChar c).reverse ++ done) rest
      | .error e => .error e
    else if b < 32 then .error .malformed
    else stringOnto (b :: done) s
termination_by s => s.length
decreasing_by
  all_goals simp only [List.length_cons]
  · have := escape_length _h; omega
  · omega

def string : Reader (List Char) := fun s =>
  match stringOnto [] s with
  | .error e => .error e
  | .ok (bytes, rest) =>
    match Text.Utf8.decode? bytes with
    | some text => .ok (text, rest)
    | none => .error .malformed

/-! ## Numbers -/

/-- The digits of a number as far as 64 bits hold them, and the power of ten that they are counted
in. Once a digit has not fitted, no more of them are held. -/
structure Significand where
  value : Nat
  exponent : Int
  isFull : Bool
deriving DecidableEq, Repr

namespace Significand

def digitValue (b : UInt8) : Nat := b.toNat - 48

def push? (n : Significand) (d : UInt8) : Option Nat :=
  let value := 10 * n.value + digitValue d
  if n.isFull || value > Text.maxU64 then none else some value

/-- A digit before the point. One that is not held counts in the exponent. -/
def pushWhole (n : Significand) (d : UInt8) : Significand :=
  match n.push? d with
  | some value => { n with value }
  | none => { n with exponent := n.exponent + 1, isFull := true }

/-- A digit after the point. One that is not held does not count. -/
def pushFraction (n : Significand) (d : UInt8) : Significand :=
  match n.push? d with
  | some value => { n with value, exponent := n.exponent - 1 }
  | none => { n with isFull := true }

end Significand

/-- A number as it is written. It is whole if it has neither a point nor an exponent. -/
structure Numeral where
  negative : Bool
  significand : Significand
  exponent : Int
  isWhole : Bool
deriving DecidableEq, Repr

def noDigit (s : Bytes) : Fault := if s.isEmpty then .truncated else .malformed

/-- The digits before the point. A zero there stands alone. -/
def wholePart : Reader Significand := fun s =>
  match s with
  | [] => .error .truncated
  | b :: rest =>
    if b = 48 then
      match rest with
      | d :: _ => if isDigit d then .error .malformed else .ok (⟨0, 0, false⟩, rest)
      | [] => .ok (⟨0, 0, false⟩, rest)
    else if isDigit b then
      .ok ((s.takeWhile isDigit).foldl Significand.pushWhole ⟨0, 0, false⟩, s.dropWhile isDigit)
    else .error .malformed

/-- The digits with those after the point, and whether a point is there. The first digit after the
point may fit again where one before it has not. -/
def fractionPart (whole : Significand) : Reader (Significand × Bool) := fun s =>
  match s with
  | [] => .ok ((whole, false), s)
  | b :: rest =>
    if b = point then
      let ds := rest.takeWhile isDigit
      if ds.isEmpty then .error (noDigit rest)
      else
        let n := ds.foldl Significand.pushFraction { whole with isFull := false }
        .ok ((n, true), rest.dropWhile isDigit)
    else .ok ((whole, false), s)

def exponentPart : Reader (Option Int) := fun s =>
  match s with
  | [] => .ok (none, s)
  | b :: rest =>
    if b = 101 || b = 69 then
      let (negative, rest) := match rest with
        | sign :: more =>
          if sign = plus then (false, more)
          else if sign = minus then (true, more) else (false, rest)
        | [] => (false, rest)
      let ds := rest.takeWhile isDigit
      if ds.isEmpty then .error (noDigit rest)
      else
        let n := ds.foldl (fun n d => 10 * n + Significand.digitValue d) 0
        .ok (some (if negative then -(n : Int) else n), rest.dropWhile isDigit)
    else .ok (none, s)

def numeral : Reader Numeral := fun s => do
  let (negative, s) := match s with
    | b :: rest => if b = minus then (true, rest) else (false, s)
    | [] => (false, s)
  let (whole, s) ← wholePart s
  let ((significand, pointed), s) ← fractionPart whole s
  let (exponent, s) ← exponentPart s
  let isWhole := !pointed && exponent.isNone && !significand.isFull
  return (⟨negative, significand, exponent.getD 0, isWhole⟩, s)

/-- The value of a number. Whole numbers are exact, if 64 bits hold them. -/
inductive Number where
  | whole (n : Int)
  | real (x : Binary64)
deriving DecidableEq, Repr

/-- The greatest power of ten by which a number is scaled at once. -/
def maxScale : Int := 308

def powerOfTen (n : Int) : Binary64 := Binary64.ofNat (Text.tenTo n.toNat)

/-- A number times a power of ten, rounded after each multiplication or division, if it is finite. A
power beyond the range is taken in steps. -/
def scaled? (x : Binary64) (exponent : Int) : Option Binary64 :=
  if x.isZero then some x
  else if exponent > maxScale then none
  else if 0 ≤ exponent then (x.mul (powerOfTen exponent)).finite?
  else if -maxScale ≤ exponent then some (x.div (powerOfTen (-exponent)))
  else scaled? (x.div (powerOfTen maxScale)) (exponent + maxScale)
termination_by (-exponent).toNat
decreasing_by simp only [maxScale] at *; omega

/-- The value of a number that is within the range. A negative zero is no whole number. -/
def Numeral.value? (n : Numeral) : Option Number :=
  let value : Int := if n.negative then -(n.significand.value : Int) else n.significand.value
  if n.isWhole && (if n.negative then Text.minI64 ≤ value && value < 0 else true) then
    some (.whole value)
  else
    let magnitude := Binary64.ofNat n.significand.value
    (scaled? magnitude (n.significand.exponent + n.exponent)).map fun x =>
      .real (if n.negative then x.negate else x)

def number : Reader Number := fun s => do
  let (n, s) ← numeral s
  match n.value? with
  | some value => return (value, s)
  | none => throw .malformed

/-! ## Words -/

def word : List UInt8 → Bytes → Except Fault Bytes
  | [], s => .ok s
  | _ :: _, [] => .error .truncated
  | w :: ws, b :: s => if b = w then word ws s else .error .malformed

def afterN : List UInt8 := [117, 108, 108]
def afterT : List UInt8 := [114, 117, 101]
def afterF : List UInt8 := [97, 108, 115, 101]
def letterN : UInt8 := 110
def letterT : UInt8 := 116
def letterF : UInt8 := 102

/-! ## Passing over values -/

/-- The end of a string that nobody looks at: its escapes are checked, its characters are not. -/
def skipString : Bytes → Except Fault Bytes
  | [] => .error .truncated
  | b :: s =>
    if b = quote then .ok s
    else if b = backslash then
      match s with
      | [] => .error .truncated
      | e :: s =>
        if (simpleEscape? e).isSome then skipString s
        else if e = letterU then
          match _h : hex4 s with
          | .ok (_, rest) => skipString rest
          | .error f => .error f
        else .error .malformed
    else if b < 32 then .error .malformed
    else skipString s
termination_by s => s.length
decreasing_by
  all_goals simp only [List.length_cons]
  · omega
  · have := hex4_length _h
    omega
  · omega

/-- The end of a number that nobody looks at. Its range is not checked, and where it lacks a digit
it is malformed even at the end of the text. -/
def skipNumber (s : Bytes) : Except Fault Bytes :=
  match numeral s with
  | .ok (_, rest) => .ok rest
  | .error _ => .error .malformed

inductive Frame where
  | list
  | object
deriving DecidableEq, Repr

def Frame.close : Frame → UInt8
  | list => closeBracket
  | object => closeBrace

/-- What may come next while values are passed over: a value, what follows a value, or what follows
an opening bracket. -/
inductive Expect where
  | value
  | after
  | opened
deriving DecidableEq, Repr

def skipName (s : Bytes) : Except Fault Bytes :=
  match skipBlank s with
  | [] => .error .truncated
  | b :: s =>
    if b = quote then do
      let s ← skipString s
      match skipBlank s with
      | [] => .error .truncated
      | b :: s => if b = colon then .ok s else .error .malformed
    else .error .malformed

/-- A value that begins with `b`: what comes after it, and the bracket if it opens one. -/
def skipStart (b : UInt8) (s : Bytes) : Except Fault (Option Frame × Bytes) :=
  if b = letterN then (word afterN s).map (none, ·)
  else if b = letterT then (word afterT s).map (none, ·)
  else if b = letterF then (word afterF s).map (none, ·)
  else if b = minus || isDigit b then (skipNumber (b :: s)).map (none, ·)
  else if b = quote then (skipString s).map (none, ·)
  else if b = openBracket then .ok (some .list, s)
  else if b = openBrace then .ok (some .object, s)
  else .error .malformed

/-- Passes over values until the outermost of the open brackets is closed. -/
def skipLoop : Nat → Expect → List Frame → Bytes → Except Fault Bytes
  | 0, _, _, _ => .error .truncated
  | fuel + 1, expect, frames, s =>
    match expect, frames with
    | .after, [] => .ok s
    | _, _ =>
      match skipBlank s with
      | [] => .error .truncated
      | b :: rest =>
        match expect, frames with
        | .value, _ =>
          match skipStart b rest with
          | .error e => .error e
          | .ok (none, rest) => skipLoop fuel .after frames rest
          | .ok (some frame, rest) => skipLoop fuel .opened (frame :: frames) rest
        | .after, frame :: outer =>
          if b = frame.close then skipLoop fuel .after outer rest
          else if b = comma then
            match frame with
            | .list => skipLoop fuel .value frames rest
            | .object => (skipName rest).bind (skipLoop fuel .value frames)
          else .error .malformed
        | .opened, frame :: outer =>
          if b = frame.close then skipLoop fuel .after outer rest
          else match frame with
            | .list => skipLoop fuel .value frames (b :: rest)
            | .object => (skipName (b :: rest)).bind (skipLoop fuel .value frames)
        | _, [] => .ok s

/-- Passes over one value. Brackets may nest to any depth. -/
def skipValue (s : Bytes) : Except Fault Bytes := skipLoop (2 * s.length + 2) .value [] s

/-! ## Values of one type -/

/-- What is wrong where a value of another type stands. It is read as far as its type shows. -/
def unexpected (s : Bytes) : Fault :=
  match s with
  | [] => .truncated
  | b :: rest =>
    let outcome : Except Fault Unit :=
      if b = letterN then (word afterN rest).map fun _ => ()
      else if b = letterT then (word afterT rest).map fun _ => ()
      else if b = letterF then (word afterF rest).map fun _ => ()
      else if b = minus || isDigit b then (number s).map fun _ => ()
      else if b = quote then (string rest).map fun _ => ()
      else if b = openBracket || b = openBrace then .ok ()
      else .error .malformed
    match outcome with
    | .ok () => .mismatch
    | .error e => e

def text : Reader (List Char) := fun s =>
  match skipBlank s with
  | b :: rest => if b = quote then string rest else .error (unexpected (b :: rest))
  | [] => .error .truncated

def atEnd (s : Bytes) : Except Fault Unit :=
  if (skipBlank s).isEmpty then .ok () else .error .malformed

def whole {α : Type} (r : Reader α) (s : Bytes) : Except Fault α := do
  let (a, rest) ← r s
  atEnd rest
  return a

end TaskBoard.Json
