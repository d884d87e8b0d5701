import TaskBoard.Text.Utf8

/-!
# Base64

The standard alphabet with padding. A list of bytes has exactly one encoding: padding has to be
there, and the bits that the last symbol does not use have to be zero.
-/

namespace TaskBoard.Text.Base64

def symbol (n : Nat) : UInt8 :=
  UInt8.ofNat (if n < 26 then 65 + n else if n < 52 then 71 + n else if n < 62 then n - 4
    else if n = 62 then 43 else 47)

def value? (b : UInt8) : Option Nat :=
  let n := b.toNat
  if 65 ≤ n ∧ n ≤ 90 then some (n - 65)
  else if 97 ≤ n ∧ n ≤ 122 then some (n - 71)
  else if 48 ≤ n ∧ n ≤ 57 then some (n + 4)
  else if n = 43 then some 62
  else if n = 47 then some 63
  else none

def pad : UInt8 := 61

/-- Four symbols for each three bytes; the last group may have one byte or two. -/
def encode : Bytes → Bytes
  | a :: b :: c :: s =>
    let n := (a.toNat * 256 + b.toNat) * 256 + c.toNat
    symbol (n / 262144) :: symbol (n / 4096 % 64) :: symbol (n / 64 % 64) :: symbol (n % 64) ::
      encode s
  | [a, b] =>
    let n := (a.toNat * 256 + b.toNat) * 4
    [symbol (n / 4096), symbol (n / 64 % 64), symbol (n % 64), pad]
  | [a] =>
    let n := a.toNat * 16
    [symbol (n / 64), symbol (n % 64), pad, pad]
  | [] => []

inductive DecodeError where
  | invalidByte (offset : Nat) (b : UInt8)
  | invalidLength (length : Nat)
  | invalidPadding
  | invalidLastSymbol (offset : Nat) (b : UInt8)
deriving DecidableEq, Repr

def DecodeError.message : DecodeError → String
  | invalidByte offset b => s!"Invalid symbol {b.toNat}, offset {offset}."
  | invalidLength length => s!"Invalid input length: {length}"
  | invalidPadding => "Invalid padding"
  | invalidLastSymbol offset b => s!"Invalid last symbol {b.toNat}, offset {offset}."

def values (offset : Nat) : Bytes → Except DecodeError (List Nat)
  | [] => .ok []
  | b :: s =>
    match value? b with
    | none => .error (.invalidByte offset b)
    | some v => (values (offset + 1) s).map (v :: ·)

def groups : List Nat → Bytes
  | a :: b :: c :: d :: vs =>
    let n := ((a * 64 + b) * 64 + c) * 64 + d
    UInt8.ofNat (n / 65536) :: UInt8.ofNat (n / 256 % 256) :: UInt8.ofNat (n % 256) :: groups vs
  | _ => []

/-- What is known of the last group after a part of it: its symbols with their values, last one
first, and where its padding starts. -/
structure Tail where
  symbols : List (UInt8 × Nat)
  padded : Option Nat
  pads : Nat
deriving Repr

/-- Reads the last group, byte `i` of it on; the group starts at `start`. -/
def readTail (start i : Nat) (tail : Tail) : Bytes → Except DecodeError Tail
  | [] => .ok tail
  | b :: s =>
    if b = pad then
      if i < 2 then .error (.invalidByte (start + i) b)
      else readTail start (i + 1)
        { tail with padded := some (tail.padded.getD (start + i)), pads := tail.pads + 1 } s
    else
      match tail.padded with
      | some offset => .error (.invalidByte offset pad)
      | none =>
        match value? b with
        | none => .error (.invalidByte (start + i) b)
        | some v => readTail start (i + 1) { tail with symbols := (b, v) :: tail.symbols } s

/-- The bytes of the last group. -/
def tailBytes (start : Nat) (tail : Tail) : Except DecodeError Bytes :=
  let count := tail.symbols.length
  if count < 2 then .error (.invalidLength (start + count))
  else if (count + tail.pads) % 4 ≠ 0 then .error .invalidPadding
  else
    let bits := (tail.symbols.map (·.2)).reverse.foldl (fun n v => n * 64 + v) 0
    match tail.symbols with
    | (b, _) :: _ =>
      if count = 2 then
        if bits % 16 ≠ 0 then .error (.invalidLastSymbol (start + 1) b)
        else .ok [UInt8.ofNat (bits / 16)]
      else if count = 3 then
        if bits % 4 ≠ 0 then .error (.invalidLastSymbol (start + 2) b)
        else .ok [UInt8.ofNat (bits / 1024), UInt8.ofNat (bits / 4 % 256)]
      else
        .ok [UInt8.ofNat (bits / 65536), UInt8.ofNat (bits / 256 % 256), UInt8.ofNat (bits % 256)]
    | [] => .ok []

/-- Where the last group of a text starts; it has one to four bytes. -/
def tailStart (length : Nat) : Nat := (length - 1) / 4 * 4

/-- The byte that a text has left over, if it is one that could not belong to any encoding. -/
def strayByte? (s : Bytes) : Option UInt8 :=
  if s.length % 4 = 1 then s.getLast?.filter fun b => b ≠ pad && (value? b).isNone else none

def decode (s : Bytes) : Except DecodeError Bytes :=
  match s with
  | [] => .ok []
  | _ =>
    match strayByte? s with
    | some b => .error (.invalidByte (s.length - 1) b)
    | none => do
      let start := tailStart s.length
      let body ← values 0 (s.take start)
      let tail ← readTail start 0 ⟨[], none, 0⟩ (s.drop start)
      let last ← tailBytes start tail
      return groups body ++ last

end TaskBoard.Text.Base64
