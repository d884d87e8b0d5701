/-!
# UTF-8

Texts are lists of characters, bodies are lists of bytes, and this module joins the two: a text
has one encoding, and a list of bytes is read either strictly or with U+FFFD in the place of what
is no character.
-/

namespace TaskBoard

abbrev Bytes := List UInt8

namespace Text.Utf8

def encode (s : List Char) : Bytes := s.flatMap String.utf8EncodeChar

def isContinuation (b : UInt8) : Bool := 0x80 ≤ b && b ≤ 0xBF

/-- The second bytes that may follow a first byte of three: no overlong form, no surrogate. -/
def secondOfThree (lead b : UInt8) : Bool :=
  if lead = 0xE0 then 0xA0 ≤ b && b ≤ 0xBF
  else if lead = 0xED then 0x80 ≤ b && b ≤ 0x9F
  else isContinuation b

/-- The second bytes that may follow a first byte of four: no overlong form, nothing past
U+10FFFF. -/
def secondOfFour (lead b : UInt8) : Bool :=
  if lead = 0xF0 then 0x90 ≤ b && b ≤ 0xBF
  else if lead = 0xF4 then 0x80 ≤ b && b ≤ 0x8F
  else isContinuation b

def low6 (b : UInt8) : Nat := b.toNat % 64

/-- The first character of `lead :: s` and the bytes after it. Where no character begins there, the
answer is `none` and the bytes after the longest beginning of one. -/
def step (lead : UInt8) (s : Bytes) : Option Char × Bytes :=
  if lead < 0x80 then (some (Char.ofNat lead.toNat), s)
  else if 0xC2 ≤ lead && lead ≤ 0xDF then
    match s with
    | b :: s₁ =>
      if isContinuation b then (some (Char.ofNat (lead.toNat % 32 * 64 + low6 b)), s₁)
      else (none, s)
    | [] => (none, s)
  else if 0xE0 ≤ lead && lead ≤ 0xEF then
    match s with
    | b :: s₁ =>
      if secondOfThree lead b then
        match s₁ with
        | c :: s₂ =>
          if isContinuation c then
            (some (Char.ofNat ((lead.toNat % 16 * 64 + low6 b) * 64 + low6 c)), s₂)
          else (none, s₁)
        | [] => (none, s₁)
      else (none, s)
    | [] => (none, s)
  else if 0xF0 ≤ lead && lead ≤ 0xF4 then
    match s with
    | b :: s₁ =>
      if secondOfFour lead b then
        match s₁ with
        | c :: s₂ =>
          if isContinuation c then
            match s₂ with
            | d :: s₃ =>
              if isContinuation d then
                let high := (lead.toNat % 8 * 64 + low6 b) * 64 + low6 c
                (some (Char.ofNat (high * 64 + low6 d)), s₃)
              else (none, s₂)
            | [] => (none, s₂)
          else (none, s₁)
        | [] => (none, s₁)
      else (none, s)
    | [] => (none, s)
  else (none, s)

theorem step_length_le (lead : UInt8) (s : Bytes) : (step lead s).2.length ≤ s.length := by
  unfold step
  repeat' split
  all_goals simp_all <;> omega

/-- Reads bytes as text, with U+FFFD for each longest beginning of a character that is not one. -/
def decodeLossy : Bytes → List Char
  | [] => []
  | b :: s => (step b s).1.getD '\uFFFD' :: decodeLossy (step b s).2
termination_by s => s.length
decreasing_by have := step_length_le b s; simp only [List.length_cons]; omega

/-- Reads bytes onto the end of a text that is held in reverse. -/
def decodeOnto (done : List Char) : Bytes → Option (List Char)
  | [] => some done.reverse
  | b :: s =>
    match (step b s).1 with
    | some c => decodeOnto (c :: done) (step b s).2
    | none => none
termination_by s => s.length
decreasing_by have := step_length_le b s; simp only [List.length_cons]; omega

def decode? (s : Bytes) : Option (List Char) := decodeOnto [] s

end Text.Utf8

end TaskBoard
