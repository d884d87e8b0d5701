import TaskBoard.Text.Numeral
import TaskBoard.Text.Split

/-!
# Socket addresses

An address of version 4 or 6 and a port: how they are read and written.
-/

namespace TaskBoard.Net

open Text

/-- The address of a host. Version 4 has four bytes, version 6 has eight words and a zone. -/
inductive HostAddress where
  | v4 (bytes : List Nat)
  | v6 (words : List Nat) (zone : Nat)
deriving DecidableEq, Repr

structure SocketAddress where
  host : HostAddress
  port : Nat
deriving DecidableEq, Repr

/-! ## Reading -/

/-- A byte: up to three digits, without zeros before other digits. -/
def byte? (s : List Char) : Option Nat := do
  if s.length > 3 || (s.length > 1 && s.head? = some '0') then none
  let n ← digits? s
  if n < 256 then some n else none

def v4? (s : List Char) : Option (List Nat) := do
  let bytes ← (splitAll '.' s).mapM byte?
  if bytes.length = 4 then some bytes else none

def word? (s : List Char) : Option Nat :=
  if s.isEmpty || s.length > 4 then none
  else s.foldl (fun n c => do
    let n ← n
    if c.toNat < 0x80 then (hexValue? c.val.toUInt8).map (16 * n + ·) else none) (some 0)

/-- The words of an address of version 4 within one of version 6. -/
def wordsOfV4 : List Nat → List Nat
  | a :: b :: rest => (256 * a + b) :: wordsOfV4 rest
  | _ => []

/-- Words with colons between them. The last two may be written as an address of version 4. -/
def words? : List (List Char) → Option (List Nat)
  | [] => some []
  | [last] =>
    match v4? last with
    | some bytes => some (wordsOfV4 bytes)
    | none => (word? last).map ([·])
  | part :: rest => do
    let word ← word? part
    let words ← words? rest
    some (word :: words)

def splitGap? : List Char → Option (List Char × List Char)
  | ':' :: ':' :: s => some ([], s)
  | c :: s => (splitGap? s).map fun (before, after) => (c :: before, after)
  | [] => none

def partsOf (s : List Char) : List (List Char) := if s.isEmpty then [] else splitAll ':' s

/-- Eight words, or fewer with a gap for at least one word of zero. -/
def v6? (s : List Char) : Option (List Nat) :=
  match splitGap? s with
  | none => do
    let words ← words? (splitAll ':' s)
    if words.length = 8 then some words else none
  | some (before, after) => do
    let front ← (partsOf before).mapM word?
    let back ← words? (partsOf after)
    let known := front.length + back.length
    if known ≤ 7 then some (front ++ List.replicate (8 - known) 0 ++ back) else none

def bounded? (max : Nat) (s : List Char) : Option Nat := (digits? s).filter (· ≤ max)

/-- What stands in the brackets of an address of version 6: its words, and a zone or none. -/
def bracketed? (s : List Char) : Option HostAddress :=
  match splitFirst? '%' s with
  | some (words, zone) => do
    let words ← v6? words
    let zone ← bounded? maxU32 zone
    some (.v6 words zone)
  | none => (v6? s).map (.v6 · 0)

def SocketAddress.parse? (s : List Char) : Option SocketAddress :=
  match s with
  | '[' :: s => do
    let (inside, rest) ← splitFirst? ']' s
    let host ← bracketed? inside
    match rest with
    | ':' :: port => do some ⟨host, ← bounded? maxU16 port⟩
    | _ => none
  | s => do
    let (host, port) ← splitFirst? ':' s
    some ⟨.v4 (← v4? host), ← bounded? maxU16 port⟩

/-! ## Writing -/

def v4Text (bytes : List Nat) : List Char := ['.'].intercalate (bytes.map decimal)

def wordsText (words : List Nat) : List Char := [':'].intercalate (words.map (Nat.toDigits 16))

def zeros (words : List Nat) : Nat := (words.takeWhile (· = 0)).length

/-- The start and the length of the longest run of zeros, the first of those that are as long. -/
def longestGap : Nat → List Nat → Nat × Nat
  | _, [] => (0, 0)
  | start, word :: words =>
    let here := zeros (word :: words)
    let later := longestGap (start + 1) words
    if here ≥ later.2 then (start, here) else later

/-- The words of an address of version 4, if that is what they hold. -/
def mapped? : List Nat → Option (List Nat)
  | [0, 0, 0, 0, 0, 0xFFFF, a, b] => some [a / 256, a % 256, b / 256, b % 256]
  | _ => none

/-- The longest run of two or more zeros is left out. -/
def v6Text (words : List Nat) : List Char :=
  match mapped? words with
  | some bytes => "::ffff:".toList ++ v4Text bytes
  | none =>
    let (start, length) := longestGap 0 words
    if length > 1 then
      wordsText (words.take start) ++ [':', ':'] ++ wordsText (words.drop (start + length))
    else wordsText words

def SocketAddress.text (a : SocketAddress) : List Char :=
  let host := match a.host with
    | .v4 bytes => v4Text bytes
    | .v6 words zone =>
      let zoneText := if zone = 0 then [] else '%' :: decimal zone
      '[' :: v6Text words ++ zoneText ++ [']']
  host ++ ':' :: decimal a.port

end TaskBoard.Net
