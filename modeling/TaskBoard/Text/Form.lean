import TaskBoard.Text.Split
import TaskBoard.Text.Numeral
import TaskBoard.Text.Utf8

/-!
# Form queries

The pairs of a query in the `application/x-www-form-urlencoded` format. Decoding never fails: a
stray `%` stays as it is, and bytes that are no UTF-8 become U+FFFD.
-/

namespace TaskBoard.Text.Form

def ampersand : UInt8 := 38
def equals : UInt8 := 61
def plus : UInt8 := 43
def percent : UInt8 := 37
def space : UInt8 := 32

/-- Replaces each `%` with two hexadecimal digits after it by the byte that they name. -/
def percentDecode : Bytes → Bytes
  | b :: h :: l :: s =>
    if b = percent then
      match hexValue? h, hexValue? l with
      | some x, some y => UInt8.ofNat (16 * x + y) :: percentDecode s
      | _, _ => b :: percentDecode (h :: l :: s)
    else b :: percentDecode (h :: l :: s)
  | s => s
termination_by s => s.length

/-- The text of a name or a value: `+` is a space, and `%XX` is a byte. -/
def decode (s : Bytes) : List Char :=
  Utf8.decodeLossy (percentDecode (s.map fun b => if b = plus then space else b))

/-- The name and the value of one piece. Without `=` the value is empty. -/
def pair (piece : Bytes) : List Char × List Char :=
  match splitFirst? equals piece with
  | some (name, value) => (decode name, decode value)
  | none => (decode piece, [])

/-- The pairs of a query in their order. Empty pieces are none. -/
def parse (query : List Char) : List (List Char × List Char) :=
  ((splitAll ampersand (Utf8.encode query)).filter (!·.isEmpty)).map pair

end TaskBoard.Text.Form
