import TaskBoard.Text.Split

/-!
# Identifiers

A UUID is known by its 32 hexadecimal digits in lower case. It is written with hyphens, and read in
four forms and in either case.
-/

namespace TaskBoard

def isLowerHex (c : Char) : Bool := ('0' ≤ c && c ≤ '9') || ('a' ≤ c && c ≤ 'f')

structure Uuid where
  digits : List Char
  length_eq : digits.length = 32
  all_hex : digits.all isLowerHex = true
deriving DecidableEq, Repr

namespace Uuid

def ofDigits? (s : List Char) : Option Uuid :=
  let digits := s.map Char.toLower
  if h : digits.length = 32 ∧ digits.all isLowerHex = true then some ⟨digits, h.1, h.2⟩ else none

def partLengths : List Nat := [8, 4, 4, 4, 12]

def ofHyphenated? (s : List Char) : Option Uuid :=
  let parts := Text.splitAll '-' s
  if parts.map List.length = partLengths then ofDigits? parts.flatten else none

def urnStart : List Char := "urn:uuid:".toList

/-- Reads the digits alone, with hyphens, with hyphens in braces, or with hyphens as a URN. -/
def parse? (s : List Char) : Option Uuid :=
  if s.length = 32 then ofDigits? s
  else if s.length = 36 then ofHyphenated? s
  else if s.length = 38 then
    if s.head? = some '\x7b' ∧ s.getLast? = some '\x7d' then ofHyphenated? (s.drop 1).dropLast
    else none
  else if s.length = 45 then
    if (s.take 9).map Char.toLower = urnStart then ofHyphenated? (s.drop 9) else none
  else none

def text (u : Uuid) : List Char :=
  let d := u.digits
  d.take 8 ++ '-' :: (d.drop 8).take 4 ++ '-' :: (d.drop 12).take 4 ++ '-' :: (d.drop 16).take 4 ++
    '-' :: d.drop 20

end Uuid

end TaskBoard
