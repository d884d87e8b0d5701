import TaskBoard.Number.Binary64
import TaskBoard.Text.LowerCase
import TaskBoard.Text.Quoted
import TaskBoard.Text.Split

/-!
# Configuration values

What a configuration document holds: scalars, lists and tables. A scalar is taken as a text, a
number or a truth value as far as it can be, and else there is a word for what it is.
-/

namespace TaskBoard.Config

open Text

abbrev Name := List Char

inductive Scalar where
  | null
  | truth (b : Bool)
  | whole (n : Int)
  | real (x : Binary64)
  | text (s : List Char)
deriving DecidableEq, Repr

inductive Value where
  | scalar (s : Scalar)
  | list (items : List Value)
  | table (members : List (Name × Value))

abbrev Table := List (Name × Value)

namespace Value

abbrev null : Value := scalar .null
abbrev truth (b : Bool) : Value := scalar (.truth b)
abbrev whole (n : Int) : Value := scalar (.whole n)
abbrev real (x : Binary64) : Value := scalar (.real x)
abbrev text (s : List Char) : Value := scalar (.text s)

end Value

/-- Gives a name a value, in the place of its old one if it has one. -/
def putNamed {α : Type} (members : List (Name × α)) (name : Name) (a : α) : List (Name × α) :=
  match members with
  | [] => [(name, a)]
  | (n, old) :: rest => if n = name then (n, a) :: rest else (n, old) :: putNamed rest name a

/-! ## Words for values -/

def decimalText (n : Int) : List Char :=
  match n with
  | .ofNat n => decimal n
  | .negSucc n => '-' :: decimal (n + 1)

def truthName (b : Bool) : List Char := if b then "true".toList else "false".toList

def between (mark : Char) (s : List Char) : List Char := mark :: s ++ [mark]

def described (kind : String) (s : List Char) : List Char :=
  kind.toList ++ ' ' :: between '\x60' s

namespace Scalar

/-- What is found where something else is wanted. Numbers that 64 bits hold only without a sign are
told from the others. -/
def found : Scalar → List Char
  | null => "unit value".toList
  | truth b => described "boolean" (truthName b)
  | whole n =>
    described (if n ≤ maxI64 then "64-bit integer" else "64-bit unsigned integer") (decimalText n)
  | real x => described "floating point" x.text
  | text s => "string ".toList ++ quoted s

/-! ## Conversions -/

def toText? : Scalar → Option (List Char)
  | text s => some s
  | truth b => some (truthName b)
  | whole n => some (decimalText n)
  | real x => some x.text
  | null => none

def yesWords : List (List Char) := ["true".toList, "on".toList, "yes".toList]
def noWords : List (List Char) := ["false".toList, "off".toList, "no".toList]

/-- The scalar as a truth value. Every number but zero is true. -/
def toTruth? : Scalar → Option Bool
  | truth b => some b
  | whole n => some (n != 0)
  | real x => some !x.isZero
  | text s =>
    let s := lower s
    if yesWords.contains s || s = ['1'] then some true
    else if noWords.contains s || s = ['0'] then some false
    else none
  | null => none

/-- The scalar as a whole number from zero to `maxU64`. A fraction is rounded, and what is beyond an
end is moved to it. -/
def toWhole? : Scalar → Option Nat
  | truth b => some b.toNat
  | whole n => if 0 ≤ n then some n.toNat else none
  | real x => some (x.toNat maxU64)
  | text s =>
    let word := lower s
    if yesWords.contains word then some 1
    else if noWords.contains word then some 0
    else unsigned? maxU64 s
  | null => none

end Scalar

end TaskBoard.Config
