import TaskBoard.Config.Value
import TaskBoard.Number.Decimal
import TaskBoard.Text.Reader

/-!
# YAML nodes

What a YAML document is made of, and the value that it stands for. A node may be given a name, and a
later node may refer to it.
-/

namespace TaskBoard.Yaml

open Text Config

/-- What a scalar is to be taken as. Every tag but those of the four kinds makes it a text. -/
inductive Tag where
  | null
  | truth
  | whole
  | real
  | text
deriving DecidableEq, Repr

inductive Node where
  | scalar (isPlain : Bool) (tag : Option Tag) (s : List Char)
  | list (items : List Node)
  | table (entries : List (Node × Node))
  | named (name : Name) (node : Node)
  | alias (name : Name)

def Node.empty : Node := .scalar true none []

/-! ## Scalars -/

structure Item where
  value : Value
  name? : Option Name := none

def Item.null : Item := ⟨.null, none⟩

def Item.ofText (s : List Char) : Item := ⟨.text s, some s⟩

def Item.ofTruth (b : Bool) : Item := ⟨.truth b, some (truthName b)⟩

def Item.ofWhole (n : Int) : Item := ⟨.whole n, some (decimalText n)⟩

def whole? : List Char → Option Int := signed? minI64 maxI64

def based? (base : Nat) (isDigit : Char → Bool) (s : List Char) : Option Int :=
  let (negative, s) := Binary64.splitSign s
  if s.isEmpty || !s.all isDigit then none
  else
    let n : Int := if negative then -(valueIn base s : Int) else valueIn base s
    if minI64 ≤ n ∧ n ≤ maxI64 then some n else none

/-- A whole number with a mark of its base or a plus sign before it, or with neither. -/
def wholeNumber? (s : List Char) : Option Int :=
  let marked? := match s with
    | '0' :: 'x' :: s => based? 16 isHexDigit s
    | '0' :: 'o' :: s => based? 8 (fun c => '0' ≤ c && c ≤ '7') s
    | '+' :: s => whole? s
    | _ => none
  marked?.orElse fun _ => whole? s

/-- Words for numbers that are not finite. They name no value that a setting may have. -/
def isBeyondReals (s : List Char) : Bool :=
  [".inf", ".Inf", ".INF"].any (·.toList = (Binary64.splitSign s).2) ||
    [".nan", ".NaN", ".NAN"].any (·.toList = s)

/-- The value of a number with a point or an exponent. As a key it is what is written. -/
def realItem? (s : List Char) : Option Item :=
  (Binary64.ofText? s).map fun x => ⟨.real x, some s⟩

def nullWords : List (List Char) := [[], ['~'], "null".toList]

def untagged? (s : List Char) : Option Item :=
  if nullWords.contains s then some .null
  else if s = truthName true then some (.ofTruth true)
  else if s = truthName false then some (.ofTruth false)
  else match wholeNumber? s with
    | some n => some (.ofWhole n)
    | none => if isBeyondReals s then none else some ((realItem? s).getD (.ofText s))

/-- What a scalar without quotes stands for. One that is not of the kind of its tag is nothing. -/
def plainItem? (tag : Option Tag) (s : List Char) : Option Item :=
  match tag with
  | none => untagged? s
  | some .null => some .null
  | some .truth =>
    if s = truthName true then some (.ofTruth true)
    else if s = truthName false then some (.ofTruth false)
    else some .null
  | some .whole => some (((whole? s).map .ofWhole).getD .null)
  | some .real => if isBeyondReals s then none else some ((realItem? s).getD .null)
  | some .text => some (.ofText s)

/-! ## Values -/

abbrev Names := List (Name × Item)

def putNew? (done : Table) (name : Name) (v : Value) : Option Table :=
  if (done.lookup name).isSome then none else some (done ++ [(name, v)])

mutual

/-- What a node stands for, given what the names before it stand for. Within the node that a name is
given to, the name stands for nothing. -/
def Node.item? (names : Names) : Node → Option (Item × Names)
  | .scalar isPlain tag s => do
    some (← if isPlain then plainItem? tag s else some (.ofText s), names)
  | .list items => do
    let (values, names) ← items? names items
    some (⟨.list values, none⟩, names)
  | .table entries => do
    let (members, names) ← members? names [] entries
    some (⟨.table members, none⟩, names)
  | .named name node => do
    let (item, names) ← node.item? (putNamed names name .null)
    some (item, putNamed names name item)
  | .alias name => do some (← names.lookup name, names)

def items? (names : Names) : List Node → Option (List Value × Names)
  | [] => some ([], names)
  | node :: rest => do
    let (item, names) ← node.item? names
    let (values, names) ← items? names rest
    some (item.value :: values, names)

/-- The members of a table, after those before them. A key stands in a table once. -/
def members? (names : Names) (done : Table) : List (Node × Node) → Option (Table × Names)
  | [] => some (done, names)
  | (key, node) :: rest => do
    let (key, names) ← key.item? names
    let (item, names) ← node.item? names
    members? names (← putNew? done (← key.name?) item.value) rest

end

def Node.value? (node : Node) : Option Value := (node.item? []).map (·.1.value)

end TaskBoard.Yaml
