import TaskBoard.Config.Place

/-!
# Gathered values

What several sources say together. A later source is laid over the ones before it, and each value
knows the source that it comes from.
-/

namespace TaskBoard.Config

open Text

/-- Where a value comes from. -/
inductive Origin where
  | file (name : List Char)
  | environment
deriving DecidableEq, Repr

def Origin.text : Origin → List Char
  | file name => name
  | environment => "the environment".toList

/-- A value with its parts. What has been made on the way to a place has no origin. -/
inductive Tree where
  | leaf (origin : Option Origin) (s : Scalar)
  | list (origin : Option Origin) (items : List Tree)
  | table (origin : Option Origin) (members : List (Name × Tree))

namespace Tree

def origin : Tree → Option Origin
  | leaf origin _ | list origin _ | table origin _ => origin

def missing : Tree := leaf none .null

def members : Tree → List (Name × Tree)
  | table _ members => members
  | leaf _ _ | list _ _ => []

def items : Tree → List Tree
  | list _ items => items
  | leaf _ _ | table _ _ => []

def tableOrigin : Tree → Option Origin
  | table origin _ => origin
  | leaf _ _ | list _ _ => none

def listOrigin : Tree → Option Origin
  | list origin _ => origin
  | leaf _ _ | table _ _ => none

mutual

def ofValue (origin : Origin) : Value → Tree
  | .scalar s => leaf (some origin) s
  | .list items => list (some origin) (ofItems origin items)
  | .table members => table (some origin) (ofMembers origin members)

def ofItems (origin : Origin) : List Value → List Tree
  | [] => []
  | v :: rest => ofValue origin v :: ofItems origin rest

def ofMembers (origin : Origin) : Table → List (Name × Tree)
  | [] => []
  | (name, v) :: rest => (name, ofValue origin v) :: ofMembers origin rest

end

/-! ## Laying one over another -/

/-- Changes the member of a name. What is no table gives way to one. -/
def changeMember (name : Name) (f : Tree → Tree) (t : Tree) : Tree :=
  table t.tableOrigin (putNamed t.members name (f ((t.members.lookup name).getD missing)))

/-- A list that has a position, and the position counted from its start. A list that is too short is
made longer, at its start for a negative position. -/
def reach (items : List Tree) (i : Int) : List Tree × Nat :=
  if 0 ≤ i then (items ++ List.replicate (i.toNat + 1 - items.length) missing, i.toNat)
  else
    let back := (-i).toNat
    (List.replicate (back - items.length) missing ++ items, items.length - back)

/-- Changes the item at a position. What is no list gives way to one. -/
def changeItem (i : Int) (f : Tree → Tree) (t : Tree) : Tree :=
  let (items, k) := reach t.items i
  list t.listOrigin (items.set k (f (items[k]?.getD missing)))

def changeAt : Place → (Tree → Tree) → Tree → Tree
  | [], f, t => f t
  | .name n :: rest, f, t => t.changeMember n (changeAt rest f)
  | .position i :: rest, f, t => t.changeItem i (changeAt rest f)

mutual

/-- The value that stands where `new` is laid over `old`: a table is laid over a table name by name,
and everything else takes the place of what was there. -/
def laidOver (new old : Tree) : Tree :=
  match new with
  | table _ members => membersOver members (table old.tableOrigin old.members)
  | t => t

def membersOver (new : List (Name × Tree)) (old : Tree) : Tree :=
  match new with
  | [] => old
  | (name, t) :: rest => membersOver rest (old.changeMember name (laidOver t))

end

/-- Lays the members of a source over those of the sources before it. Their names are places. -/
def overlay (source : List (Name × Tree)) (old : Tree) : Tree :=
  source.foldl (fun t (name, new) => changeAt (Place.ofText name) (laidOver new) t) old

/-! ## Conversions -/

def found : Tree → List Char
  | leaf _ s => s.found
  | list _ _ => "sequence".toList
  | table _ _ => "map".toList

def lowered : Tree → Tree
  | leaf origin (.text s) => leaf origin (.text (lower s))
  | t => t

def isNegative : Tree → Bool
  | leaf _ (.whole n) => n < 0
  | _ => false

end Tree

/-- Why a value is not taken as one of the type that is wanted. -/
structure Misfit where
  found : List Char
  wanted : String
  origin : Option Origin := none
deriving DecidableEq, Repr

namespace Tree

def as {α : Type} (read : Scalar → Option α) (wanted : String) (t : Tree) : Except Misfit α :=
  let value := match t with
    | leaf _ s => read s
    | list _ _ | table _ _ => none
  match value with
  | some a => .ok a
  | none => .error ⟨t.found, wanted, t.origin⟩

def toText (t : Tree) : Except Misfit (List Char) := t.as Scalar.toText? "a string"

def toTruth (t : Tree) : Except Misfit Bool := t.lowered.as Scalar.toTruth? "a boolean"

def toWhole (t : Tree) : Except Misfit Nat :=
  t.as Scalar.toWhole?
    (if t.isNegative then "an unsigned 64 bit or less integer" else "an integer")

def toBits (bits : Nat) (t : Tree) : Except Misfit Nat := do
  let n ← t.toWhole
  if n < twoTo bits then return n
  throw ⟨described "64-bit unsigned integer" (decimal n), s!"an unsigned {bits} bit integer", none⟩

end Tree

end TaskBoard.Config
