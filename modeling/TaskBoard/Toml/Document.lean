import TaskBoard.Toml.Scalar

/-!
# TOML documents

A document is a table. A table may be begun once, in one of three ways: by its own header, by the
header of a table within it, or by a key with points; and what is in a value stays as it is.
-/

namespace TaskBoard.Toml

open Text Config

inductive Origin where
  | implied
  | headed
  | dotted
deriving DecidableEq, Repr

inductive Node where
  | value (v : Value)
  | table (origin : Origin) (members : List (Name × Node))
  | tables (items : List (List (Name × Node)))

abbrev Nodes := List (Name × Node)

def put (name : Name) (node : Node) (members : Nodes) : Nodes :=
  match members with
  | [] => [(name, node)]
  | (n, old) :: rest => if n = name then (n, node) :: rest else (n, old) :: put name node rest

def inLast (f : Nodes → Option Nodes) (items : List Nodes) : Option (List Nodes) := do
  let last ← items.getLast?
  let last ← f last
  some (items.dropLast ++ [last])

/-- Changes the table at a path that headers have led to, and makes the tables on the way. -/
def within (path : List Name) (f : Nodes → Option Nodes) (members : Nodes) : Option Nodes :=
  match path with
  | [] => f members
  | name :: path =>
    match members.lookup name with
    | none => (within path f []).map fun inner => put name (.table .implied inner) members
    | some (.table origin inner) =>
      (within path f inner).map fun inner => put name (.table origin inner) members
    | some (.tables items) =>
      (inLast (within path f) items).map fun items => put name (.tables items) members
    | some (.value _) => none

def beginTable (name : Name) (members : Nodes) : Option Nodes :=
  match members.lookup name with
  | none => some (put name (.table .headed []) members)
  | some (.table .implied inner) => some (put name (.table .headed inner) members)
  | some _ => none

def beginItem (name : Name) (members : Nodes) : Option Nodes :=
  match members.lookup name with
  | none => some (put name (.tables [[]]) members)
  | some (.tables items) => some (put name (.tables (items ++ [[]])) members)
  | some _ => none

/-- Gives a key its value. The last table that a key with points leads to is one that such a key has
begun, and the tables before it are ones that no header of their own has begun. -/
def assign (key : List Name) (v : Value) (members : Nodes) : Option Nodes :=
  match key with
  | [] => none
  | [name] => if (members.lookup name).isSome then none else some (put name (.value v) members)
  | name :: key =>
    match members.lookup name with
    | none => (assign key v []).map fun inner => put name (.table .dotted inner) members
    | some (.table .dotted inner) =>
      (assign key v inner).map fun inner => put name (.table .dotted inner) members
    | some (.table .implied inner) =>
      if key.length = 1 then none
      else (assign key v inner).map fun inner => put name (.table .implied inner) members
    | some (.tables items) =>
      if key.length = 1 then none
      else (inLast (assign key v) items).map fun items => put name (.tables items) members
    | some (.table .headed _) | some (.value _) => none

mutual

def Node.toValue : Node → Value
  | .value v => v
  | .table _ members => .table (toTable members)
  | .tables items => .list (toTables items)

def toTable : Nodes → Table
  | [] => []
  | (name, node) :: rest => (name, node.toValue) :: toTable rest

def toTables : List Nodes → List Value
  | [] => []
  | members :: rest => .table (toTable members) :: toTables rest

end

/-! ## Values -/

mutual

/-- A value. `fuel` bounds the steps, `depth` the brackets that may still be opened. -/
def value : Nat → Nat → Reader Value
  | 0, _, _ => none
  | fuel + 1, depth, s =>
    match s with
    | '[' :: s => if depth = 0 then none else (items fuel (depth - 1) [] s)
    | '\x7b' :: s => if depth = 0 then none else (entries fuel (depth - 1) [] s)
    | '"' :: _ => (string? s).map fun (text, s) => (.text text, s)
    | '\'' :: _ => (string? s).map fun (text, s) => (.text text, s)
    | s => scalar s

/-- The items of a list up to its bracket. A comma may stand after the last one. -/
def items : Nat → Nat → List Value → Reader Value
  | 0, _, _, _ => none
  | fuel + 1, depth, done, s => do
    let s ← skipGap s
    match s with
    | ']' :: s => some (.list done.reverse, s)
    | s =>
      let (v, s) ← value fuel depth s
      let s ← skipGap s
      match s with
      | ',' :: s => items fuel depth (v :: done) s
      | ']' :: s => some (.list (v :: done).reverse, s)
      | _ => none

/-- The entries of a table in a value up to its brace. Line ends and comments may stand around each
key and each value, and a comma after the last one. -/
def entries : Nat → Nat → Nodes → Reader Value
  | 0, _, _, _ => none
  | fuel + 1, depth, done, s => do
    let s ← skipGap s
    match s with
    | '\x7d' :: s => some (.table (toTable done), s)
    | s =>
      let (key, s) ← key s
      let s ← mark? '=' (← skipGap s)
      let (v, s) ← value fuel depth (← skipGap s)
      let done ← assign key v done
      let s ← skipGap s
      match s with
      | ',' :: s => entries fuel depth done s
      | '\x7d' :: s => some (.table (toTable done), s)
      | _ => none

end

/-! ## Lines -/

/-- A document that has been read in part: its tables, and the path to the one that keys go to. -/
structure Progress where
  nodes : Nodes := []
  path : List Name := []

def splitKey? (key : List Name) : Option (List Name × Name) :=
  key.getLast?.map fun name => (key.dropLast, name)

/-- Reads one line, from its first character that is not blank on. -/
def line (draft : Progress) (s : List Char) : Option (Progress × List Char) :=
  match s with
  | '[' :: '[' :: s => do
    let (key, s) ← key s
    let s ← mark? ']' s
    let s ← mark? ']' s
    let (path, name) ← splitKey? key
    let nodes ← within path (beginItem name) draft.nodes
    some (⟨nodes, key⟩, s)
  | '[' :: s => do
    let (key, s) ← key s
    let s ← mark? ']' s
    let (path, name) ← splitKey? key
    let nodes ← within path (beginTable name) draft.nodes
    some (⟨nodes, key⟩, s)
  | s => do
    let (key, s) ← key s
    let s ← mark? '=' s
    let s := skipSpaces s
    let (v, s) ← value (2 * s.length + 2) maxDepth s
    let nodes ← within draft.path (assign key v) draft.nodes
    some (⟨nodes, draft.path⟩, s)

def lines : Nat → Progress → List Char → Option Progress
  | 0, _, _ => none
  | fuel + 1, draft, s => do
    let s ← skipGap s
    match s with
    | [] => some draft
    | s =>
      let (draft, s) ← line draft s
      let s ← endLine s
      lines fuel draft s

/-- Reads a document. A byte order mark may stand before it. -/
def parse? (s : List Char) : Option Table :=
  let s := match s with
    | '\uFEFF' :: s => s
    | s => s
  (lines (s.length + 1) {} s).map fun draft => toTable draft.nodes

end TaskBoard.Toml
