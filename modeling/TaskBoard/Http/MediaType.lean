import TaskBoard.Http.Request

/-!
# Media types

Reading the value of a `content-type` header. The question asked of it is whether it names JSON.
-/

namespace TaskBoard.Http

structure MediaType where
  kind : List Char
  subkind : List Char
deriving DecidableEq, Repr

namespace MediaType

def isQuotedChar (c : Char) : Bool := c.toNat > 31 && c.toNat != 127

/-- Where the reading of parameters stands. -/
inductive Place where
  /-- Before a name. -/
  | start
  | name
  /-- After the equals sign. -/
  | value
  | plain
  /-- After the opening quote. -/
  | opened
  | quoted
  /-- After the closing quote. -/
  | closed
deriving DecidableEq, Repr

def Place.next (place : Place) (c : Char) : Option Place :=
  match place with
  | .start => if c = ' ' then some .start else if isTokenChar c then some .name else none
  | .name => if c = '=' then some .value else if isTokenChar c then some .name else none
  | .value => if c = '"' then some .opened else if isTokenChar c then some .plain else none
  | .plain => if c = ';' then some .start else if isTokenChar c then some .plain else none
  | .opened => if isQuotedChar c then some .quoted else none
  | .quoted => if c = '"' then some .closed else if isQuotedChar c then some .quoted else none
  | .closed => if c = ';' then some .start else if c = ' ' then some .closed else none

/-- The places where the parameters may end. -/
def Place.mayEnd : Place → Bool
  | .start | .value | .plain | .closed => true
  | .name | .opened | .quoted => false

def areParameters (s : List Char) : Bool :=
  match s.foldlM Place.next .start with
  | some place => place.mayEnd
  | none => false

/-- A type, a slash, a subtype, and parameters after a semicolon. -/
def parse? (s : List Char) : Option MediaType :=
  match Text.splitFirst? '/' s with
  | none => none
  | some (kind, rest) =>
    let (subkind, parameters) := (Text.splitFirst? ';' rest).getD (rest, [])
    let hasParameters := rest.contains ';'
    if !kind.isEmpty && kind.all isTokenChar && subkind.all isTokenChar &&
        (!hasParameters || (!subkind.isEmpty && areParameters parameters)) then
      some ⟨kind.map Char.toLower, subkind.map Char.toLower⟩
    else none

/-- The subtype before its last plus sign, and the suffix after it. A plus sign at the start does
not count. -/
def suffixed (subkind : List Char) : List Char × Option (List Char) :=
  match Text.splitFirst? '+' subkind.reverse with
  | some (suffix, base) =>
    if base.isEmpty then (subkind, none) else (base.reverse, some suffix.reverse)
  | none => (subkind, none)

def isJson (m : MediaType) : Bool :=
  let (base, suffix) := suffixed m.subkind
  m.kind = "application".toList && (base = "json".toList || suffix = some "json".toList)

end MediaType

def Request.hasJson (r : Request) : Bool :=
  match ((firstValue? r.headers contentType).bind headerText?).bind MediaType.parse? with
  | some m => m.isJson
  | none => false

end TaskBoard.Http
