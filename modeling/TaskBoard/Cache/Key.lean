import TaskBoard.Text.Form
import TaskBoard.Text.Blank

/-!
# Cache keys

A read is stored under a key made of the version and the resource type, then the caller, the
resource id and the query, as far as the request has them, joined by colons.
-/

namespace TaskBoard.Cache

/-- What a key depends on: the path and the query as they stand in the request, and the caller. -/
structure Target where
  path : List Char
  query : Option (List Char)
  scope : Option (List Char)
deriving DecidableEq, Repr

structure KeySpace where
  defaultVersion : List Char
  resourceType : List Char
deriving DecidableEq, Repr

structure Key where
  text : List Char
deriving DecidableEq, Repr

def segments (path : List Char) : List (List Char) :=
  Text.splitAll '/' (Text.trimBy (· = '/') path)

def segment? (i : Nat) (path : List Char) : Option (List Char) :=
  (segments path)[i]?.filter (!·.isEmpty)

/-- The second segment of the path names the version. -/
def KeySpace.version (space : KeySpace) (path : List Char) : List Char :=
  (segment? 1 path).getD space.defaultVersion

/-- The fourth segment of the path names one resource. -/
def resourceId (path : List Char) : Option (List Char) := segment? 3 path

/-- The query parameters that an answer may depend on, in the order in which a key holds them. -/
def keyedParams : List (List Char) :=
  ["limit".toList, "order".toList, "page".toList, "sort".toList, "status".toList]

def isKeyed (name : List Char) : Bool := keyedParams.contains name

/-- Whether decoding a pair lost nothing. -/
def isReadable (pair : List Char × List Char) : Bool :=
  !pair.1.contains '\uFFFD' && !pair.2.contains '\uFFFD'

def readablePairs (query : Option (List Char)) : List (List Char × List Char) :=
  (Text.Form.parse (query.getD [])).filter isReadable

def param (name : List Char) (query : Option (List Char)) : Option (List Char) :=
  (readablePairs query).lookup name

/-- The keyed parameters of a query with their first values, sorted by name. -/
def selected (query : Option (List Char)) : List (List Char × List Char) :=
  keyedParams.filterMap fun name => (param name query).map (name, ·)

/-- The text of a query in a key: what it selects, or nothing if it selects nothing. -/
def normalizedQuery (query : Option (List Char)) : Option (List Char) :=
  match selected query with
  | [] => none
  | pairs => some (['&'].intercalate (pairs.map fun (name, value) => name ++ '=' :: value))

def KeySpace.components (space : KeySpace) (target : Target) : List (List Char) :=
  [space.version target.path, space.resourceType] ++ target.scope.toList ++
    (resourceId target.path).toList ++ (normalizedQuery target.query).toList

def KeySpace.key (space : KeySpace) (target : Target) : Key :=
  ⟨[':'].intercalate (space.components target)⟩

end TaskBoard.Cache
