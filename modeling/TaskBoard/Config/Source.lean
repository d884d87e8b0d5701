import TaskBoard.Config.Format
import TaskBoard.Config.Raw
import TaskBoard.Files

/-!
# Configuration sources

The files and variables that a configuration is gathered from. A later source is laid over the ones
before it.
-/

namespace TaskBoard.Config

open Text

structure Variable where
  name : List Char
  value : List Char
deriving DecidableEq, Repr

/-- Why the sources hold no settings. -/
inductive SourceFault where
  /-- No file has the name. -/
  | missing (name : List Char)
  /-- The suffix of a file names no format. -/
  | unknownFormat (name : List Char)
  /-- The contents of a file are no document of its format. -/
  | malformed (why : Misread) (origin : Origin)
  /-- A document holds something else than a table. -/
  | notTable (found : List Char) (origin : Origin)
  | mismatch (m : Mismatch)
deriving DecidableEq, Repr

def SourceFault.message : SourceFault → List Char
  | missing name => "configuration file ".toList ++ between '"' name ++ " not found".toList
  | unknownFormat name =>
    "configuration file ".toList ++ between '"' name ++
      " is not of a registered file format".toList
  | malformed why origin => why.message ++ " in ".toList ++ origin.text
  | notTable found origin =>
    let place := " in ".toList ++ origin.text
    "invalid type: ".toList ++ found ++ ", expected a map".toList ++ place ++ place
  | mismatch m => m.message

/-! ## Files -/

abbrev Files := List Char → Option Bytes

/-- What stands after the last point of a name, unless the name starts with that point. -/
def suffixOf (name : List Char) : List Char :=
  let last := name.reverse.takeWhile (· != '.')
  if last.length + 1 < name.length then last.reverse else []

/-- The name with a suffix after its last part that leads somewhere. -/
def withSuffix? (name suffix : List Char) : Option (List Char) :=
  match (splitAll '/' name).reverse.dropWhile File.isIdle with
  | [] => none
  | last :: before =>
    if last = ['.', '.'] then none
    else some (['/'].intercalate ((last ++ '.' :: suffix) :: before).reverse)

/-- The name with each suffix in turn, and the format of that suffix. -/
def suffixedNames (name : List Char) : List (Format × List Char) :=
  Format.all.flatMap fun format =>
    format.suffixes.filterMap fun suffix => (withSuffix? name suffix).map (format, ·)

/-- A file that has been found. -/
structure Found where
  name : List Char
  format : Format
  contents : Bytes

/-- The file of a name. A name that no file has may lack its suffix. -/
def find (files : Files) (name : List Char) : Except SourceFault Found :=
  match files name with
  | some contents =>
    let last := (splitAll '/' name).getLastD []
    match Format.ofSuffix? (suffixOf last) with
    | some format => .ok ⟨name, format, contents⟩
    | none => .error (.unknownFormat name)
  | none =>
    let found? := (suffixedNames name).findSome? fun (format, name) =>
      (files name).map fun contents => ⟨name, format, contents⟩
    match found? with
    | some found => .ok found
    | none => .error (.missing name)

/-- The name by which an origin is known: without parts that lead nowhere. -/
def Found.origin (found : Found) : Origin :=
  let parts := (splitAll '/' found.name).filter (!File.isIdle ·)
  .file (['/'].intercalate parts)

def Found.text (found : Found) : List Char :=
  match Utf8.decodeLossy found.contents with
  | '\uFEFF' :: s => s
  | s => s

def Found.members (found : Found) : Except SourceFault (List (Name × Tree)) :=
  match (found.format.read found.text).map (Tree.ofValue found.origin) with
  | .error why => .error (.malformed why found.origin)
  | .ok (.table _ members) => .ok members
  | .ok t => .error (.notTable t.found found.origin)

/-- Lays a file over what was gathered. It may be missing unless it must be there. -/
def overlayFile (files : Files) (mustBe : Bool) (old : Tree) (name : List Char) :
    Except SourceFault Tree :=
  match find files name with
  | .ok found => (found.members).map (Tree.overlay · old)
  | .error e => if mustBe then .error e else .ok old

/-! ## Variables -/

/-- The start of the names of variables that hold settings, in lower case. -/
def variableStart : List Char := "taskdeck__".toList

def withPoints : List Char → List Char
  | '_' :: '_' :: s => '.' :: withPoints s
  | c :: s => c :: withPoints s
  | [] => []

/-- The setting that a variable holds. Letters count in either case. -/
def Variable.setting? (v : Variable) : Option (Name × Tree) :=
  (after? variableStart (lower v.name)).map fun name =>
    (withPoints name, .leaf (some .environment) (.text v.value))

/-! ## All of them -/

/-- The file of the settings that come with the service, and the file of those of a place. -/
def standardNames : List (List Char) := ["config/default".toList, "taskdeck".toList]

/-- Gathers all sources, in the order: the two standard files, the file that was asked for, the
variables. -/
def gather (files : Files) (asked : Option (List Char)) (environment : List Variable) :
    Except SourceFault Tree := do
  let t ← standardNames.foldlM (overlayFile files false) (.table none [])
  let t ← match asked with
    | some name => overlayFile files true t name
    | none => pure t
  return Tree.overlay (environment.filterMap Variable.setting?) t

def readRaw (files : Files) (asked : Option (List Char)) (environment : List Variable) :
    Except SourceFault Raw := do
  (Raw.ofTree (← gather files asked environment)).mapError .mismatch

def namesToRead (asked : Option (List Char)) : List (List Char) :=
  (standardNames ++ asked.toList).flatMap fun name => name :: (suffixedNames name).map (·.2)

end TaskBoard.Config
