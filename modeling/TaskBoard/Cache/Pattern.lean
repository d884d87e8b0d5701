import TaskBoard.Cache.Key
import TaskBoard.Text.Glob

/-!
# Invalidation patterns

The glob patterns that cover every key whose answer a write may change.
-/

namespace TaskBoard.Cache

open Text

structure Pattern where
  text : List Char
deriving DecidableEq, Repr

def Pattern.covers (pattern : Pattern) (key : Key) : Bool := Glob.isMatch pattern.text key.text

/-- The pattern of a collection: its version and its resource type, taken literally. -/
def KeySpace.base (space : KeySpace) (path : List Char) : List Char :=
  Glob.escape (space.version path) ++ ':' :: Glob.escape space.resourceType

/-- The patterns of a write, in the order in which they are worked off: all of the collection, the
caller's part of it, the resource written to for every caller, and the bare collection key. -/
def KeySpace.patterns (space : KeySpace) (target : Target) : List Pattern :=
  let base := space.base target.path
  let ofCaller := target.scope.toList.map fun scope =>
    base ++ ':' :: Glob.escape scope ++ [':', '*']
  let ofResource := (resourceId target.path).toList.flatMap fun id =>
    let resource := base ++ [':', '*', ':'] ++ Glob.escape id
    [resource, resource ++ [':', '*']]
  ([base ++ [':', '*']] ++ ofCaller ++ ofResource ++ [base]).map Pattern.mk

end TaskBoard.Cache
