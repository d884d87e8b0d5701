import TaskBoard.Task.Basic
import TaskBoard.Text.Form

/-!
# The query of a task list
-/

namespace TaskBoard.Api

/-- What a query asks for: the first value of each parameter, if it can be used. -/
structure ListQuery where
  status : Option (List Char)
  page : Option Nat
  limit : Option Nat
deriving DecidableEq, Repr

namespace ListQuery

def number? (s : List Char) : Option Nat := Text.unsigned? Text.maxU32 (Text.trim s)

def parse (query : Option (List Char)) : ListQuery :=
  let pairs := Text.Form.parse (query.getD [])
  let first (name : String) := pairs.lookup name.toList
  { status := (first "status").filter (!·.isEmpty)
    page := (first "page").bind number?
    limit := (first "limit").bind number? }

end ListQuery

end TaskBoard.Api
