import TaskBoard.Text.Blank
import TaskBoard.Time.Moment
import TaskBoard.Uuid

/-!
# Tasks

A task, the draft that it is made from, and the changes that are made to it.
-/

namespace TaskBoard

open Time

inductive Status where
  | pending
  | inProgress
  | completed
  | cancelled
deriving DecidableEq, Repr

namespace Status

def name : Status → String
  | pending => "pending"
  | inProgress => "in_progress"
  | completed => "completed"
  | cancelled => "cancelled"

def all : List Status := [pending, inProgress, completed, cancelled]

def ofName? (s : List Char) : Option Status := all.find? (·.name.toList = s)

end Status

/-- A rule that a draft or a change breaks. -/
inductive Violation where
  | titleMissing
  | dueDateMissing
  | dueDatePast
  | titleBlank
  | unknownStatus (name : List Char)
  /-- A rule that is known by its message alone. -/
  | stated (message : String)
deriving DecidableEq, Repr

def Violation.message : Violation → String
  | titleMissing => "title is required"
  | dueDateMissing => "due date is required"
  | dueDatePast => "due date must be in the future"
  | titleBlank => "title must not be empty"
  | unknownStatus name => "invalid status \x60" ++ String.ofList name ++ "\x60"
  | stated message => message

def Status.parse (s : List Char) : Except Violation Status :=
  match ofName? s with
  | some status => .ok status
  | none => .error (.unknownStatus s)

structure Task where
  id : Uuid
  title : List Char
  description : List Char
  status : Status
  dueDate : Moment
  createdAt : Moment
  updatedAt : Moment
deriving DecidableEq, Repr

structure Draft where
  title : List Char
  description : List Char
  status : Option Status
  dueDate : Option Moment
deriving DecidableEq, Repr

/-- A draft that follows the rules. -/
structure NewTask where
  title : List Char
  description : List Char
  status : Status
  dueDate : Moment
deriving DecidableEq, Repr

/-- A draft needs a title and a due date that is not past. The title is taken without the white
space around it. -/
def Draft.validate (draft : Draft) (now : Moment) : Except Violation NewTask :=
  let title := Text.trim draft.title
  if title.isEmpty then .error .titleMissing
  else match draft.dueDate with
    | none => .error .dueDateMissing
    | some dueDate =>
      if dueDate.isBefore now then .error .dueDatePast
      else .ok ⟨title, draft.description, draft.status.getD .pending, dueDate⟩

def NewTask.toTask (new : NewTask) (id : Uuid) (now : Moment) : Task :=
  ⟨id, new.title, new.description, new.status, new.dueDate, now, now⟩

structure Change where
  title : Option (List Char)
  description : Option (List Char)
  status : Option Status
  dueDate : Option Moment
deriving DecidableEq, Repr

/-- A change may not give a blank title or a due date that is past. -/
def Change.validate (change : Change) (now : Moment) : Except Violation Unit :=
  if change.title.any fun title => (Text.trim title).isEmpty then .error .titleBlank
  else if change.dueDate.any (·.isBefore now) then .error .dueDatePast
  else .ok ()

def Task.apply (task : Task) (change : Change) (now : Moment) : Task :=
  { task with
    title := change.title.getD task.title
    description := change.description.getD task.description
    status := change.status.getD task.status
    dueDate := change.dueDate.getD task.dueDate
    updatedAt := now }

end TaskBoard
