import TaskBoard.Task.Basic
import TaskBoard.Json.Record
import TaskBoard.Json.Writer

/-!
# Tasks in JSON
-/

namespace TaskBoard

open Time Json

def momentReader : Reader Moment := textOf Moment.parse?

def statusReader : Reader Status := choice Status.ofName?

namespace Draft

structure Partial where
  title : Option (List Char) := none
  description : Option (List Char) := none
  status : Option (Option Status) := none
  dueDate : Option (Option Moment) := none

def shape : Shape Partial Draft where
  start := {}
  members := [
    member "title" true text (·.title) (fun p v => { p with title := some v }),
    member "description" true text (·.description) (fun p v => { p with description := some v }),
    member "status" true (optional statusReader) (·.status)
      (fun p v => { p with status := some v }),
    member "due_date" true (optional momentReader) (·.dueDate)
      (fun p v => { p with dueDate := some v })]
  finish := fun p =>
    some ⟨p.title.getD [], p.description.getD [], p.status.getD none, p.dueDate.getD none⟩

def ofJson (s : Bytes) : Except Fault Draft := whole (record shape) s

end Draft

namespace Change

structure Partial where
  title : Option (Option (List Char)) := none
  description : Option (Option (List Char)) := none
  status : Option (Option Status) := none
  dueDate : Option (Option Moment) := none

/-- Every member of a change may be missing; in a list only the last one may. -/
def shape : Shape Partial Change where
  start := {}
  members := [
    member "title" false (optional text) (·.title) (fun p v => { p with title := some v }),
    member "description" false (optional text) (·.description)
      (fun p v => { p with description := some v }),
    member "status" false (optional statusReader) (·.status)
      (fun p v => { p with status := some v }),
    member "due_date" true (optional momentReader) (·.dueDate)
      (fun p v => { p with dueDate := some v })]
  finish := fun p =>
    some ⟨p.title.getD none, p.description.getD none, p.status.getD none, p.dueDate.getD none⟩

def ofJson (s : Bytes) : Except Fault Change := whole (record shape) s

end Change

namespace Task

structure Partial where
  id : Option Uuid := none
  title : Option (List Char) := none
  description : Option (List Char) := none
  status : Option Status := none
  dueDate : Option Moment := none
  createdAt : Option Moment := none
  updatedAt : Option Moment := none

def Partial.complete (p : Partial) : Option Task := do
  return ⟨← p.id, ← p.title, ← p.description, ← p.status, ← p.dueDate, ← p.createdAt, ← p.updatedAt⟩

def shape : Shape Partial Task where
  start := {}
  members := [
    member "id" false (textOf Uuid.parse?) (·.id) (fun p v => { p with id := some v }),
    member "title" false text (·.title) (fun p v => { p with title := some v }),
    member "description" false text (·.description) (fun p v => { p with description := some v }),
    member "status" false statusReader (·.status) (fun p v => { p with status := some v }),
    member "due_date" false momentReader (·.dueDate) (fun p v => { p with dueDate := some v }),
    member "created_at" false momentReader (·.createdAt)
      (fun p v => { p with createdAt := some v }),
    member "updated_at" false momentReader (·.updatedAt)
      (fun p v => { p with updatedAt := some v })]
  finish := Partial.complete

def ofJson (s : Bytes) : Except Fault Task := whole (record shape) s

def toJson (task : Task) : List Char :=
  object [
    ("id", quoted task.id.text),
    ("title", quoted task.title),
    ("description", quoted task.description),
    ("status", quoted task.status.name.toList),
    ("due_date", quoted task.dueDate.text),
    ("created_at", quoted task.createdAt.text),
    ("updated_at", quoted task.updatedAt.text)]

end Task

end TaskBoard
