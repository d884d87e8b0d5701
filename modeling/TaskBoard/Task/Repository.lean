import TaskBoard.Task.Basic

/-!
# The task repository

Where tasks are kept, in the order in which they were created.
-/

namespace TaskBoard

open Time

inductive RepoError where
  | notFound
  | persistence (reason : String)
deriving DecidableEq, Repr

def RepoError.message : RepoError → String
  | notFound => "resource not found"
  | persistence reason => s!"persistence error: {reason}"

structure ListFilter where
  status : Option Status
  page : Nat
  limit : Nat
deriving DecidableEq, Repr

structure Page where
  tasks : List Task
  total : Nat
  page : Nat
  limit : Nat
deriving DecidableEq, Repr

structure Repository (ρ : Type) where
  create : NewTask → Uuid → Moment → ρ → Except RepoError Task × ρ
  find : Uuid → ρ → Except RepoError (Option Task)
  update : Uuid → Change → Moment → ρ → Except RepoError Task × ρ
  delete : Uuid → ρ → Except RepoError Unit × ρ
  list : ListFilter → ρ → Except RepoError Page

abbrev TaskList := List Task

namespace TaskList

def lookup? (id : Uuid) (tasks : TaskList) : Option Task := tasks.find? (·.id = id)

def modify (id : Uuid) (f : Task → Task) : TaskList → TaskList
  | [] => []
  | task :: tasks => if task.id = id then f task :: tasks else task :: modify id f tasks

def remove (id : Uuid) : TaskList → TaskList
  | [] => []
  | task :: tasks => if task.id = id then tasks else task :: remove id tasks

def withStatus (status : Option Status) (tasks : TaskList) : TaskList :=
  tasks.filter fun task => status.all (· = task.status)

/-- Pages are counted from 1, and hold the tasks of one status or of all. -/
def page (filter : ListFilter) (tasks : TaskList) : Page :=
  let found := withStatus filter.status tasks
  ⟨(found.drop ((filter.page - 1) * filter.limit)).take filter.limit, found.length, filter.page,
    filter.limit⟩

def repository : Repository TaskList where
  create new id now tasks :=
    let task := new.toTask id now
    (.ok task, tasks ++ [task])
  find id tasks := .ok (lookup? id tasks)
  update id change now tasks :=
    match lookup? id tasks with
    | some task => (.ok (task.apply change now), modify id (·.apply change now) tasks)
    | none => (.error .notFound, tasks)
  delete id tasks :=
    match lookup? id tasks with
    | some _ => (.ok (), remove id tasks)
    | none => (.error .notFound, tasks)
  list filter tasks := .ok (page filter tasks)

end TaskList

def Repository.failing {ρ : Type} (e : RepoError) : Repository ρ where
  create _ _ _ s := (.error e, s)
  find _ _ := .error e
  update _ _ _ s := (.error e, s)
  delete _ s := (.error e, s)
  list _ _ := .error e

end TaskBoard
