import TaskBoard.Task.Repository

/-!
# Working with tasks

The operations on tasks: the rules are checked first, then the repository is asked.
-/

namespace TaskBoard

open Time

inductive DomainError where
  | notFound (entity : String)
  | violation (v : Violation)
deriving DecidableEq, Repr

def DomainError.message : DomainError → String
  | notFound entity => s!"{entity} not found"
  | violation v => v.message

def DomainError.taskNotFound : DomainError := .notFound "task"

inductive DeskError where
  | domain (e : DomainError)
  | repo (e : RepoError)
deriving DecidableEq, Repr

def DeskError.message : DeskError → String
  | domain e => e.message
  | repo e => e.message

/-- What a request finds: the time, and a new identifier. A request that stores a task looks at the
clock twice, for the rules and again for the stamps that the repository sets. The one time here
stands for both, as if the clock had not moved in between. -/
structure Occasion where
  now : Moment
  id : Uuid

namespace Desk

variable {ρ : Type} (repo : Repository ρ)

/-- A repository that lacks a task means that the task is not there. -/
def missing : RepoError → DeskError
  | .notFound => .domain .taskNotFound
  | e => .repo e

def create (o : Occasion) (draft : Draft) (s : ρ) : Except DeskError Task × ρ :=
  match draft.validate o.now with
  | .error v => (.error (.domain (.violation v)), s)
  | .ok new =>
    let (r, s) := repo.create new o.id o.now s
    (r.mapError .repo, s)

def get (id : Uuid) (s : ρ) : Except DeskError Task :=
  match repo.find id s with
  | .error e => .error (.repo e)
  | .ok none => .error (.domain .taskNotFound)
  | .ok (some task) => .ok task

def update (o : Occasion) (id : Uuid) (change : Change) (s : ρ) : Except DeskError Task × ρ :=
  match change.validate o.now with
  | .error v => (.error (.domain (.violation v)), s)
  | .ok () =>
    let (r, s) := repo.update id change o.now s
    (r.mapError missing, s)

def delete (id : Uuid) (s : ρ) : Except DeskError Unit × ρ :=
  let (r, s) := repo.delete id s
  (r.mapError missing, s)

def defaultLimit : Nat := 10
def maxLimit : Nat := 100

/-- A page number of zero counts as none, and none is the first page. -/
def effectivePage (page : Option Nat) : Nat := (page.filter (1 ≤ ·)).getD 1

/-- A limit of zero counts as none. -/
def effectiveLimit (limit : Option Nat) : Nat :=
  min ((limit.filter (1 ≤ ·)).getD defaultLimit) maxLimit

def list (status : Option Status) (page limit : Option Nat) (s : ρ) : Except DeskError Page :=
  (repo.list ⟨status, effectivePage page, effectiveLimit limit⟩ s).mapError .repo

end Desk

end TaskBoard
