import TaskBoard.Task.Desk
import TaskBoard.Cache.Store

/-!
# Failures at start-up

What ends the program, and the causes behind it. A failure that only passes another one on shows as
that one.
-/

namespace TaskBoard

open Cache

inductive InfraError where
  | io (cause : String)
  | cache (cause : StoreError)
  | telemetry (reason : String)
deriving DecidableEq, Repr

inductive AppError where
  | infra (e : InfraError)
  | unexpected (reason : String)
deriving DecidableEq, Repr

def InfraError.message : InfraError → String
  | io cause => s!"io error: {cause}"
  | cache cause => s!"cache store error: {cause.message}"
  | telemetry reason => s!"telemetry initialization failed: {reason}"

/-- The messages of the causes, from the nearest to the farthest. -/
def InfraError.causes : InfraError → List String
  | io cause => [cause]
  | cache cause => [cause.message]
  | telemetry _ => []

def AppError.message : AppError → String
  | infra e => e.message
  | unexpected reason => s!"unexpected error: {reason}"

def AppError.causes : AppError → List String
  | infra e => e.causes
  | unexpected _ => []

def InfraError.chain (e : InfraError) : List String := e.message :: e.causes

def AppError.chain (e : AppError) : List String := e.message :: e.causes

def Cache.StoreError.chain (e : StoreError) : List String := [e.message]

def DomainError.chain (e : DomainError) : List String := [e.message]

def RepoError.chain (e : RepoError) : List String := [e.message]

def DeskError.chain (e : DeskError) : List String := [e.message]

end TaskBoard
