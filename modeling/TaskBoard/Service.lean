import TaskBoard.Api.Handlers
import TaskBoard.Cache.Overlay
import TaskBoard.RateLimit

/-!
# The service

A request passes the rate limiter, then goes to the tasks through the cache overlay, or to the
health check. Every response with an error status is reported.
-/

namespace TaskBoard.Service

open Http Api Cache Json Time

structure Settings where
  cache : Option Cache.Settings
  rateLimit : Option RateLimit.Settings

/-- A store, a repository and the admissions that the limiter remembers. -/
structure State (σ ρ : Type) where
  store : σ
  repo : ρ
  admissions : RateLimit.Admissions

inductive Place where
  | tasks
  | task (segment : List Char)
  | health
  | nowhere
deriving DecidableEq, Repr

def place (path : List Char) : Place :=
  let root := "/api/v1/tasks".toList
  if path = root then .tasks
  else if path = "/health".toList then .health
  else if path.take (root.length + 1) = root ++ ['/'] then
    let segment := path.drop (root.length + 1)
    if segment.isEmpty || segment.contains '/' then .nowhere else .task segment
  else .nowhere

/-- The methods that a place answers, in the order in which it lists them. -/
def Place.methods : Place → List Method
  | tasks => [.get, .head, .post]
  | task _ => [.get, .head, .put, .delete]
  | health => [.get, .head]
  | nowhere => []

def notAllowed : Response := .empty 405

/-- A response to a method that its place does not have lists those that it has, whatever became of
the request. -/
def withAllowed (place : Place) (m : Method) (r : Response) : Response :=
  if place.methods.isEmpty || place.methods.contains m then r
  else
    let names := ",".intercalate (place.methods.map (·.name))
    { r with headers := r.headers ++ [⟨"allow", asciiBytes names⟩] }

variable {σ ρ : Type}

def taskOrigin (repo : Repository ρ) (o : Occasion) (place : Place) (r : Request) (s : ρ) :
    Response × ρ :=
  match place with
  | .tasks =>
    if r.method = .get || r.method = .head then (listTasks repo r s, s)
    else if r.method = .post then createTask repo o r s
    else (notAllowed, s)
  | .task segment =>
    if r.method = .get || r.method = .head then (getTask repo segment s, s)
    else if r.method = .put then updateTask repo o segment r s
    else if r.method = .delete then deleteTask repo segment s
    else (notAllowed, s)
  | .health | .nowhere => (.empty 404, s)

def version : String := "0.1.0"

def healthJson (isUp : Bool) (message : String) (now : Moment) : List Char :=
  let status := quoted (if isUp then "UP" else "DOWN").toList
  object [
    ("status", status),
    ("timestamp", quoted now.text),
    ("version", quoted version.toList),
    ("services", object [
      ("cache", object [("status", status), ("message", quoted message.toList)])])]

def health (now : Moment) : Except StoreError Unit → Response
  | .ok () => .json 200 (healthJson true "cache store reachable" now)
  | .error e =>
    let message := s!"cache store unreachable: {e.message}"
    { Response.json 503 (healthJson false message now) with
      report := some ⟨"infra::http::health", 503, [message]⟩ }

/-- What the service reports while it answers: what the cache does, and each response with an error
status. -/
inductive Event where
  | cache (e : Cache.Event)
  | errorResponse (r : Request) (status : Nat) (report : Option Report)

def isError (status : Nat) : Bool := 400 ≤ status && status < 600

structure Answer where
  response : Response
  keptAs : Option Key
  events : List Event

def route (settings : Settings) (store : Store σ) (repo : Repository ρ) (o : Occasion) (r : Request)
    (s : State σ ρ) : Cache.Answer × State σ ρ :=
  match place r.uri.path with
  | .nowhere => (⟨.empty 404, none, []⟩, s)
  | .health =>
    if r.method = .get || r.method = .head then
      let (reply, st) := store .ping s.store
      (⟨health o.now reply, none, []⟩, { s with store := st })
    else (⟨notAllowed, none, []⟩, s)
  | p =>
    match settings.cache with
    | none =>
      let (response, ts) := taskOrigin repo o p r s.repo
      (⟨response, none, []⟩, { s with repo := ts })
    | some cache =>
      let (answer, st, ts) := respond cache store r (taskOrigin repo o p r) s.store s.repo
      (answer, { s with store := st, repo := ts })

def handle (settings : Settings) (store : Store σ) (repo : Repository ρ) (clock : Instant)
    (o : Occasion) (r : Request) (s : State σ ρ) : Answer × State σ ρ :=
  let (inner, s) : Cache.Answer × State σ ρ :=
    match settings.rateLimit with
    | none => route settings store repo o r s
    | some limit =>
      match RateLimit.allow limit clock s.admissions with
      | (.admitted _, admissions) =>
        route settings store repo o r { s with admissions := admissions }
      | (.refused, admissions) =>
        (⟨(ApiError.rateLimited (RateLimit.retryAfter limit)).response, none, []⟩,
          { s with admissions := admissions })
  let response := inner.response
  let reported := if isError response.status then
    [Event.errorResponse r response.status response.report] else []
  let finished := (withAllowed (place r.uri.path) r.method response).forMethod r.method
  (⟨finished, inner.keptAs, inner.events.map .cache ++ reported⟩, s)

/-- Lets the client read `limit` pieces of an answer, or all of it. -/
def deliver (settings : Settings) (store : Store σ) (answer : Answer) (limit : Option Nat)
    (s : State σ ρ) : Reading × List Event × State σ ρ :=
  match settings.cache with
  | none => (answer.response.body.read limit, [], s)
  | some cache =>
    let (reading, events, st) :=
      Cache.Answer.deliver ⟨answer.response, answer.keptAs, []⟩ cache store limit s.store
    (reading, events.map .cache, { s with store := st })

end TaskBoard.Service
