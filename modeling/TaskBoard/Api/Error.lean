import TaskBoard.Http.Response
import TaskBoard.Json.Writer
import TaskBoard.Task.Desk

/-!
# Error responses
-/

namespace TaskBoard.Api

open Http Json

inductive ApiError where
  | badRequest (message : String) (hint : Option String)
  | invalidInput (detail : String)
  | notFound (message : String)
  | rateLimited (seconds : Nat)
  | persistence (reason : String)
deriving DecidableEq, Repr

namespace ApiError

def status : ApiError → Nat
  | badRequest .. | invalidInput _ => 400
  | notFound _ => 404
  | rateLimited _ => 429
  | persistence _ => 500

def code : ApiError → String
  | badRequest .. => "bad_request"
  | invalidInput _ => "invalid_input"
  | notFound _ => "not_found"
  | rateLimited _ => "rate_limited"
  | persistence _ => "repo_error"

def message : ApiError → String
  | badRequest message _ => message
  | invalidInput _ => "Invalid input"
  | notFound message => message
  | rateLimited _ => "Rate limit exceeded"
  | persistence _ => "Persistence error"

def detail : ApiError → Option String
  | badRequest _ hint => hint
  | invalidInput detail => some detail
  | notFound _ => none
  | rateLimited seconds => some s!"Retry after {seconds} seconds"
  | persistence reason => some reason

/-- What more there is to say to the client. The reason of a failed repository stays inside. -/
def hint (e : ApiError) : Option String :=
  match e with
  | persistence _ => none
  | _ => e.detail

def text (s : String) : List Char := quoted s.toList

def body (e : ApiError) : List Char :=
  let members := [("code", text e.code), ("message", text e.message)]
  object [("error", object (members ++ e.hint.toList.map fun hint => ("hint", text hint)))]

def report (e : ApiError) : Report :=
  ⟨"infra::http::api", e.status, [e.detail.getD e.message]⟩

def headers : ApiError → Headers
  | rateLimited seconds => [⟨"retry-after", asciiBytes (toString seconds)⟩]
  | _ => []

def response (e : ApiError) : Response :=
  let r := Response.json e.status e.body
  { r with headers := r.headers ++ e.headers, report := some e.report }

def ofRepo : RepoError → ApiError
  | .notFound => .notFound "resource not found"
  | .persistence reason => .persistence reason

def ofDesk : DeskError → ApiError
  | .domain (.notFound _) => .notFound "task not found"
  | .domain (.violation v) => .invalidInput v.message
  | .repo e => ofRepo e

end ApiError

end TaskBoard.Api
