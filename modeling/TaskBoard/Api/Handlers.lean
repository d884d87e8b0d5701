import TaskBoard.Api.Error
import TaskBoard.Api.ListQuery
import TaskBoard.Http.MediaType
import TaskBoard.Task.Json

/-!
# Request handlers

The answers to requests about tasks. An identifier is checked before a body is looked at.
-/

namespace TaskBoard.Api

open Http Json

def maxBody : Nat := 2097152

def badBody (detail : String) : ApiError := .badRequest "Invalid request body" (some detail)

def payload {α : Type} (read : Bytes → Except Fault α) (r : Request) : Except ApiError α :=
  if !r.hasJson then .error (badBody "Expected request with \x60Content-Type: application/json\x60")
  else if r.body.length > maxBody then
    .error (badBody "Failed to buffer the request body: length limit exceeded")
  else match read r.body with
    | .ok a => .ok a
    | .error .mismatch =>
      .error (badBody "Failed to deserialize the JSON body into the target type")
    | .error _ => .error (badBody "Failed to parse the request body as JSON")

def badId (detail : String) : ApiError :=
  .badRequest "Invalid task id" (some s!"Invalid URL: {detail}")

/-- The identifier in a path segment, once its percent signs are decoded. -/
def taskId (segment : List Char) : Except ApiError Uuid :=
  match Text.Utf8.decode? (Text.Form.percentDecode (Text.Utf8.encode segment)) with
  | none => .error (badId "Invalid UTF-8 in \x60id\x60")
  | some text =>
    match Uuid.parse? text with
    | some id => .ok id
    | none => .error (badId ("Cannot parse \x60id\x60 with value \x60" ++ String.ofList text ++
        "\x60: UUID parsing failed"))

def pageJson (page : Page) : List Char :=
  object [
    ("tasks", list (page.tasks.map Task.toJson)),
    ("total", written page.total),
    ("page", written page.page),
    ("limit", written page.limit)]

def answer {α : Type} (write : α → Response) : Except ApiError α → Response
  | .ok a => write a
  | .error e => e.response

def taskResponse (status : Nat) (task : Task) : Response := .json status task.toJson

variable {ρ : Type} (repo : Repository ρ)

def listTasks (r : Request) (s : ρ) : Response :=
  let query := ListQuery.parse r.uri.query
  answer (fun page => .json 200 (pageJson page)) do
    let status ← match query.status with
      | none => .ok none
      | some name => ((Status.parse name).map some).mapError fun v => .invalidInput v.message
    (Desk.list repo status query.page query.limit s).mapError ApiError.ofDesk

def createTask (o : Occasion) (r : Request) (s : ρ) : Response × ρ :=
  match payload Draft.ofJson r with
  | .error e => (e.response, s)
  | .ok draft =>
    let (result, s) := Desk.create repo o draft s
    (answer (taskResponse 201) (result.mapError ApiError.ofDesk), s)

def getTask (segment : List Char) (s : ρ) : Response :=
  answer (taskResponse 200) do
    let id ← taskId segment
    (Desk.get repo id s).mapError ApiError.ofDesk

def updateTask (o : Occasion) (segment : List Char) (r : Request) (s : ρ) : Response × ρ :=
  match taskId segment with
  | .error e => (e.response, s)
  | .ok id =>
    match payload Change.ofJson r with
    | .error e => (e.response, s)
    | .ok change =>
      let (result, s) := Desk.update repo o id change s
      (answer (taskResponse 200) (result.mapError ApiError.ofDesk), s)

def deleteTask (segment : List Char) (s : ρ) : Response × ρ :=
  match taskId segment with
  | .error e => (e.response, s)
  | .ok id =>
    let (result, s) := Desk.delete repo id s
    (answer (fun _ => .empty 204) (result.mapError ApiError.ofDesk), s)

end TaskBoard.Api
