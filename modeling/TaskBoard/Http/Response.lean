import TaskBoard.Http.Request

/-!
# Responses

A response has a body that is read in pieces and may fail on the way. A client may stop reading
before the end.
-/

namespace TaskBoard.Http

/-- The pieces of a body in order. A client reads nothing after a failure. -/
abbrev Body := List (Except String Bytes)

structure Report where
  source : String
  status : Nat
  messages : List String
deriving DecidableEq, Repr

structure Response where
  status : Nat
  headers : Headers
  body : Body
  report : Option Report

namespace Body

/-- A body that is there at once: one piece, or none if it is empty. -/
def fixed (bytes : Bytes) : Body := if bytes.isEmpty then [] else [.ok bytes]

/-- The pieces up to the first failure, which is the last one that a client sees. -/
def visible : Body → Body
  | [] => []
  | .ok chunk :: rest => .ok chunk :: visible rest
  | .error e :: _ => [.error e]

def failure? (body : Body) : Option String :=
  body.findSome? fun
    | .ok _ => none
    | .error e => some e

def bytes (body : Body) : Bytes :=
  body.flatMap fun
    | .ok chunk => chunk
    | .error _ => []

end Body

/-- What a client has read of a body. It knows the end only if it asked for a piece and there was
none. -/
structure Reading where
  items : Body
  ended : Bool

def Body.read (limit : Option Nat) (body : Body) : Reading :=
  let seen := body.visible
  match limit with
  | none => ⟨seen, seen.failure?.isNone⟩
  | some n => ⟨seen.take n, seen.length < n && seen.failure?.isNone⟩

def asciiBytes (s : String) : Bytes := Text.Utf8.encode s.toList

def Response.empty (status : Nat) : Response := ⟨status, [], [], none⟩

def Response.json (status : Nat) (text : List Char) : Response :=
  ⟨status, [⟨contentType, asciiBytes "application/json"⟩], .fixed (Text.Utf8.encode text), none⟩

def isSuccess (status : Nat) : Bool := 200 ≤ status && status < 300

/-- What goes back to the client: a HEAD request gets no body, nor does a tunnel that is granted. -/
def Response.forMethod (m : Method) (r : Response) : Response :=
  if m = .head || (m = .connect && isSuccess r.status) then { r with body := [] } else r

end TaskBoard.Http
