import TaskBoard.Http.Uri
import TaskBoard.Text.Blank

/-!
# Requests

A request as it reaches the service, and the checks that make one from its parts. Header names are
kept in lower case; header values are bytes.
-/

namespace TaskBoard.Http

structure Method where
  name : String
deriving DecidableEq, Repr

namespace Method

def get : Method := ⟨"GET"⟩
def head : Method := ⟨"HEAD"⟩
def options : Method := ⟨"OPTIONS"⟩
def post : Method := ⟨"POST"⟩
def put : Method := ⟨"PUT"⟩
def delete : Method := ⟨"DELETE"⟩
def connect : Method := ⟨"CONNECT"⟩

/-- A method whose answers the cache keeps. -/
def isRead (m : Method) : Bool := m = get

/-- A method that goes past the cache. -/
def isPassthrough (m : Method) : Bool := m = head || m = options

/-- Every other method may change what a read would answer. -/
def isWrite (m : Method) : Bool := !m.isRead && !m.isPassthrough

end Method

structure Header where
  name : String
  value : Bytes
deriving DecidableEq, Repr

abbrev Headers := List Header

def firstValue? (headers : Headers) (name : String) : Option Bytes :=
  (headers.find? (·.name = name)).map (·.value)

def isVisible (b : UInt8) : Bool := (0x20 ≤ b && b ≤ 0x7E) || b = 0x09

/-- A header value as text, if it holds nothing but visible ASCII characters, spaces and tabs. -/
def headerText? (value : Bytes) : Option (List Char) :=
  if value.all isVisible then some (value.map fun b => Char.ofNat b.toNat) else none

def isTokenChar (c : Char) : Bool :=
  Uri.isAlphanumeric c || "!#$%&'*+-.^_|~".toList.contains c || c.toNat = 0x60

def isToken (s : List Char) : Bool := !s.isEmpty && s.all isTokenChar

def maxHeaderName : Nat := 65535

def isHeaderByte (b : UInt8) : Bool := (0x20 ≤ b && b != 0x7F) || b = 0x09

structure Request where
  method : Method
  uri : Uri
  headers : Headers
  body : Bytes
deriving Repr

inductive RequestError where
  | invalidMethod
  | invalidUri
  | invalidHeaderName
  | invalidHeaderValue
deriving DecidableEq, Repr

def header? (name : List Char) (value : Bytes) : Except RequestError Header :=
  if !isToken name || name.length > maxHeaderName then .error .invalidHeaderName
  else if !value.all isHeaderByte then .error .invalidHeaderValue
  else .ok ⟨String.ofList (name.map Char.toLower), value⟩

/-- Checks the parts in the order method, target, headers. -/
def Request.ofParts (method uri : List Char) (headers : List (List Char × Bytes)) (body : Bytes) :
    Except RequestError Request := do
  if !isToken method then throw .invalidMethod
  let some uri := Uri.parse? uri | throw .invalidUri
  let headers ← headers.mapM fun (name, value) => header? name value
  return ⟨⟨String.ofList method⟩, uri, headers, body⟩

def contentType : String := "content-type"

def callerHeader : String := "x-user-id"

/-- The caller of a request as the header has it, if it is readable. -/
def Request.callerText (r : Request) : Option (List Char) :=
  (firstValue? r.headers callerHeader).bind headerText?

/-- The caller of a request: the readable text of the header without the white space around it,
unless nothing is left. -/
def Request.caller (r : Request) : Option (List Char) :=
  (r.callerText.map Text.trim).filter (!·.isEmpty)

end TaskBoard.Http
