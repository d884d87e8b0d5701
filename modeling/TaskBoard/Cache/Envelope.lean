import TaskBoard.Cache.Store
import TaskBoard.Json.Reader
import TaskBoard.Text.Base64

/-!
# Stored values

A store outside the process holds a body as a JSON string of its Base64 text.
-/

namespace TaskBoard.Cache.Envelope

open Text

def encode (body : Bytes) : Bytes := Json.quote :: Base64.encode body ++ [Json.quote]

inductive DecodeError where
  | notString
  | notBase64 (e : Base64.DecodeError)
deriving DecidableEq, Repr

def DecodeError.message : DecodeError → String
  | notString => "not a JSON string"
  | notBase64 e => s!"invalid base64 payload: {e.message}"

def open? (raw : Bytes) : Except DecodeError Bytes :=
  match Json.whole Json.text raw with
  | .error _ => .error .notString
  | .ok text =>
    match Base64.decode (Utf8.encode text) with
    | .ok body => .ok body
    | .error e => .error (.notBase64 e)

def decode (raw : Bytes) : Except StoreError Bytes :=
  (open? raw).mapError fun e => .undecodable e.message

end TaskBoard.Cache.Envelope
