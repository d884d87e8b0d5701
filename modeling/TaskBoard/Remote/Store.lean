import TaskBoard.Cache.Envelope
import TaskBoard.Remote.Address
import TaskBoard.Remote.Reply

/-!
# The remote store

The store of the cache in a remote store: which commands carry out its calls, and what their replies
mean. A command that is not answered in time fails.
-/

namespace TaskBoard.Remote

open Cache Time

variable {σ : Type}

def timedOut (what : String) (timeout : Duration) : StoreError :=
  .unavailable (what ++ s!" timed out after {timeout.wholeMillis}ms")

def unavailable (message : List Char) : StoreError := .unavailable (String.ofList message)

def send {α : Type} (server : Server σ) (timeout : Duration) (name : String)
    (arguments : List Bytes) (take : Reply → Taken α) (s : σ) : Except StoreError α × σ :=
  match server (Text.Utf8.encode name.toList :: arguments) s with
  | (none, s) => (.error (timedOut name timeout), s)
  | (some reply, s) =>
    match reply.error? with
    | some text => (.error (unavailable (errorMessage text)), s)
    | none => ((take reply).mapError unavailable, s)

def keyBytes (key : Key) : Bytes := Text.Utf8.encode key.text

def numberBytes (n : Nat) : Bytes := Text.Utf8.encode (Text.decimal n)

def expiryMillis (ttl : Duration) : Nat := min ttl.wholeMillis Text.maxU64

def ignore (_ : Reply) : Taken Unit := .ok ()

/-- The body in a stored value, if there is one. -/
def opened : Except StoreError (Option Bytes) → Except StoreError Bytes
  | .ok (some raw) => Envelope.decode raw
  | .ok none => .error .notFound
  | .error e => .error e

def checkPong : Except StoreError (List Char) → Except StoreError Unit
  | .ok text =>
    if text = "PONG".toList then .ok ()
    else .error (.unavailable ("unexpected PING reply \x60" ++ String.ofList text ++ "\x60"))
  | .error e => .error e

/-- The store that a server is. -/
def store (server : Server σ) (timeout : Duration) : Cache.Store σ
  | .get key, s =>
    let (reply, s) := send server timeout "GET" [keyBytes key] Reply.toBytes s
    (opened reply, s)
  | .set key value ttl, s =>
    if ttl = 0 then (.error (.invalidTtl ttl), s)
    else
      let payload := Envelope.encode value
      send server timeout "PSETEX" [keyBytes key, numberBytes (expiryMillis ttl), payload] ignore s
  | .keysMatching pattern, s =>
    let (reply, s) := send server timeout "KEYS" [Text.Utf8.encode pattern.text] Reply.toTexts s
    (reply.map fun texts => texts.map Key.mk, s)
  | .delete key, s => send server timeout "DEL" [keyBytes key] ignore s
  | .clear, s => send server timeout "FLUSHDB" [] ignore s
  | .ping, s =>
    let (reply, s) := send server timeout "PING" [] Reply.toText s
    (checkPong reply, s)

abbrev Network (σ : Type) := Address → Option (Server σ)

def noNetwork : Network σ := fun _ => none

/-- Connects to the server at an address, and checks that it answers. -/
def connect (network : Network σ) (url : List Char) (timeout : Duration) (s : σ) :
    Except StoreError (Server σ) × σ :=
  match Address.parse url with
  | .error e => (.error (.unavailable e.message), s)
  | .ok address =>
    match network address with
    | none => (.error (timedOut "connecting" timeout), s)
    | some server =>
      match store server timeout .ping s with
      | (.ok (), s) => (.ok server, s)
      | (.error e, s) => (.error e, s)

end TaskBoard.Remote
