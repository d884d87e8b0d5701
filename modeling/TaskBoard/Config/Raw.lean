import TaskBoard.Config.Tree

/-!
# Raw settings

The settings as the sources give them: each is there or not, and has a value of its type.
-/

namespace TaskBoard.Config

structure RawServer where
  host : Option (List Char) := none
  port : Option UInt16 := none
  gracefulShutdownSeconds : Option UInt64 := none
deriving DecidableEq, Repr

structure RawLogging where
  level : Option (List Char) := none
  json : Option Bool := none
deriving DecidableEq, Repr

structure RawCache where
  enabled : Option Bool := none
  backend : Option (List Char) := none
  redisUrl : Option (List Char) := none
  ttlSeconds : Option UInt64 := none
  operationTimeoutMs : Option UInt64 := none
  maxBodyBytes : Option UInt64 := none
  defaultVersion : Option (List Char) := none
  resourceType : Option (List Char) := none
deriving DecidableEq, Repr

structure RawRateLimit where
  enabled : Option Bool := none
  windowMs : Option UInt64 := none
  maxRequests : Option UInt32 := none
deriving DecidableEq, Repr

structure Raw where
  server : RawServer := {}
  logging : RawLogging := {}
  cache : RawCache := {}
  rateLimit : RawRateLimit := {}
deriving DecidableEq, Repr

structure Mismatch where
  key : List Char
  misfit : Misfit
deriving DecidableEq, Repr

def Mismatch.message (m : Mismatch) : List Char :=
  "invalid type: ".toList ++ m.misfit.found ++ ", expected ".toList ++ m.misfit.wanted.toList ++
    " for key ".toList ++ between '\x60' m.key ++
    ((m.misfit.origin.map fun origin => " in ".toList ++ origin.text).getD [])

namespace Raw

/-- What a value is that is no part of the settings. A whole number does not say how it is held, and
another number has a point. -/
def foundInPlaceOfPart : Scalar → List Char
  | .whole n => described "integer" (decimalText n)
  | .real x =>
    let text := x.text
    let isWhole := x.finite?.isSome && !text.contains '.'
    described "floating point" (if isWhole then text ++ ['.', '0'] else text)
  | s => s.found

/-- A part of the settings. Its members are found by name in a table and by position in a list, and
are called accordingly. -/
structure Part where
  name : List Char
  member? : Nat → String → Option (List Char × Tree)

def memberKey (part : List Char) (name : String) : List Char := part ++ '.' :: name.toList

def itemKey (part : List Char) (i : Nat) : List Char := part ++ '[' :: Text.decimal i ++ [']']

/-- The part of a name. One that is missing has no members, and a scalar is none. -/
def part (root : Tree) (name title : String) : Except Mismatch Part :=
  let key := name.toList
  match root.members.lookup key with
  | none => .ok ⟨key, fun _ _ => none⟩
  | some (.table _ members) =>
    .ok ⟨key, fun _ member => (members.lookup member.toList).map (memberKey key member, ·)⟩
  | some (.list _ items) => .ok ⟨key, fun i _ => items[i]?.map (itemKey key i, ·)⟩
  | some (.leaf _ s) => .error ⟨key, foundInPlaceOfPart s, "struct " ++ title, none⟩

/-- Reads a member that may be missing. A null is as good as missing. -/
def Part.read {α : Type} (p : Part) (i : Nat) (name : String) (read : Tree → Except Misfit α) :
    Except Mismatch (Option α) :=
  match p.member? i name with
  | none | some (_, .leaf _ .null) => .ok none
  | some (key, t) => ((read t).map some).mapError (⟨key, ·⟩)

def u16 (t : Tree) : Except Misfit UInt16 := (t.toBits 16).map Nat.toUInt16
def u32 (t : Tree) : Except Misfit UInt32 := (t.toBits 32).map Nat.toUInt32
def u64 (t : Tree) : Except Misfit UInt64 := t.toWhole.map Nat.toUInt64

def readServer (root : Tree) : Except Mismatch RawServer := do
  let part ← part root "server" "RawServerSettings"
  let host ← part.read 0 "host" Tree.toText
  let port ← part.read 1 "port" u16
  let seconds ← part.read 2 "graceful_shutdown_seconds" u64
  return ⟨host, port, seconds⟩

def readLogging (root : Tree) : Except Mismatch RawLogging := do
  let part ← part root "logging" "RawLoggingSettings"
  let level ← part.read 0 "level" Tree.toText
  let json ← part.read 1 "json" Tree.toTruth
  return ⟨level, json⟩

def readCache (root : Tree) : Except Mismatch RawCache := do
  let part ← part root "cache" "RawCacheSettings"
  let enabled ← part.read 0 "enabled" Tree.toTruth
  let backend ← part.read 1 "backend" Tree.toText
  let redisUrl ← part.read 2 "redis_url" Tree.toText
  let ttlSeconds ← part.read 3 "ttl_seconds" u64
  let operationTimeoutMs ← part.read 4 "operation_timeout_ms" u64
  let maxBodyBytes ← part.read 5 "max_body_bytes" u64
  let defaultVersion ← part.read 6 "default_version" Tree.toText
  let resourceType ← part.read 7 "resource_type" Tree.toText
  return ⟨enabled, backend, redisUrl, ttlSeconds, operationTimeoutMs, maxBodyBytes, defaultVersion,
    resourceType⟩

def readRateLimit (root : Tree) : Except Mismatch RawRateLimit := do
  let part ← part root "rate_limit" "RawRateLimitSettings"
  let enabled ← part.read 0 "enabled" Tree.toTruth
  let windowMs ← part.read 1 "window_ms" u64
  let maxRequests ← part.read 2 "max_requests" u32
  return ⟨enabled, windowMs, maxRequests⟩

/-- The settings in what was gathered, if every value can be taken as one of its type. -/
def ofTree (root : Tree) : Except Mismatch Raw := do
  return ⟨← readServer root, ← readLogging root, ← readCache root, ← readRateLimit root⟩

end Raw

end TaskBoard.Config
