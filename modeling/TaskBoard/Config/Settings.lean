import TaskBoard.Cache.Overlay
import TaskBoard.Config.Raw
import TaskBoard.Log.Level
import TaskBoard.Net.SocketAddress
import TaskBoard.RateLimit

/-!
# Settings

The settings that the service runs on: every one has a value, and every value is in its range.
-/

namespace TaskBoard.Config

open Time Net

structure ServerSettings where
  address : SocketAddress
  gracefulShutdown : Duration
deriving DecidableEq, Repr

inductive LogFormat where
  | json
  | compact
deriving DecidableEq, Repr

def LogFormat.name : LogFormat → String
  | json => "json"
  | compact => "compact"

structure LoggingSettings where
  threshold : Log.Threshold
  format : LogFormat
deriving DecidableEq, Repr

inductive Backend where
  | redis
  | memory
deriving DecidableEq, Repr

namespace Backend

def name : Backend → String
  | redis => "redis"
  | memory => "memory"

def all : List Backend := [redis, memory]

def ofName? (s : List Char) : Option Backend := all.find? (·.name.toList = s)

end Backend

structure StoreSettings where
  backend : Backend
  url : List Char
  timeout : Duration
deriving DecidableEq, Repr

structure Settings where
  server : ServerSettings
  logging : LoggingSettings
  cache : Cache.Settings
  store : StoreSettings
  limitsRate : Bool
  rateLimit : RateLimit.Settings
deriving DecidableEq, Repr

inductive Fault where
  | zero (key : String)
  | notAddress (text : List Char)
  | notLevel (text : List Char)
  | unknownBackend (text : List Char)
  | ttlTooLong
  | noBodyLimit
  | colonIn (key : String)
deriving DecidableEq, Repr

/-- The longest time for which an entry may be kept, in seconds. -/
def maxTtlSeconds : Nat := 2592000

namespace Fault

def key : Fault → String
  | zero key => key
  | notAddress _ => "server.host"
  | notLevel _ => "logging.level"
  | unknownBackend _ => "cache.backend"
  | ttlTooLong => "cache.ttl_seconds"
  | noBodyLimit => "cache.max_body_bytes"
  | colonIn key => key

def between (s : List Char) : String := "\x60" ++ String.ofList s ++ "\x60"

def levelNames : String :=
  "\"off\", \"error\", \"warn\", \"info\", \"debug\", \"trace\", or a number 0-5"

def reason : Fault → String
  | zero _ => "must be greater than zero"
  | notAddress text => between text ++ " is not a socket address: invalid socket address syntax"
  | notLevel text =>
    between text ++ " is not a level: error parsing level filter: expected one of " ++ levelNames
  | unknownBackend text =>
    "unknown backend " ++ between text ++ ", expected \x60redis\x60 or \x60memory\x60"
  | ttlTooLong => s!"must not exceed {maxTtlSeconds} (30 days)"
  | noBodyLimit => "must be between 1 and the platform's usize range"
  | colonIn _ => "must not contain \x60:\x60"

def message (fault : Fault) : String :=
  "invalid configuration for \x60" ++ fault.key ++ "\x60: " ++ fault.reason

end Fault

/-! ## Values by default -/

def defaultHost : List Char := "127.0.0.1".toList
def defaultPort : Nat := 8080
def defaultShutdownSeconds : Nat := 30
def defaultUrl : List Char := "redis://127.0.0.1:6379".toList
def defaultTimeoutMs : Nat := 1000
def defaultWindowMs : Nat := 1000
def defaultMaxRequests : Nat := 1000

/-! ## Validation -/

/-- A text without the white space around it, unless nothing is left. -/
def nonBlank (s : Option (List Char)) : Option (List Char) :=
  (s.map Text.trim).filter (!·.isEmpty)

def positive (key : String) (n : Nat) : Except Fault Nat :=
  if n = 0 then .error (.zero key) else .ok n

def withoutColon (key : String) (s : List Char) : Except Fault (List Char) :=
  if s.contains ':' then .error (.colonIn key) else .ok s

def ServerSettings.ofRaw (raw : RawServer) : Except Fault ServerSettings := do
  let host := (nonBlank raw.host).getD defaultHost
  let port ← positive "server.port" ((raw.port.map UInt16.toNat).getD defaultPort)
  let text := host ++ ':' :: Text.decimal port
  let some address := SocketAddress.parse? text | throw (.notAddress text)
  let seconds ← positive "server.graceful_shutdown_seconds"
    ((raw.gracefulShutdownSeconds.map UInt64.toNat).getD defaultShutdownSeconds)
  return ⟨address, Duration.ofSeconds seconds⟩

def thresholdOf (level : Option (List Char)) : Except Fault Log.Threshold :=
  match nonBlank level with
  | none => .ok ⟨some .info⟩
  | some text =>
    match Log.Threshold.parse? text with
    | some t => .ok t
    | none => .error (.notLevel text)

def LoggingSettings.ofRaw (raw : RawLogging) : Except Fault LoggingSettings := do
  return ⟨← thresholdOf raw.level, if raw.json = some true then .json else .compact⟩

/-- The backend of a name. White space around it does not count, and no name means Redis. -/
def backendOf (name : Option (List Char)) : Except Fault Backend :=
  match name.map Text.trim with
  | none => .ok .redis
  | some name =>
    match Backend.ofName? name with
    | some backend => .ok backend
    | none => .error (.unknownBackend name)

def ttlOf (seconds : Option UInt64) : Except Fault Duration := do
  let seconds ← positive "cache.ttl_seconds"
    ((seconds.map UInt64.toNat).getD (Duration.wholeSeconds Cache.Settings.standard.ttl))
  if seconds > maxTtlSeconds then throw .ttlTooLong
  return Duration.ofSeconds seconds

def bodyLimitOf (limit : Option UInt64) : Except Fault Nat :=
  match limit.map UInt64.toNat with
  | none => .ok Cache.Settings.standard.maxBodyBytes
  | some n => if n = 0 then .error .noBodyLimit else .ok n

def cacheOfRaw (raw : RawCache) : Except Fault (Cache.Settings × StoreSettings) := do
  let standard := Cache.Settings.standard.space
  let backend ← backendOf raw.backend
  let url := (nonBlank raw.redisUrl).getD defaultUrl
  let ttl ← ttlOf raw.ttlSeconds
  let timeoutMs ← positive "cache.operation_timeout_ms"
    ((raw.operationTimeoutMs.map UInt64.toNat).getD defaultTimeoutMs)
  let maxBodyBytes ← bodyLimitOf raw.maxBodyBytes
  let version ← withoutColon "cache.default_version"
    ((nonBlank raw.defaultVersion).getD standard.defaultVersion)
  let resourceType ← withoutColon "cache.resource_type"
    ((nonBlank raw.resourceType).getD standard.resourceType)
  return (⟨raw.enabled.getD true, ttl, maxBodyBytes, ⟨version, resourceType⟩⟩,
    ⟨backend, url, Duration.ofMillis timeoutMs⟩)

def rateLimitOfRaw (raw : RawRateLimit) : Except Fault RateLimit.Settings := do
  let windowMs ← positive "rate_limit.window_ms"
    ((raw.windowMs.map UInt64.toNat).getD defaultWindowMs)
  let maxRequests ← positive "rate_limit.max_requests"
    ((raw.maxRequests.map UInt32.toNat).getD defaultMaxRequests)
  return ⟨Duration.ofMillis windowMs, maxRequests⟩

/-- Gives every setting its value, and checks the values in their order. -/
def Settings.ofRaw (raw : Raw) : Except Fault Settings := do
  let server ← ServerSettings.ofRaw raw.server
  let logging ← LoggingSettings.ofRaw raw.logging
  let (cache, store) ← cacheOfRaw raw.cache
  let rateLimit ← rateLimitOfRaw raw.rateLimit
  return ⟨server, logging, cache, store, raw.rateLimit.enabled.getD true, rateLimit⟩

end TaskBoard.Config
