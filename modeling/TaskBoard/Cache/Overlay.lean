import TaskBoard.Cache.Store
import TaskBoard.Http.Response

/-!
# The cache overlay

What the cache does around an origin: it answers reads from the store, keeps the answers to reads
that were not stored, and clears what a write may have made stale. A store that fails never shows
in a response.
-/

namespace TaskBoard.Cache

open Http Time

structure Settings where
  enabled : Bool
  ttl : Duration
  maxBodyBytes : Nat
  space : KeySpace
deriving DecidableEq, Repr

def Settings.standard : Settings :=
  ⟨true, Duration.ofSeconds 300, 1048576, ⟨"v1".toList, "tasks".toList⟩⟩

inductive Event where
  | hit
  | miss
  | stored
  | lookupFailed (key : Key) (e : StoreError)
  | bodyFailed (key : Key) (reason : String)
  | storingFailed (key : Key) (e : StoreError)
  | listingFailed (pattern : Pattern) (e : StoreError)
  | deletionFailed (key : Key) (e : StoreError)
  | invalidated (count : Nat)
deriving DecidableEq, Repr

def target (r : Request) : Target := ⟨r.uri.path, r.uri.query, r.caller⟩

/-! ## Reads -/

/-- Asks the store for a body. A failure counts as a miss. -/
def lookup (key : Key) : Program (Option Bytes × List Event) :=
  .ask (.get key) fun
    | .ok body => .done (some body, [.hit])
    | .error .notFound => .done (none, [.miss])
    | .error e => .done (none, [.lookupFailed key e, .miss])

def hitHeader : Header := ⟨"x-cache", asciiBytes "HIT"⟩

def replay (body : Bytes) : Response :=
  ⟨200, [⟨contentType, asciiBytes "application/json"⟩, hitHeader], .fixed body, none⟩

/-- The statuses of answers that are kept. -/
def isKept (status : Nat) : Bool := status = 200 || status = 201

/-- What is captured of a body while the client reads it: its bytes so far, until they are more
than may be kept. -/
def capture (limit : Nat) (captured : Option Bytes) (chunk : Bytes) : Option Bytes :=
  match captured with
  | some bytes => if bytes.length + chunk.length ≤ limit then some (bytes ++ chunk) else none
  | none => none

def captureAll (limit : Nat) (items : Body) : Option Bytes :=
  items.foldl (fun captured item => match item with
    | .ok chunk => capture limit captured chunk
    | .error _ => captured) (some [])

def commit (settings : Settings) (key : Key) (body : Bytes) : Program (List Event) :=
  .ask (.set key body settings.ttl) fun
    | .ok _ => .done [.stored]
    | .error e => .done [.storingFailed key e]

/-- Follows a client that reads an answer to a read: what it has read to the end is stored. -/
def afterReading (settings : Settings) (key : Key) (reading : Reading) : Program (List Event) :=
  match reading.items.failure? with
  | some reason => .done [.bodyFailed key reason]
  | none =>
    if reading.ended then
      match captureAll settings.maxBodyBytes reading.items with
      | some body => commit settings key body
      | none => .done []
    else .done []

/-! ## Writes -/

/-- The progress of an invalidation: the keys removed so far, and the failures. -/
structure Sweep where
  removed : List Key := []
  failures : List Event := []
deriving DecidableEq, Repr

def dropKey (sweep : Sweep) (key : Key) : Program Sweep :=
  if sweep.removed.contains key then .done sweep
  else .ask (.delete key) fun
    | .ok _ => .done { sweep with removed := sweep.removed ++ [key] }
    | .error e => .done { sweep with failures := sweep.failures ++ [.deletionFailed key e] }

def dropKeys (sweep : Sweep) : List Key → Program Sweep
  | [] => .done sweep
  | key :: keys => (dropKey sweep key).bind (dropKeys · keys)

def dropMatching (sweep : Sweep) (pattern : Pattern) : Program Sweep :=
  .ask (.keysMatching pattern) fun
    | .ok keys => dropKeys sweep keys
    | .error e => .done { sweep with failures := sweep.failures ++ [.listingFailed pattern e] }

def sweepAll (sweep : Sweep) : List Pattern → Program Sweep
  | [] => .done sweep
  | pattern :: patterns => (dropMatching sweep pattern).bind (sweepAll · patterns)

/-- Removes every key that some pattern covers. A failure does not stop it. -/
def invalidate (patterns : List Pattern) : Program Sweep := sweepAll {} patterns

def Sweep.events (sweep : Sweep) : List Event :=
  sweep.failures ++ [.invalidated sweep.removed.length]

/-! ## Requests -/

inductive Course where
  /-- The origin answers, and the store is left alone. -/
  | pass
  /-- The keys of the patterns are removed before the origin answers. -/
  | write (patterns : List Pattern)
  /-- The store answers, or the origin does and its answer is kept. -/
  | read (key : Key)
deriving DecidableEq, Repr

def course (settings : Settings) (r : Request) : Course :=
  if !settings.enabled || r.method.isPassthrough then .pass
  else if r.method.isRead then .read (settings.space.key (target r))
  else .write (settings.space.patterns (target r))

/-- A response on its way to the client, with the key to keep it under once it has been read. -/
structure Answer where
  response : Response
  keptAs : Option Key
  events : List Event

/-- Answers a request before a store with states in `σ` and an origin with states in `ω`. -/
def respond {σ ω : Type} (settings : Settings) (store : Store σ) (r : Request)
    (origin : ω → Response × ω) (s : σ) (w : ω) : Answer × σ × ω :=
  match course settings r with
  | .pass =>
    let (response, w) := origin w
    (⟨response, none, []⟩, s, w)
  | .write patterns =>
    let (sweep, s) := (invalidate patterns).run store s
    let (response, w) := origin w
    (⟨response, none, sweep.events⟩, s, w)
  | .read key =>
    match (lookup key).run store s with
    | ((some body, events), s) => (⟨replay body, none, events⟩, s, w)
    | ((none, events), s) =>
      let (response, w) := origin w
      (⟨response, if isKept response.status then some key else none, events⟩, s, w)

/-- Lets the client read `limit` pieces of an answer, or all of it. -/
def Answer.deliver {σ : Type} (answer : Answer) (settings : Settings) (store : Store σ)
    (limit : Option Nat) (s : σ) : Reading × List Event × σ :=
  let reading := answer.response.body.read limit
  match answer.keptAs with
  | none => (reading, [], s)
  | some key =>
    let (events, s) := (afterReading settings key reading).run store s
    (reading, events, s)

end TaskBoard.Cache
