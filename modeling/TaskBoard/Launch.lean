import TaskBoard.CommandLine.Load
import TaskBoard.Failure
import TaskBoard.Log.Filter
import TaskBoard.Log.Record
import TaskBoard.OpenStore
import TaskBoard.Service

/-!
# Launching the program

From a command line to what the program writes and to how it ends. A command is carried out in steps
that are recorded as they succeed; the failure that ends it is recorded last.
-/

namespace TaskBoard.Launch

open Config CommandLine Log Net

variable {σ : Type}

structure Surroundings (σ : Type) where
  files : Files
  environment : List Variable
  network : Remote.Network σ
  /-- The state of the network. -/
  state : σ
  /-- Why an address cannot be listened on, if it cannot. -/
  bindFailure? : SocketAddress → Option String

/-! ## Records -/

def cacheTarget : String × Log.Value := ("target", .text "taskdeck::cache")

def opened (s : StoreSettings) : Record :=
  match s.backend with
  | .memory => ⟨.info, "using in-process cache store", [cacheTarget]⟩
  | .redis => ⟨.info, "connected to redis cache store",
      [cacheTarget, ("timeout_ms", .number s.timeout.wholeMillis)]⟩

def cacheDisabled : Record := ⟨.info, "response cache disabled", [cacheTarget]⟩

def rateLimitDisabled : Record :=
  ⟨.info, "rate limit disabled", [("target", .text "taskdeck::http")]⟩

def listening (a : SocketAddress) : Record :=
  ⟨.info, "listening", [("addr", .shown (String.ofList a.text))]⟩

def backendTitle : Backend → String
  | .redis => "Redis"
  | .memory => "Memory"

def flushed (b : Backend) : Record :=
  ⟨.info, "cache store flushed", [cacheTarget, ("backend", .shown (backendTitle b))]⟩

def failed (e : AppError) : Record :=
  ⟨.error, "taskdeck exited with an error",
    [("error", .shown e.message), ("chain", Log.chain e.chain)]⟩

/-! ## Commands -/

/-- The records of a command, and the failure that ended it if one did. -/
abbrev Course := List Record × Option AppError

def storeFailure (e : Cache.StoreError) : AppError := .infra (.cache e)

def serviceSettings (s : Settings) : Service.Settings :=
  ⟨if s.cache.enabled then some s.cache else none, if s.limitsRate then some s.rateLimit else none⟩

def serve (around : Surroundings σ) (s : Settings) : Course :=
  match OpenStore.ofSettings around.network around.state s.store with
  | .error e => ([], some (storeFailure e))
  | .ok _ =>
    let service := serviceSettings s
    let records := [opened s.store] ++ (if service.cache.isSome then [] else [cacheDisabled]) ++
      (if service.rateLimit.isSome then [] else [rateLimitDisabled])
    match around.bindFailure? s.server.address with
    | some reason => (records, some (.infra (.io reason)))
    | none => (records ++ [listening s.server.address], none)

def flushCache (around : Surroundings σ) (s : Settings) : Course :=
  match OpenStore.ofSettings around.network around.state s.store with
  | .error e => ([], some (storeFailure e))
  | .ok store =>
    match (OpenStore.store 0 .clear store).1 with
    | .error e => ([opened s.store], some (storeFailure e))
    | .ok () => ([opened s.store, flushed s.store.backend], none)

/-- Carries out a command. Without one the program serves. -/
def carryOut (around : Surroundings σ) (s : Settings) : Option Command → Course
  | some (.flushCache _) => flushCache around s
  | some (.serve _) | none => serve around s

/-! ## The log -/

def filterVariable : List Char := "RUST_LOG".toList

/-- The filter that a variable names, or the threshold of the settings. -/
def filterOf (environment : List Variable) (s : LoggingSettings) : Filter :=
  let text := ((environment.find? (·.name = filterVariable)).map (·.value)).getD []
  Filter.parse s.threshold text

def recordLine (format : LogFormat) (r : Record) (time : List Char) : Line :=
  match format with
  | .json => r.jsonLine time
  | .compact => r.textLine time

/-! ## The program -/

/-- What the program does: it shows a text, refuses its command line, or works and keeps a log. -/
inductive Run where
  | shows (lines : List Line)
  | refuses (refusal : Refusal)
  | works (format : LogFormat) (records : List Record) (succeeds : Bool)

def Run.ofCourse (format : LogFormat) (filter : Filter) (course : Course) : Run :=
  let records := course.1 ++ (course.2.map failed).toList
  let kept := records.filter fun r => filter.keeps target.toList r.fieldNames r.level
  .works format kept course.2.isNone

def versionLine : Line := target.toList ++ ' ' :: Service.version.toList

def loadFailure (e : LoadError) : AppError :=
  .unexpected ("failed to load configuration: " ++ e.message)

/-- Runs the program. Until there are settings, a failure is recorded as text, and always. -/
def run (around : Surroundings σ) (words : List Word) : Run :=
  match Arguments.read around.environment words with
  | .error (.displayHelp page) => .shows page.lines
  | .error .displayVersion => .shows [versionLine]
  | .error refusal => .refuses refusal
  | .ok a =>
    match load around.files around.environment a with
    | .error e => .works .compact [failed (loadFailure e)] false
    | .ok s =>
      Run.ofCourse s.logging.format (filterOf around.environment s.logging)
        (carryOut around s a.command)

def Run.exitCode : Run → Nat
  | shows _ => 0
  | refuses _ => 2
  | works _ _ succeeds => if succeeds then 0 else 1

def Run.lines (time : List Char) : Run → List Line
  | shows lines => lines
  | refuses _ => []
  | works format records _ => records.map (recordLine format · time)

def namesToRead (environment : List Variable) (words : List Word) : List (List Char) :=
  match Arguments.read environment words with
  | .ok a => Config.namesToRead a.configFile
  | .error _ => []

end TaskBoard.Launch
