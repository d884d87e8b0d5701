import TaskBoard.CommandLine.Reader
import TaskBoard.Config.Settings
import TaskBoard.Config.Source

/-!
# Arguments

What the program may be asked on its command line.
-/

namespace TaskBoard.CommandLine

open Text Config

/-- The changes to the settings of the store that a command line asks for. -/
structure StoreOverrides where
  backend : Option Backend := none
  url : Option (List Char) := none
  timeoutMs : Option UInt64 := none
deriving DecidableEq, Repr

/-- The changes to the settings of a server that a command line asks for. -/
structure ServeOverrides where
  store : StoreOverrides := {}
  host : Option (List Char) := none
  port : Option UInt16 := none
  shutdownSeconds : Option UInt64 := none
  logLevel : Option (List Char) := none
  logJson : Option Bool := none
  cacheEnabled : Option Bool := none
  cacheTtlSeconds : Option UInt64 := none
  cacheMaxBodyBytes : Option UInt64 := none
  rateLimitEnabled : Option Bool := none
  rateLimitMaxRequests : Option UInt32 := none
deriving DecidableEq, Repr

inductive Command where
  | serve (overrides : ServeOverrides)
  | flushCache (overrides : StoreOverrides)
deriving DecidableEq, Repr

/-- The file of settings and the command that were asked for. -/
structure Arguments where
  configFile : Option (List Char)
  command : Option Command
deriving DecidableEq, Repr

/-! ## Values -/

/-- A flag whose value `read` reads, and which is refused as `refusal` if it cannot. -/
def flag {σ α : Type} (name value about : String) (refusal : Refusal) (read : Word → Option α)
    (set : α → σ → σ) (remarks : List Line) : Flag σ :=
  ⟨name, ⟨"      --" ++ name ++ " <" ++ value ++ ">", about, remarks⟩, fun word st =>
    match read word with
    | some a => .ok (set a st)
    | none => .error refusal⟩

def possible (values : List String) : List Line :=
  ["[possible values: ".toList ++ [',', ' '].intercalate (values.map String.toList) ++ [']']]

def small? (max : Nat) (word : Word) : Option Nat := (signed? 0 max word).map Int.toNat

def u16? (word : Word) : Option UInt16 := (small? maxU16 word).map Nat.toUInt16
def u32? (word : Word) : Option UInt32 := (small? maxU32 word).map Nat.toUInt32
def u64? (word : Word) : Option UInt64 := (unsigned? maxU64 word).map Nat.toUInt64

def trueWords : List String := ["y", "yes", "t", "true", "on", "1"]
def falseWords : List String := ["n", "no", "f", "false", "off", "0"]

def truth? (word : Word) : Option Bool :=
  let word := word.map Char.toLower
  if trueWords.any (·.toList = word) then some true
  else if falseWords.any (·.toList = word) then some false
  else none

def nonEmpty? (word : Word) : Option Word := if word.isEmpty then none else some word

/-! ## Flags -/

def backendFlag {σ : Type} (set : Backend → σ → σ) : Flag σ :=
  flag "cache-backend" "BACKEND" "Override the cache backend" .invalidValue Backend.ofName? set
    (possible (Backend.all.map (·.name)))

def textFlag {σ : Type} (name value about : String) (set : List Char → σ → σ) : Flag σ :=
  flag name value about .invalidValue some set []

def numberFlag {σ α : Type} (name value about : String) (read : Word → Option α) (set : α → σ → σ) :
    Flag σ :=
  flag name value about .valueValidation read set []

def truthFlag {σ : Type} (name about : String) (set : Bool → σ → σ) : Flag σ :=
  flag name "BOOL" about .valueValidation truth? set (possible ["true", "false"])

def storeFlags {σ : Type} (on : (StoreOverrides → StoreOverrides) → σ → σ) : List (Flag σ) := [
  backendFlag fun b => on ({ · with backend := some b }),
  textFlag "cache-redis-url" "URL" "Override the Redis connection URL" fun url =>
    on ({ · with url := some url }),
  numberFlag "cache-operation-timeout-ms" "MILLIS" "Override the per-command store timeout" u64?
    fun n => on ({ · with timeoutMs := some n })]

def serveFlags : List (Flag ServeOverrides) :=
  storeFlags (fun f o => { o with store := f o.store }) ++ [
    textFlag "server-host" "HOST" "Override the listener host" fun host o =>
      { o with host := some host },
    numberFlag "server-port" "PORT" "Override the listener port" u16? fun n o =>
      { o with port := some n },
    numberFlag "server-graceful-shutdown-seconds" "SECONDS" "Override the graceful shutdown timeout"
      u64? fun n o => { o with shutdownSeconds := some n },
    textFlag "log-level" "LEVEL" "Override the base log level (trace|debug|info|warn|error)"
      fun level o => { o with logLevel := some level },
    truthFlag "log-json" "Toggle JSON logging" fun b o => { o with logJson := some b },
    truthFlag "cache-enabled" "Enable or disable the response cache" fun b o =>
      { o with cacheEnabled := some b },
    numberFlag "cache-ttl-seconds" "SECONDS" "Override the cache entry TTL" u64? fun n o =>
      { o with cacheTtlSeconds := some n },
    numberFlag "cache-max-body-bytes" "BYTES" "Override the largest response body that is cached"
      u64? fun n o => { o with cacheMaxBodyBytes := some n },
    truthFlag "rate-limit-enabled" "Enable or disable the service-wide rate limit" fun b o =>
      { o with rateLimitEnabled := some b },
    numberFlag "rate-limit-max-requests" "COUNT" "Override how many requests one window admits" u32?
      fun n o => { o with rateLimitMaxRequests := some n }]

/-- The variable that names the file of settings if no flag does. -/
def configFileVariable : List Char := "TASKDECK_CONFIG_FILE".toList

def configFileVariable? (environment : List Variable) : Option Variable :=
  environment.find? (·.name = configFileVariable)

def configFileFlag (environment : List Variable) : Flag (Option (List Char)) :=
  let now := ((configFileVariable? environment).map (·.value)).getD []
  flag "config-file" "PATH" "Optional path to a configuration file" .invalidValue nonEmpty?
    (fun path _ => some path) ["[env: ".toList ++ configFileVariable ++ '=' :: now ++ [']']]

/-! ## Pages -/

def helpTerm : Term := ⟨"  -h, --help", "Print help", []⟩

def versionTerm : Term := ⟨"  -V, --version", "Print version", []⟩

def commandNotes : List (String × String) := [
  ("serve", "Run the Taskdeck HTTP service"),
  ("flush-cache", "Remove every entry from the configured cache store"),
  ("help", "Print this message or the help of the given subcommand(s)")]

def noteOf (name : String) : String := (commandNotes.lookup name).getD ""

def flagSection {σ : Type} (flags : List (Flag σ)) (others : List Term) : Section :=
  ⟨"Options", flags.map (·.term) ++ others⟩

def commandPage {σ : Type} (name : String) (flags : List (Flag σ)) : Page :=
  ⟨noteOf name, "taskdeck " ++ name ++ " [OPTIONS]", [flagSection flags [helpTerm]]⟩

def topPage (environment : List Variable) : Page :=
  ⟨"Taskdeck task API server", "taskdeck [OPTIONS] [COMMAND]",
    [⟨"Commands", commandNotes.map fun (name, about) => ⟨"  " ++ name, about, []⟩⟩,
      flagSection [configFileFlag environment] [helpTerm, versionTerm]]⟩

def helpPage : Page :=
  ⟨noteOf "help", "taskdeck help [COMMAND]...",
    [⟨"Arguments", [⟨"  [COMMAND]...", "Print help for the subcommand(s)", []⟩]⟩]⟩

/-! ## The command line -/

def serveShape : Shape ServeOverrides := ⟨serveFlags, false, [], commandPage "serve" serveFlags⟩

def flushShape : Shape StoreOverrides :=
  let flags := storeFlags id
  ⟨flags, false, [], commandPage "flush-cache" flags⟩

def topShape (environment : List Variable) : Shape (Option (List Char)) :=
  ⟨[configFileFlag environment], true, commandNotes.map (·.1), topPage environment⟩

def pages : List (List Char × Page) := [
  ("serve".toList, serveShape.page),
  ("flush-cache".toList, flushShape.page),
  ("help".toList, helpPage)]

/-- Asks for the help on a command, which must be one, and must be the last word. -/
def help (environment : List Variable) : List Word → Refusal
  | [] => .displayHelp (topPage environment)
  | [command] => match pages.lookup command with
    | some page => .displayHelp page
    | none => .invalidSubcommand
  | _ => .invalidSubcommand

def readCommand (environment : List Variable) (name : String) (words : List Word) :
    Except Refusal Command :=
  match name with
  | "serve" => (readAll serveShape {} words).map .serve
  | "flush-cache" => (readAll flushShape {} words).map .flushCache
  | _ => .error (help environment words)

/-- Reads a command line. What is wrong after a command is found before what is wrong with the last
flag before it, and a variable is looked at last. -/
def Arguments.read (environment : List Variable) (words : List Word) :
    Except Refusal Arguments := do
  let (p, command) ← readWords (topShape environment) false ⟨none, [], none⟩ words
  let command ← match command with
    | some (name, words) => (readCommand environment name words).map some
    | none => pure none
  let p ← p.settle
  match p.outcome, configFileVariable? environment with
  | none, some v => return ⟨← (configFileFlag environment).accept v.value none, command⟩
  | configFile, _ => return ⟨configFile, command⟩

/-! ## Overrides -/

def replacing {α : Type} (new old : Option α) : Option α := new.orElse fun _ => old

def StoreOverrides.applyTo (o : StoreOverrides) (raw : Raw) : Raw :=
  { raw with cache := { raw.cache with
      backend := replacing (o.backend.map (·.name.toList)) raw.cache.backend
      redisUrl := replacing o.url raw.cache.redisUrl
      operationTimeoutMs := replacing o.timeoutMs raw.cache.operationTimeoutMs } }

def ServeOverrides.applyTo (o : ServeOverrides) (raw : Raw) : Raw :=
  o.store.applyTo {
    server := {
      host := replacing o.host raw.server.host
      port := replacing o.port raw.server.port
      gracefulShutdownSeconds := replacing o.shutdownSeconds raw.server.gracefulShutdownSeconds }
    logging := {
      level := replacing o.logLevel raw.logging.level
      json := replacing o.logJson raw.logging.json }
    cache := { raw.cache with
      enabled := replacing o.cacheEnabled raw.cache.enabled
      ttlSeconds := replacing o.cacheTtlSeconds raw.cache.ttlSeconds
      maxBodyBytes := replacing o.cacheMaxBodyBytes raw.cache.maxBodyBytes }
    rateLimit := { raw.rateLimit with
      enabled := replacing o.rateLimitEnabled raw.rateLimit.enabled
      maxRequests := replacing o.rateLimitMaxRequests raw.rateLimit.maxRequests } }

def Command.applyTo : Command → Raw → Raw
  | serve overrides, raw => overrides.applyTo raw
  | flushCache overrides, raw => overrides.applyTo raw

def Arguments.applyTo (a : Arguments) (raw : Raw) : Raw :=
  match a.command with
  | some command => command.applyTo raw
  | none => raw

end TaskBoard.CommandLine
