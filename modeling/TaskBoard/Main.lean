import Std.Time.DateTime.Timestamp
import TaskBoard.Launch

/-!
# The program

Hands the command line, the variables and the files to the library, and writes what it answers. The
program has no sockets: no server can be reached from it, and no address can be listened on.
-/

namespace TaskBoard.Main

open CommandLine Config

/-- The variables in a block of names and values, each with a zero byte after it. -/
def variablesOf (block : Bytes) : List Variable :=
  (Text.splitAll 0 block).filterMap fun entry =>
    (Text.splitFirst? '=' (Text.Utf8.decodeLossy entry)).map fun (name, value) => ⟨name, value⟩

def readBytes (path : String) : IO Bytes := do
  return (← IO.FS.readBinFile path).data.toList

/-- A name with what is in the file of that name, if it can be read. -/
def readFile? (name : List Char) : IO (Option (List Char × Bytes)) := do
  try
    return some (name, ← readBytes (String.ofList name))
  catch _ =>
    return none

def now : IO (List Char) := do
  let nanos := (← Std.Time.Timestamp.now).toNanosecondsSinceUnixEpoch.val.toNat
  return (Time.Moment.ofUnix (nanos / 1000000000) (nanos % 1000000000)).microText

def printLine (line : Line) : IO Unit := IO.println (String.ofList line)

def refusalText : Refusal → String
  | .displayHelp _ | .displayVersion => "nothing to do"
  | .unknownArgument => "unexpected argument found"
  | .invalidSubcommand => "unrecognized subcommand"
  | .invalidValue => "a value is missing or not among the possible ones"
  | .valueValidation => "invalid value"
  | .argumentConflict => "an argument cannot be used multiple times"
  | .tooManyValues => "unexpected value found"

def perform : Launch.Run → IO Unit
  | .shows lines => lines.forM printLine
  | .refuses refusal => do
    IO.eprintln ("error: " ++ refusalText refusal ++ "\n\nFor more information, try '--help'.")
  | .works format records _ => records.forM fun r => do
    printLine (Launch.recordLine format r (← now))

end TaskBoard.Main

open TaskBoard in
def main (args : List String) : IO UInt32 := do
  let words := args.map String.toList
  let environment := Main.variablesOf (← Main.readBytes "/proc/self/environ")
  let files ← (Launch.namesToRead environment words).filterMapM Main.readFile?
  let around : Launch.Surroundings Unit := {
    files := fun name => files.lookup name
    environment
    network := Remote.noNetwork
    state := ()
    bindFailure? := fun _ => some "Function not implemented (os error 38)" }
  let run := Launch.run around words
  Main.perform run
  return run.exitCode.toUInt32
