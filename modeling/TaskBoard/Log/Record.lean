import TaskBoard.Json.Writer
import TaskBoard.Log.Level
import TaskBoard.Text.Quoted

/-!
# Log records

A record is a message with named fields. It is written on a line of its own, as text or as JSON.
-/

namespace TaskBoard.Log

inductive Value where
  /-- A text that stands in quotes. -/
  | text (s : String)
  /-- A text that stands as it is. -/
  | shown (s : String)
  | number (n : Nat)
deriving DecidableEq, Repr

def Value.plain : Value → String
  | text s | shown s => s
  | number n => toString n

structure Record where
  level : Level
  message : String
  fields : List (String × Value)
deriving DecidableEq, Repr

/-- The names of all fields. The message counts as one. -/
def Record.fieldNames (r : Record) : List (List Char) :=
  "message".toList :: r.fields.map (·.1.toList)

def chain (messages : List String) : Value :=
  .shown (String.ofList (Text.quotedList (messages.map String.toList)))

/-! ## Lines -/

/-- The name of the program, under which it writes its records. -/
def target : String := "taskdeck"

def Value.lineText : Value → List Char
  | text s => Text.quoted s.toList
  | shown s => s.toList
  | number n => Text.decimal n

/-- The name of a level with a blank before it, if it is shorter than the longest. -/
def levelText (level : Level) : List Char :=
  List.replicate (5 - level.name.length) ' ' ++ level.name.toList

def fieldText (field : String × Value) : List Char :=
  ' ' :: field.1.toList ++ '=' :: field.2.lineText

def Record.textLine (r : Record) (time : List Char) : List Char :=
  time ++ ' ' :: levelText r.level ++ ' ' :: target.toList ++ ':' :: ' ' :: r.message.toList ++
    r.fields.flatMap fieldText

def Value.json : Value → List Char
  | text s | shown s => Json.quoted s.toList
  | number n => Json.written n

/-- A record as a line of JSON. Its fields stand beside its level and its message. -/
def Record.jsonLine (r : Record) (time : List Char) : List Char :=
  Json.object (
    [("timestamp", Json.quoted time), ("level", Json.quoted r.level.name.toList),
      ("message", Json.quoted r.message.toList)] ++
    r.fields.map (fun (name, value) => (name, value.json)) ++
    [("target", Json.quoted target.toList)])

end TaskBoard.Log
