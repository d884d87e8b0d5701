import TaskBoard.Config.Ini
import TaskBoard.Config.Json
import TaskBoard.Config.Json5
import TaskBoard.Config.Ron
import TaskBoard.Config.Tree
import TaskBoard.Json.Flaw
import TaskBoard.Toml.Flaw
import TaskBoard.Yaml.Document

/-!
# Formats of configuration files

A file has the format that the suffix of its name says.
-/

namespace TaskBoard.Config

open Text

inductive Format where
  | toml
  | json
  | yaml
  | ini
  | ron
  | json5
deriving DecidableEq, Repr

namespace Format

def all : List Format := [toml, json, yaml, ini, ron, json5]

/-- The suffixes of a format, in the order in which they are looked for. -/
def suffixes : Format → List (List Char)
  | toml => ["toml".toList]
  | json => ["json".toList]
  | yaml => ["yaml".toList, "yml".toList]
  | ini => ["ini".toList]
  | ron => ["ron".toList]
  | json5 => ["json5".toList]

def ofSuffix? (s : List Char) : Option Format := all.find? (·.suffixes.contains s)

end Format

/-- Why a text is no document of its format: what is wrong, and where, if that is told. -/
inductive Misread where
  | toml (spot : Toml.Spot) (text : List Char)
  | json (flaw : Json.Flaw) (place : Position)
  | ini (flaw : Ini.Flaw) (place : Position)
  | untold
deriving DecidableEq, Repr

def Misread.message : Misread → List Char
  | toml spot text => spot.message text
  | json flaw place => s!"{flaw.message} at line {place.line} column {place.column}".toList
  | ini flaw place => s!"{place.line}:{place.column} {flaw.message}".toList
  | untold => "syntax error".toList

def readToml (s : List Char) : Except Misread Value :=
  match Toml.parse? s, Toml.flaw? s with
  | some t, _ => .ok (.table t)
  | none, some spot => .error (.toml spot s)
  | none, none => .error .untold

def readJson (s : Bytes) : Except Misread Value :=
  match jsonValue? s, Json.flaw? maxJsonDepth s with
  | some v, _ => .ok v
  | none, some spot => .error (.json spot.flaw (spot.position s))
  | none, none => .error .untold

def readIni (s : List Char) : Except Misread Value :=
  match Ini.parse s with
  | .ok t => .ok (.table t)
  | .error spot => .error (.ini spot.flaw (spot.position s))

def orUntold : Option Value → Except Misread Value
  | some v => .ok v
  | none => .error .untold

def Format.read (format : Format) (s : List Char) : Except Misread Value :=
  match format with
  | toml => readToml s
  | json => readJson (Utf8.encode s)
  | yaml => orUntold (Yaml.parse? s)
  | ini => readIni s
  | ron => orUntold (Ron.parse? s)
  | json5 => orUntold (Json5.parse? s)

end TaskBoard.Config
