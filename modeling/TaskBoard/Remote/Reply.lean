import TaskBoard.Text.Numeral
import TaskBoard.Text.Quoted
import TaskBoard.Text.Utf8

/-!
# Replies of remote stores

What a remote store answers to a command, and how an answer is taken as a value of the type that the
command gives.
-/

namespace TaskBoard.Remote

open Text

inductive Reply where
  | nil
  | int (n : Int)
  | simple (text : List Char)
  | bulk (bytes : Bytes)
  | list (items : List Reply)
  | error (text : List Char)

abbrev Command := List Bytes

/-- A remote store with states in `σ`. It may fail to answer in time. -/
abbrev Server (σ : Type) := Command → σ → Option Reply × σ

/-! ## Errors -/

/-- The codes of errors that have a name of their own, and the names. -/
def knownCodes : List (String × String) := [
  ("ERR", "ResponseError"), ("EXECABORT", "ExecAbortError"), ("LOADING", "BusyLoadingError"),
  ("NOSCRIPT", "NoScriptError"), ("MOVED", "Moved"), ("ASK", "Ask"), ("TRYAGAIN", "TryAgain"),
  ("CLUSTERDOWN", "ClusterDown"), ("CROSSSLOT", "CrossSlot"), ("MASTERDOWN", "MasterDown"),
  ("READONLY", "ReadOnly"), ("NOTBUSY", "NotBusy")]

/-- The message of an error: what its code means, and the text after the code. -/
def errorMessage (text : List Char) : List Char :=
  let (code, rest) := match splitAtSpace text with
    | (code, some rest) => (code, some rest)
    | (code, none) => (code, none)
  match knownCodes.find? (·.1.toList = code), rest with
  | some (_, name), some rest =>
    "An error was signalled by the server - ".toList ++ name.toList ++ ':' :: ' ' :: rest
  | some (_, name), none => "An error was signalled by the server- ".toList ++ name.toList
  | none, some rest => code ++ ':' :: ' ' :: rest
  | none, none => code ++ ": Unknown extension error encountered".toList
where
  splitAtSpace : List Char → List Char × Option (List Char)
    | [] => ([], none)
    | ' ' :: rest => ([], some rest)
    | c :: rest => let (code, after) := splitAtSpace rest; (c :: code, after)

def intText (n : Int) : List Char :=
  match n with
  | .ofNat n => decimal n
  | .negSucc n => '-' :: decimal (n + 1)

def commaSeparated (parts : List (List Char)) : List Char := [',', ' '].intercalate parts

mutual

def Reply.shown : Reply → List Char
  | .nil => "nil".toList
  | .int n => "int(".toList ++ intText n ++ [')']
  | .simple text =>
    if text = "OK".toList then "ok".toList else "simple-string(".toList ++ quoted text ++ [')']
  | .bulk bytes =>
    match Utf8.decode? bytes with
    | some text => "bulk-string('".toList ++ quoted text ++ ['\'', ')']
    | none =>
      "binary-data([".toList ++ commaSeparated (bytes.map fun b => decimal b.toNat) ++ [']', ')']
  | .list items => "array([".toList ++ commaSeparated (shownAll items) ++ [']', ')']
  | .error text => "Server error: ".toList ++ errorMessage text

def shownAll : List Reply → List (List Char)
  | [] => []
  | reply :: rest => reply.shown :: shownAll rest

end

def incompatible (why : String) (reply : Reply) : List Char :=
  "Response was of incompatible type - TypeError: \"".toList ++ why.toList ++
    "\" (response was ".toList ++ reply.shown ++ [')']

def invalidUtf8 : List Char := "Invalid UTF-8- TypeError".toList

/-! ## Values -/

mutual

def Reply.error? : Reply → Option (List Char)
  | .error text => some text
  | .list items => firstError? items
  | .nil | .int _ | .simple _ | .bulk _ => none

def firstError? : List Reply → Option (List Char)
  | [] => none
  | reply :: rest => (reply.error?).orElse fun _ => firstError? rest

end

abbrev Taken (α : Type) := Except (List Char) α

/-- A text. A number is as good as its digits. -/
def Reply.toText : Reply → Taken (List Char)
  | .simple text => .ok text
  | .int n => .ok (intText n)
  | .bulk bytes =>
    match Utf8.decode? bytes with
    | some text => .ok text
    | none => .error invalidUtf8
  | r => .error (incompatible "Response type not string compatible." r)

/-- A list of texts. Nothing is as good as an empty list, and one text as a list of it. -/
def Reply.toTexts : Reply → Taken (List (List Char))
  | .list items => items.mapM Reply.toText
  | .nil => .ok []
  | .bulk bytes => (Reply.bulk bytes).toText.map ([·])
  | r => .error (incompatible "Response type not vector compatible." r)

def byteIn (r : Reply) (text : List Char) : Taken UInt8 :=
  match unsigned? 255 text with
  | some n => .ok (UInt8.ofNat n)
  | none => .error (incompatible "Could not convert from string." r)

/-- A byte in a list of numbers. A number that is none is one modulo 256. -/
def Reply.toByte (r : Reply) : Taken UInt8 :=
  match r with
  | .int n => .ok (UInt8.ofNat (n % 256).toNat)
  | .bulk bytes =>
    match Utf8.decode? bytes with
    | some text => byteIn r text
    | none => .error invalidUtf8
  | .simple text =>
    if text = "OK".toList then .error (incompatible "Response type not convertible to numeric." r)
    else byteIn r text
  | r => .error (incompatible "Response type not convertible to numeric." r)

def Reply.toBytes : Reply → Taken (Option Bytes)
  | .nil => .ok none
  | .bulk bytes => .ok (some bytes)
  | .list items => (items.mapM Reply.toByte).map some
  | r => .error (incompatible "Response type not vector compatible." r)

end TaskBoard.Remote
