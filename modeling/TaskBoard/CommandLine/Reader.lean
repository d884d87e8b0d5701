import TaskBoard.CommandLine.Help

/-!
# Reading command lines

A command line is read word by word. A word with two dashes names a flag, whose value follows it
after an equals sign or as the next word; any other word names a command, if commands are there.
The value of a flag is looked at when the next flag is met, or at the end.
-/

namespace TaskBoard.CommandLine

abbrev Word := List Char

/-- Why a command line is not carried out. -/
inductive Refusal where
  | displayHelp (page : Page)
  | displayVersion
  | unknownArgument
  | invalidSubcommand
  | invalidValue
  | valueValidation
  | argumentConflict
  | tooManyValues
deriving DecidableEq, Repr

/-- A flag that takes a value, what is said of it, and what the value does to the outcome. -/
structure Flag (σ : Type) where
  name : String
  term : Term
  accept : Word → σ → Except Refusal σ

/-- What may stand on a command line, and the page that explains it. -/
structure Shape (σ : Type) where
  flags : List (Flag σ)
  hasVersion : Bool
  commands : List String
  page : Page

/-- How far a command line has been read: the outcome so far, the flags whose values have been
looked at, and the flag whose value has not, with its value once it is there. -/
structure Progress (σ : Type) where
  outcome : σ
  used : List String := []
  pending : Option (Flag σ × Option Word) := none

variable {σ : Type}

/-- Gives a flag its value. A flag may be given once. -/
def Progress.give (p : Progress σ) (flag : Flag σ) (value : Option Word) :
    Except Refusal (Progress σ) :=
  match value with
  | none => .error .invalidValue
  | some word =>
    if p.used.contains flag.name then .error .argumentConflict
    else (flag.accept word p.outcome).map fun outcome => ⟨outcome, flag.name :: p.used, p.pending⟩

def Progress.settle (p : Progress σ) : Except Refusal (Progress σ) :=
  match p.pending with
  | none => .ok p
  | some (flag, value) => { p with pending := none }.give flag value

def Progress.awaits (p : Progress σ) : Bool :=
  match p.pending with
  | some (_, none) => true
  | _ => false

def Progress.take (p : Progress σ) (word : Word) : Progress σ :=
  { p with pending := p.pending.map fun (flag, _) => (flag, some word) }

/-- A name, and the value after the first equals sign if there is one. -/
def splitValue : Word → Word × Option Word
  | [] => ([], none)
  | '=' :: value => ([], some value)
  | c :: rest => let (name, value) := splitValue rest; (c :: name, value)

/-- Asks for help or for the version, which is refused once the last value has been looked at. -/
def askFor (refusal : Refusal) (p : Progress σ) : Except Refusal (Progress σ) := do
  let _ ← p.settle
  throw refusal

/-- Reads a word that starts with two dashes, from after them on. -/
def readLong (shape : Shape σ) (p : Progress σ) (word : Word) : Except Refusal (Progress σ) :=
  let (name, value) := splitValue word
  let asks := if name = "help".toList then some (.displayHelp shape.page)
    else if shape.hasVersion && name = "version".toList then some .displayVersion
    else none
  match asks with
  | some refusal => if value.isSome then .error .tooManyValues else askFor refusal p
  | none =>
    match shape.flags.find? (·.name.toList = name) with
    | none => .error .unknownArgument
    | some flag => do
      let p ← p.settle
      match value with
      | some _ => p.give flag value
      | none => .ok { p with pending := some (flag, none) }

/-- Reads a word that starts with one dash, from its first letter on. -/
def readShort (shape : Shape σ) (p : Progress σ) (letter : Char) : Except Refusal (Progress σ) :=
  if letter = 'h' then askFor (.displayHelp shape.page) p
  else if shape.hasVersion && letter = 'V' then askFor .displayVersion p
  else .error .unknownArgument

/-- Why a word that is neither a flag nor a value nor a command is refused. After two dashes a
command is none any more. -/
def stray (shape : Shape σ) (afterDashes : Bool) (word : Word) : Refusal :=
  if afterDashes && shape.commands.any (·.toList = word) then .unknownArgument
  else if shape.commands.isEmpty then .unknownArgument
  else .invalidSubcommand

/-- Reads words up to a command: how far that leads, the command, and the words after it. -/
def readWords (shape : Shape σ) (afterDashes : Bool) (p : Progress σ) :
    List Word → Except Refusal (Progress σ × Option (String × List Word))
  | [] => .ok (p, none)
  | word :: words =>
    if afterDashes then .error (stray shape true word)
    else
      match if p.awaits then none else shape.commands.find? (·.toList = word) with
      | some command => .ok (p, some (command, words))
      | none =>
        match word with
        | ['-', '-'] => readWords shape true p words
        | '-' :: '-' :: rest => do readWords shape false (← readLong shape p rest) words
        | '-' :: letter :: _ => do readWords shape false (← readShort shape p letter) words
        | word =>
          if p.awaits then readWords shape false (p.take word) words
          else .error (stray shape false word)

def readAll (shape : Shape σ) (start : σ) (words : List Word) : Except Refusal σ := do
  let (p, _) ← readWords shape false ⟨start, [], none⟩ words
  let p ← p.settle
  return p.outcome

end TaskBoard.CommandLine
