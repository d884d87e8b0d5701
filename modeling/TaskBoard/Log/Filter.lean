import TaskBoard.Log.Level
import TaskBoard.Log.ValuePattern
import TaskBoard.Text.Alphanumeric
import TaskBoard.Text.Blank
import TaskBoard.Text.Split
import TaskBoard.Text.Utf8

/-!
# Log filters

Directives that say from which level on records are kept: all records, or those whose target starts
with a given text and that have given fields. The directive that says most about a record decides.
A directive may also ask for a span or for the value of a field, and then it is about no record of
this program.
-/

namespace TaskBoard.Log

open Text

/-- A field that a directive asks for, and whether it asks for the field's value. -/
structure FieldMatch where
  name : List Char
  hasValue : Bool
deriving DecidableEq, Repr

structure Directive where
  target : Option (List Char) := none
  span : Option (List Char) := none
  fields : List FieldMatch := []
  threshold : Threshold := ⟨some .trace⟩
deriving DecidableEq, Repr

/-! ## Reading -/

/-- What is being read. A place in the text is counted in bytes. -/
inductive Stage where
  | start
  /-- A level or a target. -/
  | head
  | span (start : Nat)
  | field (start : Nat)
  /-- After the brace that ends the fields. -/
  | fields
  /-- After the bracket that ends a span. -/
  | closed
  | level (start : Nat)
deriving DecidableEq, Repr

def between? (s : Bytes) (start stop : Nat) : Option (List Char) :=
  Utf8.decode? ((s.take stop).drop start)

def isHeadStart (c : Char) : Bool := isAlphanumeric c || c = '-' || c = ':' || c = '_'

/-- A field, and a value after an equals sign if one is asked for. -/
def fieldMatch? (s : List Char) : Option FieldMatch :=
  match splitFirst? '=' s with
  | some (name, rest) =>
    if isValuePattern (rest.takeWhile (· != '=')) then some ⟨name, true⟩ else none
  | none => if s.isEmpty then none else some ⟨s, false⟩

def Stage.next? (text : Bytes) (d : Directive) (i : Nat) (c : Char) :
    Stage → Option (Stage × Directive)
  | start =>
    if c = '[' then some (span (i + 1), d)
    else if isHeadStart c then some (head, d)
    else none
  | head =>
    if c = '=' then do some (level (i + 1), { d with target := ← between? text 0 i })
    else if c = '[' then do some (span (i + 1), { d with target := ← between? text 0 i })
    else some (head, d)
  | span j =>
    if c = ']' then do some (closed, { d with span := ← between? text j i })
    else if c = '\x7b' then do
      let name ← between? text j i
      some (field (i + 1), { d with span := if name.isEmpty then none else some name })
    else some (span j, d)
  | field j =>
    if c = '\x7d' then do
      let f ← fieldMatch? (← between? text j i)
      some (fields, { d with fields := d.fields ++ [f] })
    else some (field j, d)
  | fields => if c = ']' then some (closed, d) else none
  | closed => if c = '=' then some (level (i + 1), d) else none
  | level j => some (level j, d)

def thresholdOf? (s : List Char) : Option Threshold :=
  if s.isEmpty then some ⟨some .trace⟩ else Threshold.parse? s

/-- What has been read where the text ends. A head alone is a level, or else a target. -/
def Stage.finish? (text : Bytes) (d : Directive) : Stage → Option Directive
  | head => do
    let s ← Utf8.decode? text
    match Threshold.parse? s with
    | some threshold => some { d with threshold }
    | none => some { d with target := some s }
  | level j => do
    let threshold ← thresholdOf? (← Utf8.decode? (text.drop j))
    some { d with threshold }
  | closed => some d
  | start | span _ | field _ | fields => none

def Directive.readLoop (text : Bytes) (i : Nat) (stage : Stage) (d : Directive) :
    List Char → Option Directive
  | [] => stage.finish? text d
  | c :: s => do
    let (stage, d) ← stage.next? text d i c
    readLoop text (i + (Utf8.encode [c]).length) stage d s

/-- Reads a directive. The characters are those of the text without the white space around it, but
their places are taken in the text as it is. -/
def Directive.parse? (s : List Char) : Option Directive :=
  readLoop (Utf8.encode s) 0 .start {} (trim s)

/-! ## Choosing -/

/-- Which records a directive is about, and from which level on they are kept. -/
structure Rule where
  target : Option (List Char)
  fields : List (List Char)
  threshold : Threshold
deriving DecidableEq, Repr

/-- The rule of a directive that asks for no span and no value. -/
def Directive.rule? (d : Directive) : Option Rule :=
  if d.span.isSome || d.fields.any (·.hasValue) then none
  else some ⟨d.target, d.fields.map (·.name), d.threshold⟩

namespace Rule

/-- Whether the rule is about a record with this target and these fields. -/
def fits (target : List Char) (fields : List (List Char)) (r : Rule) : Bool :=
  (r.target.all (·.isPrefixOf target)) && r.fields.all fields.contains

/-- How much of a target a rule names. One that names none comes before one that names none of its
characters. -/
def targetWeight (r : Rule) : Nat := (r.target.map (·.length + 1)).getD 0

/-- Whether a rule says at least as much about a record as another one. Both fit it, so that they
name the same target if they name as much of it. -/
def isCloser (a b : Rule) : Bool :=
  if a.targetWeight != b.targetWeight then b.targetWeight < a.targetWeight
  else if a.fields.length != b.fields.length then b.fields.length < a.fields.length
  else !decide (a.fields < b.fields)

end Rule

/-- The rules by which records are kept. Of two that say as much the later one counts. -/
abbrev Filter := List Rule

namespace Filter

/-- The rules that directives give. Those of directives that ask for fields come last. If there is
no directive, all records are kept from a level on. -/
def ofDirectives (default : Threshold) (directives : List Directive) : Filter :=
  if directives.isEmpty then [⟨none, [], default⟩]
  else
    let (plain, withFields) := directives.partition (·.fields.isEmpty)
    plain.filterMap Directive.rule? ++ withFields.filterMap Directive.rule?

/-- The filter in a text. What is no directive is passed over. -/
def parse (default : Threshold) (s : List Char) : Filter :=
  ofDirectives default ((splitAll ',' s).filterMap Directive.parse?)

def ruleFor? (filter : Filter) (target : List Char) (fields : List (List Char)) : Option Rule :=
  (filter.filter (Rule.fits target fields)).foldl (fun best r =>
    if best.all (r.isCloser ·) then some r else best) none

def keeps (filter : Filter) (target : List Char) (fields : List (List Char)) (level : Level) :
    Bool :=
  (filter.ruleFor? target fields).any (·.threshold.keeps level)

end Filter

end TaskBoard.Log
