import TaskBoard.Config.Value
import TaskBoard.Json.Reader

/-!
# Configuration in JSON
-/

namespace TaskBoard.Config

open Json

def maxJsonDepth : Nat := 127

def numberValue : Number → Value
  | .whole n => .whole n
  | .real x => .real x

def wordValue (rest : List UInt8) (v : Value) (s : Bytes) : Except Fault (Value × Bytes) :=
  (word rest s).map (v, ·)

mutual

/-- A value of any type. `fuel` bounds the steps, `depth` the brackets that may still be opened. -/
def jsonValue : Nat → Nat → Reader Value
  | 0, _, _ => .error .malformed
  | fuel + 1, depth, s =>
    match skipBlank s with
    | [] => .error .truncated
    | b :: rest =>
      if b = letterN then wordValue afterN .null rest
      else if b = letterT then wordValue afterT (.truth true) rest
      else if b = letterF then wordValue afterF (.truth false) rest
      else if b = minus || Json.isDigit b then
        (number (b :: rest)).map fun (n, s) => (numberValue n, s)
      else if b = quote then (string rest).map fun (text, s) => (.text text, s)
      else if depth = 0 then .error .malformed
      else if b = openBracket then jsonItems fuel (depth - 1) [] rest
      else if b = openBrace then jsonMembers fuel (depth - 1) [] rest
      else .error .malformed

/-- The items of a list, with the items before them in reverse. -/
def jsonItems : Nat → Nat → List Value → Reader Value
  | 0, _, _, _ => .error .malformed
  | fuel + 1, depth, done, s =>
    match skipBlank s with
    | [] => .error .truncated
    | b :: rest =>
      if b = closeBracket && done.isEmpty then .ok (.list [], rest)
      else do
        let (v, s) ← jsonValue fuel depth (b :: rest)
        match skipBlank s with
        | [] => .error .truncated
        | b :: rest =>
          if b = comma then jsonItems fuel depth (v :: done) rest
          else if b = closeBracket then .ok (.list (v :: done).reverse, rest)
          else .error .malformed

/-- The members of an object, with the members before them. Of a name that is repeated the last
value counts. -/
def jsonMembers : Nat → Nat → Table → Reader Value
  | 0, _, _, _ => .error .malformed
  | fuel + 1, depth, done, s =>
    match skipBlank s with
    | [] => .error .truncated
    | b :: rest =>
      if b = closeBrace && done.isEmpty then .ok (.table [], rest)
      else if b = quote then do
        let (name, s) ← string rest
        match skipBlank s with
        | [] => .error .truncated
        | b :: rest =>
          if b = colon then do
            let (v, s) ← jsonValue fuel depth rest
            let done := putNamed done name v
            match skipBlank s with
            | [] => .error .truncated
            | b :: rest =>
              if b = comma then jsonMembers fuel depth done rest
              else if b = closeBrace then .ok (.table done, rest)
              else .error .malformed
          else .error .malformed
      else .error .malformed

end

def jsonValue? (s : Bytes) : Option Value :=
  match whole (jsonValue (2 * s.length + 2) maxJsonDepth) s with
  | .ok v => some v
  | .error _ => none

end TaskBoard.Config
