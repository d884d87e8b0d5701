import TaskBoard.Json.Reader

/-!
# Records in JSON

A record is an object with named members, or a list of the members' values in their order. Members
that the record does not know are passed over.
-/

namespace TaskBoard.Json

structure Member (σ : Type) where
  name : List Char
  /-- Whether the member has been read before. -/
  isSet : σ → Bool
  /-- Whether a list may end before the member. -/
  mayLack : Bool
  read : σ → Reader σ

structure Shape (σ α : Type) where
  start : σ
  members : List (Member σ)
  /-- The record, if no member that it needs is missing. -/
  finish : σ → Option α

def colonAfterName (s : Bytes) : Except Fault Bytes :=
  match skipBlank s with
  | [] => .error .truncated
  | b :: s => if b = colon then .ok s else .error .malformed

variable {σ α : Type}

def readMember (members : List (Member σ)) (st : σ) : Reader σ := fun s =>
  match string s with
  | .error e => .error e
  | .ok (name, s) =>
    match members.find? (·.name = name) with
    | none => do
      let s ← colonAfterName s
      let s ← skipValue s
      return (st, s)
    | some member =>
      if member.isSet st then .error .mismatch
      else (colonAfterName s).bind (member.read st)

/-- The members of an object that has been opened, up to its end. -/
def readMembers (members : List (Member σ)) : Nat → Bool → σ → Reader σ
  | 0, _, _, _ => .error .truncated
  | fuel + 1, isFirst, st, s =>
    match skipBlank s with
    | [] => .error .truncated
    | b :: rest =>
      if b = closeBrace then .ok (st, rest)
      else if isFirst then
        if b = quote then
          match readMember members st rest with
          | .ok (st, s) => readMembers members fuel false st s
          | .error e => .error e
        else .error .malformed
      else if b = comma then
        match skipBlank rest with
        | [] => .error .truncated
        | b :: rest =>
          if b = quote then
            match readMember members st rest with
            | .ok (st, s) => readMembers members fuel false st s
            | .error e => .error e
          else .error .malformed
      else .error .malformed

def readItems : Bool → List (Member σ) → σ → Reader σ
  | _, [], st, s =>
    match skipBlank s with
    | [] => .error .truncated
    | b :: rest => if b = closeBracket then .ok (st, rest) else .error .malformed
  | isFirst, member :: members, st, s =>
    match skipBlank s with
    | [] => .error .truncated
    | b :: rest =>
      if b = closeBracket then
        if member.mayLack then readItems isFirst members st s else .error .mismatch
      else if isFirst then
        match member.read st s with
        | .ok (st, s) => readItems false members st s
        | .error e => .error e
      else if b = comma then
        match skipBlank rest with
        | [] => .error .truncated
        | c :: _ =>
          if c = closeBracket then .error .malformed
          else match member.read st rest with
            | .ok (st, s) => readItems false members st s
            | .error e => .error e
      else .error .malformed

def finishRecord (shape : Shape σ α) (result : Except Fault (σ × Bytes)) :
    Except Fault (α × Bytes) :=
  match result with
  | .error e => .error e
  | .ok (st, s) =>
    match shape.finish st with
    | some a => .ok (a, s)
    | none => .error .mismatch

def record (shape : Shape σ α) : Reader α := fun s =>
  match skipBlank s with
  | [] => .error .truncated
  | b :: rest =>
    if b = openBrace then
      finishRecord shape (readMembers shape.members (rest.length + 1) true shape.start rest)
    else if b = openBracket then
      finishRecord shape (readItems true shape.members shape.start rest)
    else .error (unexpected (b :: rest))

def optional (r : Reader α) : Reader (Option α) := fun s =>
  match skipBlank s with
  | b :: rest =>
    if b = letterN then (word afterN rest).map (none, ·)
    else (r s).map fun (a, s) => (some a, s)
  | [] => (r s).map fun (a, s) => (some a, s)

def textOf (f : List Char → Option α) : Reader α := fun s =>
  match text s with
  | .error e => .error e
  | .ok (t, s) =>
    match f t with
    | some a => .ok (a, s)
    | none => .error .mismatch

/-- The `null` and the closing brace of a choice in the form of an object. -/
def endOfChoice (a : α) : Reader α := fun s => do
  let s ← colonAfterName s
  match skipBlank s with
  | [] => throw .truncated
  | b :: rest =>
    if b = letterN then
      let s ← word afterN rest
      match skipBlank s with
      | [] => throw .truncated
      | b :: rest => if b = closeBrace then return (a, rest) else throw .malformed
    else throw (unexpected (b :: rest))

/-- One of several names: a string, or an object whose only member has that name and is `null`. -/
def choice (f : List Char → Option α) : Reader α := fun s =>
  match skipBlank s with
  | [] => .error .truncated
  | b :: rest =>
    if b = quote then textOf f (b :: rest)
    else if b = openBrace then
      match skipBlank rest with
      | [] => .error .truncated
      | c :: _ =>
        if c != quote then .error .malformed
        else (textOf f rest).bind fun (a, s) => endOfChoice a s
    else .error .malformed

def member {β : Type} (name : String) (mayLack : Bool) (r : Reader β) (get : σ → Option β)
    (put : σ → β → σ) : Member σ where
  name := name.toList
  isSet := fun st => (get st).isSome
  mayLack := mayLack
  read := fun st s => (r s).map fun (b, s) => (put st b, s)

end TaskBoard.Json
