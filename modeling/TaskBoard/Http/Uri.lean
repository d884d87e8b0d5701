import TaskBoard.Text.Split
import TaskBoard.Text.Utf8

/-!
# Request targets

A request names a path, alone or after a scheme and an authority, and may add a query. A fragment
is dropped. Percent signs are not looked at here.
-/

namespace TaskBoard.Http

structure Uri where
  path : List Char
  query : Option (List Char)
deriving DecidableEq, Repr

namespace Uri

def maxLength : Nat := 65534

def isAsciiControl (c : Char) : Bool := c.toNat ≤ 0x20 || c.toNat = 0x7F

def isPathChar (c : Char) : Bool :=
  !isAsciiControl c && c != '<' && c != '>' && c.toNat != 0x60

def isQueryChar (c : Char) : Bool :=
  !isAsciiControl c && c != '"' && c != '<' && c != '>'

/-- What stands before the first character of `stops`, and the rest from that character on. -/
def upTo (stops : List Char) (s : List Char) : List Char × List Char :=
  (s.takeWhile (!stops.contains ·), s.dropWhile (!stops.contains ·))

/-- A path, then perhaps a query after `?`, then perhaps a fragment after `#`. -/
def ofPathAndQuery? (s : List Char) : Option Uri :=
  let (path, rest) := upTo ['?', '#'] s
  if path.all isPathChar then
    match rest with
    | '?' :: more =>
      let query := (upTo ['#'] more).1
      if query.all isQueryChar then some ⟨path, some query⟩ else none
    | _ => some ⟨path, none⟩
  else none

def isAlphanumeric (c : Char) : Bool := c.isAlpha || c.isDigit

def isSchemeChar (c : Char) : Bool := isAlphanumeric c || "+-.~".toList.contains c

def maxSchemeLength : Nat := 64

inductive Opening where
  | scheme (rest : List Char)
  | noScheme
  | tooLong
deriving DecidableEq, Repr

def opening (s : List Char) : Opening :=
  let lower := s.map Char.toLower
  if "http://".toList.isPrefixOf lower then .scheme (s.drop 7)
  else if "https://".toList.isPrefixOf lower then .scheme (s.drop 8)
  else
    let name := s.takeWhile isSchemeChar
    match s.dropWhile isSchemeChar with
    | ':' :: '/' :: '/' :: rest => if name.length ≤ maxSchemeLength then .scheme rest else .tooLong
    | _ => .noScheme

/-- The characters of an authority, apart from `%`. -/
def isAuthorityChar (c : Char) : Bool :=
  isAlphanumeric c || "!$&'()*+,-.:;=@[]_~".toList.contains c

/-- What is known of an authority after a part of it. -/
structure Authority where
  colons : Nat := 0
  opened : Bool := false
  closed : Bool := false
  percent : Bool := false
  endsUserInfo : Bool := false
deriving DecidableEq, Repr

/-- The most colons before a bracket closes or user information ends. -/
def maxColons : Nat := 8

def Authority.read (a : Authority) (c : Char) : Option Authority :=
  let a := { a with endsUserInfo := false }
  match c with
  | ':' => if a.colons < maxColons then some { a with colons := a.colons + 1 } else none
  | '[' => if a.percent || a.opened then none else some { a with opened := true }
  | ']' =>
    if !a.opened || a.closed then none
    else some { a with closed := true, colons := 0, percent := false }
  | '@' => some { a with colons := 0, percent := false, endsUserInfo := true }
  | '%' => some { a with percent := true }
  | _ => if isAuthorityChar c then some a else none

/-- A host with at most one port, perhaps after user information, and with matching brackets. -/
def isAuthority (s : List Char) : Bool :=
  match s.foldlM Authority.read {} with
  | some a => a.opened == a.closed && a.colons ≤ 1 && !a.percent && !a.endsUserInfo
  | none => false

/-- A target that does not start with a slash: absolute, or an authority alone. -/
def ofAbsolute? (s : List Char) : Option Uri :=
  match opening s with
  | .scheme rest =>
    let (authority, more) := upTo ['/', '?', '#'] rest
    if authority.isEmpty || !isAuthority authority then none
    else match ofPathAndQuery? more with
      | some uri => some (if uri.path.isEmpty then { uri with path := ['/'] } else uri)
      | none => none
  | .noScheme => if isAuthority s then some ⟨[], none⟩ else none
  | .tooLong => none

def parse? (s : List Char) : Option Uri :=
  if (Text.Utf8.encode s).length > maxLength then none
  else match s with
    | [] => none
    | ['*'] => some ⟨['*'], none⟩
    | '/' :: _ => ofPathAndQuery? s
    | _ => ofAbsolute? s

end Uri

end TaskBoard.Http
