/-!
# Terminals

Some characters control a terminal and do not show on it: control characters, and the sequences that
an escape character opens. What is left without them is the plain text.
-/

namespace TaskBoard.Text.Terminal

/-- The part of a control sequence that is being passed over. -/
inductive Passage where
  /-- Nothing: characters show. -/
  | ground
  /-- After the escape character. -/
  | escape
  /-- After a mark that more is to come. -/
  | escapeMark
  /-- After a bracket and before the letter that ends the sequence. -/
  | control
  /-- In a string for the device, before its text. -/
  | deviceHead
  /-- In a text for the device or the terminal. -/
  | string
  /-- In a command for the terminal, which a bell may end. -/
  | command
deriving DecidableEq, Repr

def escapeChar : Char := '\x1b'

/-- Characters that break off any sequence. -/
def isCancel (c : Char) : Bool := c = '\x18' || c = '\x1a'

def isControl (c : Char) : Bool := c.toNat < 0x20

/-- White space, which shows even among control characters. -/
def isSpace (c : Char) : Bool := c = '\t' || c = '\n' || c = '\x0c' || c = '\r'

def isMark (c : Char) : Bool := ' ' ≤ c && c ≤ '/'

def isFinal (c : Char) : Bool := '@' ≤ c && c ≤ '~'

def Passage.onward (p : Passage) (c : Char) : Passage :=
  match p with
  | .ground => .ground
  | .escape =>
    if isMark c then .escapeMark
    else if c = '[' then .control
    else if c = ']' then .command
    else if c = 'P' then .deviceHead
    else if c = 'X' || c = '^' || c = '_' then .string
    else if '0' ≤ c && c ≤ '~' then .ground
    else .escape
  | .escapeMark => if '0' ≤ c && c ≤ '~' then .ground else .escapeMark
  | .control => if isFinal c then .ground else .control
  | .deviceHead => if isFinal c then .string else .deviceHead
  | .string => .string
  | .command => .command

def Passage.showsSpace : Passage → Bool
  | .ground | .escape | .escapeMark | .control => true
  | .deviceHead | .string | .command => false

/-- The text that shows. White space that shows ends a sequence. -/
def plainFrom (p : Passage) : List Char → List Char
  | [] => []
  | c :: s =>
    if c = escapeChar then plainFrom .escape s
    else if isCancel c then plainFrom .ground s
    else if isSpace c && p.showsSpace then c :: plainFrom .ground s
    else if isControl c then plainFrom (if p = .command && c = '\x07' then .ground else p) s
    else if p = .ground then if c = '\x7f' then plainFrom p s else c :: plainFrom p s
    else plainFrom (p.onward c) s

def plain (s : List Char) : List Char := plainFrom .ground s

end TaskBoard.Text.Terminal
