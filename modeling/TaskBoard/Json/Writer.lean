import TaskBoard.Text.Numeral

/-!
# Writing JSON

Compact JSON text. Only quotes, backslashes and control characters are escaped.
-/

namespace TaskBoard.Json

def escaped (c : Char) : List Char :=
  if c = '"' then ['\\', '"']
  else if c = '\\' then ['\\', '\\']
  else if c = '\x08' then ['\\', 'b']
  else if c = '\t' then ['\\', 't']
  else if c = '\n' then ['\\', 'n']
  else if c = '\x0c' then ['\\', 'f']
  else if c = '\r' then ['\\', 'r']
  else if c.toNat < 32 then
    ['\\', 'u', '0', '0', Text.hexDigit (c.toNat / 16), Text.hexDigit (c.toNat % 16)]
  else [c]

def quoted (s : List Char) : List Char := '"' :: s.flatMap escaped ++ ['"']

def written (n : Nat) : List Char := Text.decimal n

def list (items : List (List Char)) : List Char := '[' :: [','].intercalate items ++ [']']

def object (members : List (String × List Char)) : List Char :=
  let written := members.map fun (name, value) => quoted name.toList ++ ':' :: value
  '\x7b' :: [','].intercalate written ++
    ['\x7d']

end TaskBoard.Json
