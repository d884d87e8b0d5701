import TaskBoard.Text.Numeral
import TaskBoard.Text.Printable

/-!
# Quoted text

The form in which texts stand in the log: between quotes, with an escape for each character that
would not show by itself.
-/

namespace TaskBoard.Text

def hexadecimal (n : Nat) : List Char := Nat.toDigits 16 n

def byCode (c : Char) : List Char := "\\u\x7b".toList ++ hexadecimal c.toNat ++ ['\x7d']

def escapedChar (c : Char) : List Char :=
  if c = '\x00' then ['\\', '0']
  else if c = '\t' then ['\\', 't']
  else if c = '\r' then ['\\', 'r']
  else if c = '\n' then ['\\', 'n']
  else if c = '\\' || c = '"' then ['\\', c]
  else if isPrintable c then [c]
  else byCode c

def quoted (s : List Char) : List Char := '"' :: s.flatMap escapedChar ++ ['"']

def quotedList (texts : List (List Char)) : List Char :=
  '[' :: [',', ' '].intercalate (texts.map quoted) ++ [']']

end TaskBoard.Text
