/-!
# White space

The characters with the Unicode property `White_Space`, and the text between them.
-/

namespace TaskBoard.Text

def isBlank (c : Char) : Bool :=
  let n := c.toNat
  (9 ≤ n && n ≤ 13) || n == 32 || n == 0x85 || n == 0xA0 || n == 0x1680 ||
    (0x2000 ≤ n && n ≤ 0x200A) || n == 0x2028 || n == 0x2029 || n == 0x202F || n == 0x205F ||
    n == 0x3000

def trimStart (p : Char → Bool) (s : List Char) : List Char := s.dropWhile p

def trimEnd (p : Char → Bool) (s : List Char) : List Char := (s.reverse.dropWhile p).reverse

def trimBy (p : Char → Bool) (s : List Char) : List Char := trimEnd p (trimStart p s)

def trim (s : List Char) : List Char := trimBy isBlank s

end TaskBoard.Text
