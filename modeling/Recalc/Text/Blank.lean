/-!
# Blank characters

The characters that count as white space, in every script, and the trimming of text by a class of
characters.
-/

namespace Recalc.Text

def isBlank (c : Char) : Bool :=
  let n := c.toNat
  if n < 0x80 then (0x09 ≤ n && n ≤ 0x0D) || (0x1C ≤ n && n ≤ 0x20)
  else n == 0x85 || n == 0xA0 || n == 0x1680 || (0x2000 ≤ n && n ≤ 0x200A) || n == 0x2028 ||
    n == 0x2029 || n == 0x202F || n == 0x205F || n == 0x3000

/-- Blanks among the control characters that typewriters know: tab, the line ends and the
space. -/
def isAsciiBlank (c : Char) : Bool :=
  (0x09 ≤ c.toNat && c.toNat ≤ 0x0D) || c.toNat == 0x20

/-- Removes a class of characters from both ends. -/
def trimBoth (drop : Char → Bool) (cs : List Char) : List Char :=
  ((cs.dropWhile drop).reverse.dropWhile drop).reverse

/-- Removes blanks from both ends. -/
def strip (s : String) : String :=
  String.ofList (trimBoth isBlank s.toList)

end Recalc.Text
