/-!
# Lines

A line ends at a line feed, a carriage return, or both together, at a form feed or vertical tab, at
one of the separator control characters, and at the line and paragraph separators of Unicode.
-/

namespace Recalc.Text

def isLineEnd (c : Char) : Bool :=
  let n := c.toNat
  (0x0A ≤ n && n ≤ 0x0D) || (0x1C ≤ n && n ≤ 0x1E) || n == 0x85 || n == 0x2028 || n == 0x2029

/-- The lines of a text without their ends; `line` is what was read of the first one, in reverse
order. A last line that is empty is none. -/
def linesFrom (line : List Char) : List Char → List (List Char)
  | [] => if line.isEmpty then [] else [line.reverse]
  | '\r' :: '\n' :: rest => line.reverse :: linesFrom [] rest
  | c :: rest =>
    if isLineEnd c then line.reverse :: linesFrom [] rest else linesFrom (c :: line) rest

/-- The text with every carriage return, alone or before a line feed, as a line feed. -/
def unifyLineEnds : List Char → List Char
  | [] => []
  | '\r' :: '\n' :: rest => '\n' :: unifyLineEnds rest
  | c :: rest => (if c = '\r' then '\n' else c) :: unifyLineEnds rest

def lines (s : String) : List String :=
  (linesFrom [] s.toList).map String.ofList

end Recalc.Text
