/-!
# Places in a YAML text

A place is what is left of a text, together with its distance from the start, its line and its
column. Columns count characters from zero; a byte order mark has no width.
-/

namespace Recalc.Yaml

def byteOrderMark : Char := '\uFEFF'

/-- Characters that end a line. -/
def isBreak (c : Char) : Bool :=
  c = '\n' || c = '\r' || c = '\x85' || c = '\u2028' || c = '\u2029'

def isBlank (c : Char) : Bool :=
  c = ' ' || c = '\t'

/-- Whether a word ends before a character: at a blank, a line end or the end of the text. -/
def endsWord (c? : Option Char) : Bool :=
  c?.all fun c => isBlank c || isBreak c

/-- As `endsWord`, but a tab does not end the word. -/
def endsWordAtSpace (c? : Option Char) : Bool :=
  c?.all fun c => c = ' ' || isBreak c

structure Place where
  rest : List Char
  index : Nat
  line : Nat
  column : Nat

namespace Place

def start (s : String) : Place :=
  ⟨s.toList, 0, 0, 0⟩

/-- The next character. -/
def next (p : Place) : Option Char :=
  p.rest.head?

/-- The character after some others. -/
def after (p : Place) (n : Nat) : Option Char :=
  p.rest[n]?

/-- The place after some of the next characters, none of which ends a line. -/
def skip (p : Place) (n : Nat) : Place :=
  { p with
    rest := p.rest.drop n
    index := p.index + n
    column := p.column + (p.rest.take n).countP (· ≠ byteOrderMark) }

/-- The next characters of a class, and the place after them. The class has no line ends. -/
def span (p : Place) (f : Char → Bool) : List Char × Place :=
  let cs := p.rest.takeWhile f
  (cs, p.skip cs.length)

/-- The place after the next characters of a class without line ends. -/
def skipAll (p : Place) (f : Char → Bool) : Place :=
  (p.span f).2

def skipSpaces (p : Place) : Place :=
  p.skipAll (· = ' ')

/-- The next characters up to the end of the line. -/
def lineText (p : Place) : List Char × Place :=
  p.span (!isBreak ·)

/-- The line end here, if there is one: as a line feed, or as the separator that it is. -/
def break? (p : Place) : Option (Char × Place) :=
  let ended (rest : List Char) (length : Nat) : Place := ⟨rest, p.index + length, p.line + 1, 0⟩
  match p.rest with
  | '\r' :: '\n' :: rest => some ('\n', ended rest 2)
  | c :: rest =>
    if c = '\u2028' || c = '\u2029' then some (c, ended rest 1)
    else if isBreak c then some ('\n', ended rest 1)
    else none
  | [] => none

/-- The place after a comment that may be here. -/
def skipComment (p : Place) : Place :=
  if p.next = some '#' then p.lineText.2 else p

/-- The place on the next line, if nothing but spaces and a comment is left on this one. -/
def restOfLine? (p : Place) : Option Place :=
  let p := p.skipSpaces.skipComment
  match p.break? with
  | some (_, p) => some p
  | none => if p.rest.isEmpty then some p else none

/-- Whether three equal characters stand here as a word. -/
def isMark (p : Place) (c : Char) : Bool :=
  match p.rest with
  | a :: b :: d :: rest => a = c && b = c && d = c && endsWord rest.head?
  | _ => false

/-- Whether the start or the end of a document is marked here. -/
def isSeparator (p : Place) : Bool :=
  p.isMark '-' || p.isMark '.'

/-- The place of the next token: blanks, comments and line ends are passed. No more lines are passed
than a number. Whether a line end was passed is told, too. -/
def toToken (p : Place) (broke : Bool) : Nat → Place × Bool
  | 0 => (p, broke)
  | lines + 1 =>
    let p := p.skipSpaces.skipComment
    match p.break? with
    | some (_, p) => p.toToken true lines
    | none => (p, broke)

/-! ### Gaps -/

/-- The lines from here on that hold nothing but blanks, by their ends in reverse order; no more
lines than a number. They end at a text, or before a separator of documents. -/
def emptyLines (blank : Char → Bool) (p : Place) (ends : List Char) : Nat → List Char × Bool × Place
  | 0 => (ends, false, p)
  | lines + 1 =>
    if p.isSeparator then (ends, true, p)
    else
      let p := p.skipAll blank
      match p.break? with
      | some (c, p) => p.emptyLines blank (c :: ends) lines
      | none => (ends, false, p)

/-- A line end inside a text with the empty lines after it. -/
structure Gap where
  /-- What the gap stands for, in reverse order. -/
  folded : List Char
  atSeparator : Bool
  place : Place

/-- The gap that begins with a line end here. A single line feed stands for a space; otherwise the
first one is dropped and the rest are kept. -/
def gap? (p : Place) (blank : Char → Bool) : Option Gap :=
  p.break?.map fun (c, p) =>
    let (ends, atSeparator, p) := p.emptyLines blank [] (p.rest.length + 1)
    let folded :=
      if c ≠ '\n' then ends ++ [c] else if ends.isEmpty then [' '] else ends
    ⟨folded, atSeparator, p⟩

end Place

end Recalc.Yaml
