import Recalc.Text.Digit
import Recalc.Yaml.Fault
import Recalc.Yaml.Place

/-!
# Block scalars

Text on lines of its own, literal or folded, that are indented further than what they belong to. A
header tells what becomes of the line ends after the last line, and may tell the indentation.
-/

namespace Recalc.Yaml

/-- What becomes of the line ends after a text: one is kept, none, or all. -/
inductive Chomping where
  | clip
  | strip
  | keep
  deriving DecidableEq, Repr

def readChomping (p : Place) : Chomping × Place :=
  match p.next with
  | some '+' => (.keep, p.skip 1)
  | some '-' => (.strip, p.skip 1)
  | _ => (.clip, p)

/-- The indentation at the start of a header, if it is told. -/
def readIndentation (p : Place) : Except Fault (Option Nat × Place) :=
  match p.next with
  | none => .ok (none, p)
  | some c =>
    if '0' ≤ c ∧ c ≤ '9' then
      match Text.digitsValue [c] with
      | 0 => .error (.malformed .badBlockHeader)
      | n => .ok (some n, p.skip 1)
    else .ok (none, p)

/-- The two parts of a header, in either order, and the place on the line after it. -/
def readBlockHeader (p : Place) : Except Fault (Chomping × Option Nat × Place) := do
  let (first, p) := readChomping p
  let (indentation, p) ← readIndentation p
  let (chomping, p) := if first = .clip && indentation.isSome then readChomping p else (first, p)
  if !endsWordAtSpace p.next then throw (.malformed .badBlockHeader)
  match p.restOfLine? with
  | some p => return (chomping, indentation, p)
  | none => throw (.malformed .badBlockHeader)

/-- Passes spaces up to a column. -/
def indentTo (column : Nat) (p : Place) : Place :=
  p.skip ((p.rest.take (column - p.column)).takeWhile (· = ' ')).length

/-- The line ends from here on, in reverse order, up to a line that has more than spaces before the
column. -/
def blockBreaks (column : Nat) (ends : List Char) (p : Place) : Nat → List Char × Place
  | 0 => (ends, p)
  | lines + 1 =>
    let p := indentTo column p
    match p.break? with
    | some (c, p) => blockBreaks column (c :: ends) p lines
    | none => (ends, p)

/-- The line ends before the first line, in reverse order, and the widest indentation among the
lines up to it. -/
def leadingBreaks (ends : List Char) (widest : Nat) (p : Place) : Nat → List Char × Nat × Place
  | 0 => (ends, widest, p)
  | lines + 1 =>
    let (spaces, p) := p.span (· = ' ')
    let widest := if spaces.isEmpty then widest else max widest p.column
    match p.break? with
    | some (c, p) => leadingBreaks (c :: ends) widest p lines
    | none => (ends, widest, p)

/-- The lines of a block scalar at a column, in reverse order; `ends` are the line ends before the
line here. The text is followed by the end of its last line and the further ones, in reverse
order. -/
def blockLines (folded : Bool) (column : Nat) (read ends : List Char) (p : Place) :
    Nat → List Char × Option Char × List Char × Place
  | 0 => (read, none, ends, p)
  | lines + 1 =>
    let here := p.column = column && !p.rest.isEmpty
    if !here then (read, none, ends, p)
    else
      let leadingBlank := p.next.any isBlank
      let (text, p) := p.lineText
      let read := text.reverse ++ (ends ++ read)
      match p.break? with
      | none => (read, none, [], p)
      | some (c, p) =>
        let (ends, p) := blockBreaks column [] p (p.rest.length + 1)
        if p.column = column && !p.rest.isEmpty then
          let read :=
            if folded && c = '\n' && !leadingBlank && !p.next.any isBlank then
              if ends.isEmpty then ' ' :: read else read
            else c :: read
          blockLines folded column read ends p lines
        else (read, some c, ends, p)

/-- The block scalar whose indicator is here; its lines are indented to `least` at least. -/
def readBlock (folded : Bool) (least : Nat) (p : Place) : Except Fault (String × Place) := do
  let (chomping, indentation, p) ← readBlockHeader (p.skip 1)
  let bound := p.rest.length + 1
  let (column, ends, p) :=
    match indentation with
    | some n =>
      let column := least + n - 1
      (column, blockBreaks column [] p bound)
    | none =>
      let (ends, widest, p) := leadingBreaks [] 0 p bound
      (max least widest, ends, p)
  let (read, last, ends, p) := blockLines folded column [] ends p bound
  let tail :=
    match chomping with
    | .strip => []
    | .clip => last.toList
    | .keep => ends ++ last.toList
  return (String.ofList (tail ++ read).reverse, p)

end Recalc.Yaml
