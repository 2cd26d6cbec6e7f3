import Recalc.Yaml.Place

/-!
# Plain scalars

Text without quotes. It goes on over lines that are indented enough, with line ends folded, up to a
comment or a character that has a meaning of its own.
-/

namespace Recalc.Yaml

/-- Characters that delimit the entries of flow collections. -/
def isFlowMark (c : Char) : Bool :=
  c ∈ [',', '[', ']', '{', '}']

/-- The word at the start of a text; `read` is what was read of it, in reverse order. A colon ends
it only before a blank or, inside flow collections, before a delimiter. -/
def plainWord (inFlow : Bool) (read : List Char) : List Char → List Char
  | [] => read.reverse
  | c :: rest =>
    let ended :=
      isBlank c || isBreak c ||
        (c = ':' && (endsWord rest.head? || (inFlow && rest.head?.any isFlowMark))) ||
        (inFlow && (c = '?' || isFlowMark c))
    if ended then read.reverse else plainWord inFlow (c :: read) rest

/-- A plain scalar so far. -/
structure PlainText where
  /-- The text in reverse order. -/
  read : List Char
  place : Place
  /-- Whether it ends behind a line end. -/
  broke : Bool

/-- The rest of a plain scalar from a word on, after a gap that stands for `between`. Lines have to
reach a column, and there are fewer words than a number. -/
def plainFrom (inFlow : Bool) (column : Nat) (between : List Char) (t : PlainText) :
    Nat → PlainText
  | 0 => t
  | words + 1 =>
    let word := plainWord inFlow [] t.place.rest
    if t.place.next = some '#' || word.isEmpty then t
    else
      let read := word.reverse ++ (between ++ t.read)
      let (spaces, place) := (t.place.skip word.length).span (· = ' ')
      let (between, t) : List Char × PlainText :=
        match place.gap? (· = ' ') with
        | some gap => (if gap.atSeparator then [] else gap.folded, ⟨read, gap.place, true⟩)
        | none => (spaces, ⟨read, place, false⟩)
      if between.isEmpty || (!inFlow && t.place.column < column) then t
      else plainFrom inFlow column between t words

/-- The plain scalar that starts here. -/
def readPlain (inFlow : Bool) (column : Nat) (p : Place) : String × PlainText :=
  let t := plainFrom inFlow column [] ⟨[], p, false⟩ (p.rest.length + 1)
  (String.ofList t.read.reverse, t)

end Recalc.Yaml
