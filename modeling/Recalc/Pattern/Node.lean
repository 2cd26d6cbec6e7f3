import Recalc.Text.Blank
import Recalc.Text.Case
import Recalc.Text.Digit
import Recalc.Text.Word

/-!
# Patterns

Regular patterns for names, with back references, conditions, assertions and groups that are not
retried. What letters count as equal when case is ignored, and which characters a class holds, is
decided when a pattern is read, so every node carries its own options.
-/

namespace Recalc.Pattern

open Recalc.Text

/-- Options that may differ from part to part. -/
structure Options where
  ignoreCase : Bool
  multiLine : Bool
  dotAll : Bool
  verbose : Bool
  ascii : Bool
  deriving DecidableEq, Repr

def Options.none : Options := ⟨false, false, false, false, false⟩

inductive Category where
  | digit
  | space
  | word
  deriving DecidableEq, Repr

inductive SetItem where
  | char (c : Char)
  | range (low high : Char)
  | category (k : Category) (negated : Bool)
  deriving DecidableEq, Repr

/-- Places between characters. -/
inductive Place where
  | textStart
  | textEnd
  | lineStart
  | lineEnd
  /-- The end, or before a line feed at the end. -/
  | lastLineEnd
  | wordBoundary (negated ascii : Bool)
  deriving DecidableEq, Repr

/-- How a repetition gives back what it took. -/
inductive Appetite where
  | greedy
  | lazy
  | possessive
  deriving DecidableEq, Repr

inductive Node where
  | set (items : List SetItem) (negated ignoreCase ascii : Bool)
  | any (dotAll : Bool)
  | place (p : Place)
  | group (index : Nat) (body : List Node)
  | sequence (body : List Node)
  | choice (branches : List (List Node))
  | repetition (least : Nat) (most : Option Nat) (appetite : Appetite) (body : List Node)
  | assertion (back : Option Nat) (negated : Bool) (body : List Node)
  | reference (index : Nat) (ignoreCase ascii : Bool)
  | condition (index : Nat) (yes no : List Node)
  | atomic (body : List Node)
  deriving Repr

def Node.isRepetition : Node → Bool
  | .repetition .. => true
  | _ => false

def Node.isPlace : Node → Bool
  | .place _ => true
  | _ => false

/-! ### Characters -/

def Category.contains (k : Category) (ascii : Bool) (c : Char) : Bool :=
  match k with
  | .digit => if ascii then c.isDigit else isDigit c
  | .space => if ascii then isAsciiBlank c else isBlank c
  | .word => if ascii then c.isAlphanum || c = '_' else isWord c

/-- Lower case letters with one upper case. -/
def caseCompanions : List (List Nat) := [
  [0x69, 0x131], [0x73, 0x17F], [0xB5, 0x3BC], [0x345, 0x3B9, 0x1FBE], [0x390, 0x1FD3],
  [0x3B0, 0x1FE3], [0x3B2, 0x3D0], [0x3B5, 0x3F5], [0x3B8, 0x3D1], [0x3BA, 0x3F0], [0x3C0, 0x3D6],
  [0x3C1, 0x3F1], [0x3C2, 0x3C3], [0x3C6, 0x3D5], [0x432, 0x1C80], [0x434, 0x1C81],
  [0x43E, 0x1C82], [0x441, 0x1C83], [0x442, 0x1C84, 0x1C85], [0x44A, 0x1C86], [0x463, 0x1C87],
  [0x1C88, 0xA64B], [0x1E61, 0x1E9B], [0xFB05, 0xFB06]]

/-- A letter in lower case, for comparison. -/
def fold (ascii : Bool) (c : Char) : Char :=
  if ascii then c.toLower else simpleLower c

/-- The lower case letters that count as equal to a lower case letter. -/
def companions (ascii : Bool) (c : Char) : List Char :=
  if ascii then [c]
  else
    match caseCompanions.find? (c.toNat ∈ ·) with
    | some codes => codes.map Char.ofNat
    | none => [c]

/-- The characters that count as equal to a character when case is ignored. -/
def caseVariants (ascii : Bool) (c : Char) : List Char :=
  let lower := companions ascii (fold ascii c)
  let above (d : Char) : List Char :=
    if ascii then [d.toUpper]
    else
      let fromRuns := lowerRuns.filterMap fun r =>
        let n := ((d.toNat : Int) - r.distance).toNat
        if r.contains n && (n : Int) + r.distance = d.toNat then some (Char.ofNat n) else none
      let fromAscii := if d.toNat < 0x80 then [d.toUpper] else []
      let fromSequences := lowerSequences.filterMap fun (n, cs) =>
        if cs.head? = some d.toNat then some (Char.ofNat n) else none
      fromRuns ++ fromAscii ++ fromSequences
  c :: lower ++ lower.flatMap above

def SetItem.contains (ascii : Bool) (c : Char) : SetItem → Bool
  | .char d => c = d
  | .range low high => low ≤ c && c ≤ high
  | .category k negated => k.contains ascii c != negated

/-- Whether one of the items of a set holds a character. -/
def setContains (items : List SetItem) (ignoreCase ascii : Bool) (c : Char) : Bool :=
  if ignoreCase then
    (caseVariants ascii c).any fun d => items.any (SetItem.contains ascii d)
  else items.any (SetItem.contains ascii c)

/-! ### Widths -/

/-- Widths of texts: the least, and the greatest if there is one. -/
structure Width where
  least : Nat
  most : Option Nat
  deriving DecidableEq, Repr

namespace Width

def zero : Width := ⟨0, some 0⟩

def one : Width := ⟨1, some 1⟩

def add (v w : Width) : Width :=
  ⟨v.least + w.least, v.most.bind fun m => w.most.map (m + ·)⟩

/-- The widths of either of two. -/
def union (v w : Width) : Width :=
  ⟨min v.least w.least, v.most.bind fun m => w.most.map (max m ·)⟩

def times (w : Width) (least : Nat) (most : Option Nat) : Width :=
  { least := w.least * least
    most :=
      match w.most, most with
      | some 0, _ => some 0
      | some m, some n => some (m * n)
      | none, some 0 => some 0
      | _, _ => none }

end Width

mutual
/-- The widths of the texts that a node matches, given those of the groups. -/
def Node.width (groups : Nat → Width) : Node → Width
  | .set .. | .any _ => .one
  | .place _ | .assertion .. => .zero
  | .group _ body | .sequence body | .atomic body => widthOfAll groups body
  | .choice branches => widthOfEach groups branches
  | .repetition least most _ body => (widthOfAll groups body).times least most
  | .reference index .. => groups index
  | .condition _ yes no => (widthOfAll groups yes).union (widthOfAll groups no)

def widthOfAll (groups : Nat → Width) : List Node → Width
  | [] => .zero
  | n :: rest => (n.width groups).add (widthOfAll groups rest)

def widthOfEach (groups : Nat → Width) : List (List Node) → Width
  | [] => .zero
  | [branch] => widthOfAll groups branch
  | branch :: rest => (widthOfAll groups branch).union (widthOfEach groups rest)
end

end Recalc.Pattern
