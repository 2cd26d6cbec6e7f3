import Recalc.Pattern.Node

/-!
# Matching

The ways in which a pattern matches from a place in a text, in the order in which they are tried:
each is the place where the match ends, with the texts of the groups that something refers to. A
way that was tried before leads to nothing new, so each is kept once.
-/

namespace Recalc.Pattern

open Recalc.Text

/-- A place in a text: the characters before it, nearest first, those after it, and the groups that
have been matched. -/
structure Spot where
  index : Nat
  before : List Char
  after : List Char
  groups : List (Nat × List Char)

/-- Two spots of one text are the same when they are at one place and know the same groups. -/
def Spot.same (s t : Spot) : Bool :=
  s.index == t.index && s.groups == t.groups

namespace Spot

def next? (s : Spot) : Option (Char × Spot) :=
  match s.after with
  | [] => none
  | c :: rest => some (c, { s with index := s.index + 1, before := c :: s.before, after := rest })

/-- The spot so many characters before. -/
def back? (s : Spot) : Nat → Option Spot
  | 0 => some s
  | n + 1 =>
    match s.before with
    | [] => none
    | c :: rest => back? { s with index := s.index - 1, before := rest, after := c :: s.after } n

def group? (s : Spot) (index : Nat) : Option (List Char) :=
  s.groups.lookup index

def setGroup (s : Spot) (index : Nat) (text : List Char) : Spot :=
  { s with groups := (index, text) :: s.groups.filter (·.1 ≠ index) }

def isAt (s : Spot) (p : Place) : Bool :=
  match p with
  | .textStart => s.before.isEmpty
  | .textEnd => s.after.isEmpty
  | .lineStart => s.before.isEmpty || s.before.head? == some '\n'
  | .lineEnd => s.after.isEmpty || s.after.head? == some '\n'
  | .lastLineEnd => s.after.isEmpty || s.after == ['\n']
  | .wordBoundary negated ascii =>
    let word (c? : Option Char) := c?.any (Category.word.contains ascii)
    !(s.before.isEmpty && s.after.isEmpty) &&
      ((word s.before.head? != word s.after.head?) != negated)

/-- Steps over a text. -/
def follow? (s : Spot) (equal : Char → Char → Bool) : List Char → Option Spot
  | [] => some s
  | c :: rest =>
    match s.next? with
    | some (d, s) => if equal c d then follow? s equal rest else none
    | none => none

end Spot

/-- Keeps the first of equal spots. -/
def distinct (spots : List Spot) : List Spot :=
  (spots.foldl (fun kept s => if kept.any s.same then kept else s :: kept) []).reverse

/-! ### Repetition -/

/-- Spots from which a repetition has been continued, with the number of times that it may still
go on, and the spots where it may end, last first. -/
structure Explored where
  visited : List (Spot × Option Nat)
  ends : List Spot

/-- Goes on with a repetition from a spot. One that did not move is not continued. -/
def explore (step : Spot → List Spot) (appetite : Appetite) :
    Nat → Option Nat → Spot → Explored → Explored
  | 0, _, s, found => { found with ends := s :: found.ends }
  | fuel + 1, budget, s, found =>
    if found.visited.any fun (t, b) => t.same s && b == budget then found
    else
      let found := { found with visited := (s, budget) :: found.visited }
      let found := if appetite = .lazy then { found with ends := s :: found.ends } else found
      let found :=
        if budget = some 0 then found
        else (step s).foldl (fun found t =>
          if t.index = s.index then { found with ends := t :: found.ends }
          else explore step appetite fuel (budget.map (· - 1)) t found) found
      if appetite = .lazy then found else { found with ends := s :: found.ends }

/-- Exactly so many times. -/
def times (step : Spot → List Spot) : Nat → List Spot → List Spot
  | 0, spots => spots
  | n + 1, spots =>
    match spots with
    | [] => []
    | _ => times step n (distinct (spots.flatMap step))

def repeated (step : Spot → List Spot) (least : Nat) (most : Option Nat) (appetite : Appetite)
    (s : Spot) : List Spot :=
  let spots := (times step least [s]).flatMap fun t =>
    (explore step appetite (t.after.length + 1) (most.map (· - least)) t ⟨[], []⟩).ends.reverse
  if appetite = .possessive then (distinct spots).take 1 else distinct spots

/-! ### Nodes -/

mutual
/-- The ways in which a node matches from a spot. Only groups in `kept` are remembered. -/
def Node.ways (kept : List Nat) : Node → Spot → List Spot
  | .set items negated ignoreCase ascii => fun s =>
    match s.next? with
    | some (c, t) => if setContains items ignoreCase ascii c != negated then [t] else []
    | none => []
  | .any dotAll => fun s =>
    match s.next? with
    | some (c, t) => if dotAll || c ≠ '\n' then [t] else []
    | none => []
  | .place p => fun s => if s.isAt p then [s] else []
  | .group index body => fun s =>
    (waysOfAll kept body s).map fun t =>
      if index ∈ kept then t.setGroup index (s.after.take (t.index - s.index)) else t
  | .sequence body => fun s => waysOfAll kept body s
  | .choice branches => fun s => distinct (waysOfEach kept branches s)
  | .repetition least most appetite body => fun s =>
    repeated (waysOfAll kept body) least most appetite s
  | .assertion back negated body => fun s =>
    let found :=
      match s.back? (back.getD 0) with
      | some t => waysOfAll kept body t
      | none => []
    match negated, found with
    | true, [] => [s]
    | true, _ => []
    | false, [] => []
    | false, t :: _ => [{ s with groups := t.groups }]
  | .reference index ignoreCase ascii => fun s =>
    let equal (c d : Char) : Bool := if ignoreCase then fold ascii c = fold ascii d else c = d
    ((s.group? index).bind (s.follow? equal)).toList
  | .condition index yes no => fun s =>
    if (s.group? index).isSome then waysOfAll kept yes s else waysOfAll kept no s
  | .atomic body => fun s => (waysOfAll kept body s).take 1

def waysOfAll (kept : List Nat) : List Node → Spot → List Spot
  | [] => fun s => [s]
  | n :: rest => fun s => distinct ((n.ways kept s).flatMap (waysOfAll kept rest))

def waysOfEach (kept : List Nat) : List (List Node) → Spot → List Spot
  | [] => fun _ => []
  | branch :: rest => fun s => waysOfAll kept branch s ++ waysOfEach kept rest s
end

mutual
/-- The groups that a node refers to. -/
def Node.references : Node → List Nat
  | .set .. | .any _ | .place _ => []
  | .group _ body | .sequence body | .atomic body | .assertion _ _ body
  | .repetition _ _ _ body => referencesOfAll body
  | .choice branches => referencesOfEach branches
  | .reference index .. => [index]
  | .condition index yes no => index :: referencesOfAll yes ++ referencesOfAll no

def referencesOfAll : List Node → List Nat
  | [] => []
  | n :: rest => n.references ++ referencesOfAll rest

def referencesOfEach : List (List Node) → List Nat
  | [] => []
  | branch :: rest => referencesOfAll branch ++ referencesOfEach rest
end

/-- Whether a pattern matches a text as a whole. -/
def matchesAll (pattern : List Node) (text : String) : Bool :=
  (waysOfAll (referencesOfAll pattern) pattern ⟨0, [], text.toList, []⟩).any (·.after.isEmpty)

end Recalc.Pattern
