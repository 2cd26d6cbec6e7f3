import Recalc.Datum
import Recalc.Number.Numeral
import Recalc.Text.Base64
import Recalc.Text.Case
import Recalc.Yaml.Tree

/-!
# Data from YAML documents

What the nodes of a document stand for. Mappings that are merged give their entries to the mapping
around them, unless it has an entry with the same key. Of several faults the one that is least deep
is told, and of those the first.
-/

namespace Recalc.Yaml

open Recalc.Number

/-! ### Scalars -/

/-- The digits of a text as an integer in a base; the base may be marked at the start. -/
def parseIntegerIn? (base : Nat) (s : String) : Option Int :=
  match dropGroupMarks none (trimBlanks s.toList) with
  | none => none
  | some cs =>
    let (negative, ds) := readSign cs
    let digits := dropMark ds
    let value? := digits.foldl (fun n? c => n?.bind fun n => (digit? c).map (base * n + ·)) (some 0)
    if digits.isEmpty then none
    else value?.map fun n => if negative then -(n : Int) else n
where
  trimBlanks (cs : List Char) : List Char := Text.trimBoth isNumberBlank cs
  digit? (c : Char) : Option Nat :=
    match Text.digitValue? c with
    | some v => if v < base then some v else none
    | none => (Json.hexValue? c).filter (· < base)
  dropMark (ds : List Char) : List Char :=
    match ds with
    | '0' :: c :: rest =>
      if (base = 2 ∧ (c = 'b' ∨ c = 'B')) ∨ (base = 8 ∧ (c = 'o' ∨ c = 'O')) ∨
          (base = 16 ∧ (c = 'x' ∨ c = 'X')) then rest
      else ds
    | _ => ds

/-- The digits of a text as an integer. Only decimal ones are limited in number. -/
def readIntegerIn (base : Nat) (s : String) : Except Fault Int :=
  let digits := s.toList.countP Text.isDigit
  match parseIntegerIn? base s with
  | none => .error (.noInteger base s)
  | some n =>
    if base = 10 ∧ integerDigitLimit < digits then .error (.longInteger digits) else .ok n

/-- The parts of a text between colons. -/
def colonParts (cs : List Char) : List String :=
  let (part, parts) := cs.foldr (fun c (part, parts) =>
    if c = ':' then ([], String.ofList part :: parts) else (c :: part, parts)) ([], [])
  String.ofList part :: parts

/-- A number text without its underscores: whether it is negative, and the rest after its sign. -/
def unsigned (s : String) : Except Fault (Bool × List Char) :=
  match s.toList.filter (· ≠ '_') with
  | [] => .error .emptyNumber
  | '-' :: cs => .ok (true, cs)
  | '+' :: cs => .ok (false, cs)
  | cs => .ok (false, cs)

/-- The integer that a text writes in base 2, 8, 10, 16 or 60. -/
def readInteger (s : String) : Except Fault Int := do
  let (negative, cs) ← unsigned s
  let n ←
    match cs with
    | [] => throw .emptyNumber
    | ['0'] => pure 0
    | '0' :: 'b' :: ds => readIntegerIn 2 (String.ofList ds)
    | '0' :: 'x' :: ds => readIntegerIn 16 (String.ofList ds)
    | '0' :: _ => readIntegerIn 8 (String.ofList cs)
    | _ =>
      if ':' ∈ cs then do
        let digits ← (colonParts cs).mapM (readIntegerIn 10)
        pure (digits.foldl (fun n d => 60 * n + d) 0)
      else readIntegerIn 10 (String.ofList cs)
  return if negative then -n else n

def readRealPart (s : String) : Except Fault Float :=
  match parse? s with
  | some x => .ok x
  | none => .error (.noReal s)

/-- The sum of digits in base 60, last digit first; `base` is the weight of the next one. -/
def sexagesimalSum (sum : Float) (base : Nat) : List Float → Except Fault Float
  | [] => .ok sum
  | d :: ds =>
    match ofInt? base with
    | some weight => sexagesimalSum (sum + d * weight) (60 * base) ds
    | none => .error .hugeReal

/-- The real number that a text writes. -/
def readReal (s : String) : Except Fault Float := do
  let (negative, cs) ← unsigned (Text.lower s)
  let x ←
    match String.ofList cs with
    | ".inf" => pure (ofMagnitudeBits false infinityBits)
    | ".nan" => pure (Float.ofBits 0x7FF8000000000000)
    | text =>
      if ':' ∈ cs then do
        let digits ← (colonParts cs).mapM readRealPart
        sexagesimalSum 0 1 digits.reverse
      else readRealPart text
  return if negative then -1 * x else x

def readTruth (s : String) : Except Fault Bool :=
  let word := Text.lower s
  if word ∈ ["yes", "true", "on"] then .ok true
  else if word ∈ ["no", "false", "off"] then .ok false
  else .error (.noTruth word)

def readMoment (s : String) : Except Fault Moment :=
  match readMoment? (withoutLineEnd s).toList with
  | some (m, _) => m.checked.mapError .badMoment
  | none => .error .noMoment

def readBytes (s : String) : Except Fault (List UInt8) :=
  if s.toList.all fun c => c.toNat < 0x80 then
    match Text.ofBase64? s with
    | some octets => .ok octets
    | none => .error (.malformed .badBinary)
  else .error (.malformed .badBinary)

/-- What a text with a tag stands for. Only a text by itself keeps its surrogates. -/
def readScalar (tag : Tag) (s : CodePoints) : Except Fault (Datum CodePoints) :=
  match tag with
  | .null => .ok .null
  | .bool => (readTruth s.lossy).map .bool
  | .integer => (readInteger s.lossy).map .integer
  | .real => (readReal s.lossy).map .real
  | .bytes => (readBytes s.lossy).map .bytes
  | .moment => (readMoment s.lossy).map .moment
  | .text => .ok (.text s)
  | .sequence | .mapping | .set | .pairs => .error (.malformed .wrongKind)
  | .merge | .default | .other _ => .error (.malformed .unknownTag)

/-! ### Merging -/

/-- A key of a mapping. One that could tell what the mapping stands for as a scalar is a text. -/
def asKey : Node → Node
  | .scalar .default text => .scalar .text text
  | n => n

mutual

/-- The entries of a mapping with those that are merged into it, which come first. -/
def mergedEntries : List (Node × Node) → Except Fault (List (Node × Node))
| entries => do
  let (merged, own) ← splitEntries entries
  return merged ++ own

/-- The entries that are merged into a mapping, and its own. -/
def splitEntries : List (Node × Node) → Except Fault (List (Node × Node) × List (Node × Node))
| [] => .ok ([], [])
| (k, v) :: rest => do
  let (merged, own) ← splitEntries rest
  if k.tag = .merge then return ((← entriesToMerge v) ++ merged, own)
  else return (merged, (asKey k, v) :: own)

/-- The entries of a mapping, or of several of which the first counts most. -/
def entriesToMerge : Node → Except Fault (List (Node × Node))
| .mapping _ entries => mergedEntries entries
| .sequence _ items => itemsToMerge items
| .scalar .. => .error (.malformed .badMerge)

def itemsToMerge : List Node → Except Fault (List (Node × Node))
| [] => .ok []
| .mapping _ entries :: rest => do return (← itemsToMerge rest) ++ (← mergedEntries entries)
| _ :: _ => .error (.malformed .badMerge)

end

/-! ### Nodes -/

/-- A fault with the number of collections that it is inside of. -/
structure DeepFault where
  depth : Nat
  fault : Fault

abbrev Deep (α : Type) := Except DeepFault α

/-- Both results, or the fault that is less deep. -/
def both {α β : Type} (a : Deep α) (b : Deep β) : Deep (α × β) :=
  match a, b with
  | .ok a, .ok b => .ok (a, b)
  | .error e, .error f => .error (if f.depth < e.depth then f else e)
  | .error e, .ok _ | .ok _, .error e => .error e

def gather {α : Type} (results : List (Deep α)) : Deep (List α) :=
  results.foldr (fun r rs => (both r rs).map fun (a, as) => a :: as) (.ok [])

def atDepth {α : Type} (depth : Nat) (r : Except Fault α) : Deep α :=
  r.mapError fun fault => ⟨depth, fault⟩

/-- Whether a node stands for a collection by its tag. -/
def isCollection (n : Node) : Bool :=
  n.tag ∈ [.sequence, .mapping, .set, .pairs]

mutual

/-- The text that a node stands for as a scalar: a mapping may have an entry for it. -/
def scalarText? : Node → Option CodePoints
| .scalar _ text => some text
| .sequence .. => none
| .mapping _ entries => entryText? entries

def entryText? : List (Node × Node) → Option CodePoints
| [] => none
| (k, v) :: rest => if k.tag = .default then scalarText? v else entryText? rest

end

/-- What a node stands for, inside so many collections; its height is less than a number. -/
def datumWithin (depth : Nat) (n : Node) : Nat → Deep (Datum CodePoints)
  | 0 => .error ⟨depth, .tooDeep⟩
  | height + 1 =>
    let inner (n : Node) : Deep (Datum CodePoints) := datumWithin (depth + 1) n height
    let fail {α : Type} (p : Problem) : Deep α := .error ⟨depth + 1, .malformed p⟩
    let pairs (entries : List (Node × Node)) : Deep Datum.Entries := do
      let entries ← atDepth (depth + 1) (mergedEntries entries)
      gather (entries.map fun (k, v) =>
        both (if isCollection k then fail .unhashableKey else inner k) (inner v))
    match n.tag, n with
    | .sequence, .sequence _ items => (gather (items.map inner)).map .list
    | .mapping, .mapping _ entries =>
      (pairs entries).map fun entries => .map (Datum.Entries.update [] entries)
    | .set, .mapping _ entries =>
      (pairs entries).map fun entries => .set ((Datum.Entries.update [] entries).map Prod.fst)
    | .pairs, .sequence _ items =>
      let pair (n : Node) : Deep (Datum CodePoints) :=
        match n with
        | .mapping _ [(k, v)] => (both (inner k) (inner v)).map fun (k, v) => .tuple [k, v]
        | _ => fail .wrongKind
      (gather (items.map pair)).map .list
    | .sequence, _ | .mapping, _ | .set, _ | .pairs, _ => fail .wrongKind
    | tag, n =>
      atDepth depth ((scalarText? n).elim (.error (.malformed .wrongKind)) (readScalar tag))

/-- What the document of a text stands for; a text without one stands for nothing. -/
def read (s : String) : Except Fault (Datum CodePoints) := do
  match ← tree s with
  | none => return .null
  | some n => (datumWithin 0 n (n.height + 1)).mapError DeepFault.fault

end Recalc.Yaml
