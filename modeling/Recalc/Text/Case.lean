import Recalc.Text.CaseTable

/-!
# Upper and lower case

The full case mappings: a character may become several, and a capital sigma at the end of a word
has a lower case of its own.
-/

namespace Recalc.Text

/-- A character by the run or the sequence that it is in. -/
def mapByTables (runs : List CaseRun) (sequences : List (Nat × List Nat)) (c : Char) :
    List Char :=
  match runs.find? (·.contains c.toNat) with
  | some r => [Char.ofNat (c.toNat + r.distance).toNat]
  | none =>
    match sequences.lookup c.toNat with
    | some cs => cs.map Char.ofNat
    | none => [c]

def upperChar (c : Char) : List Char :=
  if c.toNat < 0x80 then [c.toUpper] else mapByTables upperRuns upperSequences c

def lowerChar (c : Char) : List Char :=
  if c.toNat < 0x80 then [c.toLower] else mapByTables lowerRuns lowerSequences c

/-- The lower case of one character as one character. -/
def simpleLower (c : Char) : Char :=
  match lowerChar c with
  | d :: _ => d
  | [] => c

/-- Whether the nearest character that is not ignorable has case. -/
def besideCased (cs : List Char) : Bool :=
  match cs.dropWhile caseIgnorableRanges.contains with
  | c :: _ => casedRanges.contains c
  | [] => false

/-- Lower case of what follows the characters `before`, given nearest first. A capital sigma
becomes final after a cased letter and before none. -/
def lowerFrom (before : List Char) : List Char → List Char
  | [] => []
  | c :: rest =>
    let mapped :=
      if c = 'Σ' then [if besideCased before && !besideCased rest then 'ς' else 'σ']
      else lowerChar c
    mapped ++ lowerFrom (c :: before) rest

def upper (s : String) : String :=
  String.ofList (s.toList.flatMap upperChar)

def lower (s : String) : String :=
  String.ofList (lowerFrom [] s.toList)

end Recalc.Text
