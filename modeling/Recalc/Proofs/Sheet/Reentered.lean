import Recalc.Proofs.Formula.Canonical
import Recalc.Proofs.Number.PlainText
import Recalc.Proofs.Settings.Naming
import Recalc.Proofs.Sheet.Entered

/-!
# Contents entered again

The text of entered contents enters them again, except that zero loses its sign. For formulas this
needs a naming policy that leaves normal forms as they are.
-/

namespace Recalc

open Recalc.Number Recalc.Text

namespace Number

variable {x : Float} {negative : Bool} {m : Nat} {e : Int}

/-! ### Zero without its sign -/

def negativeZero : Float :=
  ofMagnitudeBits true 0

example : (-0.0 : Float).toBits = negativeZero.toBits := by decide +kernel

/-- The number itself, but zero without its sign. -/
def dropZeroSign (x : Float) : Float :=
  if x.toBits = negativeZero.toBits then ofMagnitudeBits false 0 else x

lemma dropZeroSign_dropZeroSign (x : Float) : dropZeroSign (dropZeroSign x) = dropZeroSign x := by
  by_cases hbits : x.toBits = negativeZero.toBits
  · have hzero : dropZeroSign x = ofMagnitudeBits false 0 := if_pos hbits
    rw [hzero]
    decide +kernel
  · have hself : dropZeroSign x = x := if_neg hbits
    rw [hself, hself]

lemma parts_negativeZero : parts negativeZero = .finite true 0 leastExponent := by
  decide +kernel

/-- What has no mantissa is zero. -/
lemma IsDouble.magnitudeBits_zero (h : IsDouble 0 e) : magnitudeBits 0 e = 0 := by
  have hexponent : e = -1074 := by simpa using h.normal
  rw [hexponent]
  rfl

lemma dropZeroSign_eq (h : parts x = .finite negative m e) :
    dropZeroSign x = ofMagnitudeBits (decide (negative ∧ 0 < m)) (magnitudeBits m e) := by
  obtain ⟨hdouble, hx⟩ := of_parts_eq_finite h
  rcases Nat.eq_zero_or_pos m with rfl | hm
  · rw [hdouble.magnitudeBits_zero] at hx ⊢
    rw [dropZeroSign, hx]
    cases negative <;> decide +kernel
  · have hne : x.toBits ≠ negativeZero.toBits := by
      intro hbits
      rw [toBits_injective hbits, parts_negativeZero] at h
      cases h
      exact absurd hm (Nat.lt_irrefl 0)
    rw [dropZeroSign, if_neg hne, hx]
    simp [hm]

lemma isFinite_dropZeroSign (h : isFinite x = true) : isFinite (dropZeroSign x) = true := by
  obtain ⟨negative, m, e, hparts⟩ := isFinite_iff.mp h
  obtain ⟨hdouble, -⟩ := of_parts_eq_finite hparts
  rw [dropZeroSign_eq hparts]
  exact isFinite_iff.mpr ⟨_, _, _, parts_ofMagnitudeBits hdouble⟩

/-- The sign of zero does not count when numbers are compared. -/
lemma beq_dropZeroSign (h : isFinite x = true) : (x == dropZeroSign x) = true := by
  obtain ⟨negative, m, e, hparts⟩ := isFinite_iff.mp h
  rw [dropZeroSign]
  split
  next hbits =>
    rw [toBits_injective hbits]
    decide +kernel
  next => exact beq_self_of_parts hparts

/-! ### The text of a number -/

/-- What a plain text consists of. -/
lemma of_mem_plainText (h : parts x = .finite negative m e) {c : Char}
    (hc : c ∈ (plainText x).toList) : isDigit c = true ∨ c ∈ ['.', 'e', 'E', '+', '-'] := by
  obtain ⟨n, hn, -, hchars⟩ := exists_numeral_plainText h
  rw [hchars] at hc
  split at hc
  · rcases List.mem_cons.mp hc with rfl | hc
    · exact .inr (by decide)
    · exact hn.of_mem_chars hc
  · exact hn.of_mem_chars hc

lemma isBlank_of_mem_plainText (h : parts x = .finite negative m e) {c : Char}
    (hc : c ∈ (plainText x).toList) : isBlank c = false := by
  have hmarks : (['.', 'e', 'E', '+', '-'].all fun c => !isBlank c) = true := by decide
  rcases of_mem_plainText h hc with hdigit | hmark
  · exact isBlank_of_isDigit hdigit
  · simpa using List.all_eq_true.mp hmarks c hmark

end Number

/-! ### Names in normal form -/

variable {naming : Naming} {text u given name : String} {x : Float} {f : Formula} {c : Contents}

lemma Naming.Idempotent.canonical?_self (h : naming.Idempotent)
    (hname : naming.canonical? given = some name) : naming.canonical? name = some name := by
  obtain ⟨-, haccepted⟩ := Formula.canonical?_eq_some_iff.mp hname
  exact Formula.canonical?_eq_some_iff.mpr ⟨h given name hname, haccepted⟩

/-- The variables of a formula are in normal form. -/
lemma Formula.normalize_of_parse (hnaming : naming.Idempotent) (h : parse text naming = .ok f)
    (hu : u ∈ f.variableSet) : naming.normalize u = u := by
  obtain ⟨ls, -, -, hgives⟩ := parse_ok_iff.mp h
  obtain ⟨l, -, -, hl⟩ := (variable_mem_iff hgives).mp (mem_variablesOf.mp hu)
  exact hnaming l.text u (canonical?_eq_some_iff.mpr ⟨hl, variable_of_parse h hu⟩)

namespace Contents

/-! ### Contents entered again -/

lemma readNumber?_plainText (h : Number.isFinite x = true) :
    readNumber? (plainText x).toList = some (dropZeroSign x) := by
  obtain ⟨negative, m, e, hparts⟩ := isFinite_iff.mp h
  obtain ⟨n, hn, hvalue, hchars⟩ := exists_numeral_plainText hparts
  have hdrop : (plainText x).toList.dropWhile isBlank = (plainText x).toList := by
    rw [List.dropWhile_eq_self_iff]
    intro hpos
    simp [isBlank_of_mem_plainText hparts (List.getElem_mem hpos)]
  have hsign : readSign (plainText x).toList = (decide (negative ∧ 0 < m), n.chars) := by
    rw [hchars]
    split
    next hnegative => rw [readSign_minus, decide_eq_true hnegative]
    next hnegative => rw [readSign_chars hn, decide_eq_false hnegative]
  rw [readNumber?, hdrop, hsign]
  simp only [Numeral.read?_chars hn, List.all_nil, if_true, hvalue, dropZeroSign_eq hparts]

lemma not_isSeparatorControl_plainText (h : Number.isFinite x = true) :
    (plainText x).toList.any isSeparatorControl = false := by
  obtain ⟨negative, m, e, hparts⟩ := isFinite_iff.mp h
  have hmarks : (['.', 'e', 'E', '+', '-'].all fun c => !isSeparatorControl c) = true := by decide
  rw [List.any_eq_false]
  intro c hc
  rw [Bool.not_eq_true]
  rcases of_mem_plainText hparts hc with hdigit | hmark
  · have hcode := code_of_isDigit hdigit
    simp only [isSeparatorControl, Bool.and_eq_false_iff, decide_eq_false_iff_not]
    omega
  · simpa using List.all_eq_true.mp hmarks c hmark

lemma readNumber?_equals (cs : List Char) : readNumber? ('=' :: cs) = none := by
  rfl

/-- A text after an equals sign is read as a formula. -/
lemma ofText_equals (text : String) : ofText naming ("=" ++ text) =
    ((Formula.parse text naming).mapError ContentsError.format).map .formula := by
  have hlist : ("=" ++ text).toList = '=' :: text.toList := String.toList_append
  rw [ofText, hlist, readNumber?_equals]
  simp only [ofOtherText, hlist, String.ofList_toList]
  cases Formula.parse text naming <;> rfl

lemma ofText_formula (hread : Formula.parse text naming = .ok f) :
    ofText naming ("=" ++ text) = .ok (.formula f) := by
  rw [ofText_equals, hread]
  rfl

/-- The text of a number enters it. -/
lemma ofText_plainText (h : Number.isFinite x = true) :
    ofText naming (plainText x) = .ok (.number (dropZeroSign x)) := by
  rw [ofText, readNumber?_plainText h]
  simp only [not_isSeparatorControl_plainText h, Bool.false_eq_true, if_false,
    isFinite_dropZeroSign h, if_true]

/-- The contents when zero has lost its sign. -/
def restored : Contents → Contents
  | .number x => .number (dropZeroSign x)
  | c => c

/-- The text of entered contents enters them again. -/
theorem ofText_toText (hnaming : naming.Idempotent) (h : ofText naming text = .ok c) :
    ofText naming c.toText = .ok c.restored := by
  rcases ofText_cases h with rfl | ⟨x, rfl, hx⟩ | ⟨f, rest, rfl, hparse⟩
  · exact h
  · exact ofText_plainText hx
  · have hvariables : ∀ u ∈ f.variableSet, naming.normalize u = u :=
      fun u => Formula.normalize_of_parse hnaming hparse
    exact ofText_formula (Formula.parse_text_of_idempotent hparse hvariables)

/-! ### Contents that lost the sign of zero -/

/-- The contents are equal: texts in every character, numbers as numbers, formulas in every
token. -/
inductive Equal : Contents → Contents → Prop where
  | text (s : String) : Equal (.text s) (.text s)
  | number {x y : Float} (h : (x == y) = true) : Equal (.number x) (.number y)
  | formula {f g : Formula} (h : f.tokens = g.tokens) : Equal (.formula f) (.formula g)

lemma isEmpty_restored (c : Contents) : c.restored.isEmpty = c.isEmpty := by
  cases c <;> rfl

lemma variableSet_restored (c : Contents) : c.restored.variableSet = c.variableSet := by
  cases c <;> rfl

lemma restored_restored (c : Contents) : c.restored.restored = c.restored := by
  cases c with
  | text s => rfl
  | formula f => rfl
  | number x => exact congrArg number (dropZeroSign_dropZeroSign x)

/-- Zero is written without its sign. -/
lemma toText_restored (c : Contents) : c.restored.toText = c.toText := by
  have hzero : plainText (ofMagnitudeBits false 0) = plainText negativeZero := by
    decide +kernel
  cases c with
  | text s => rfl
  | formula f => rfl
  | number x =>
    rw [restored, toText, toText, dropZeroSign]
    split
    next hbits => rw [hzero, toBits_injective hbits]
    next => rfl

lemma restored_eq_self (h : c ≠ .number negativeZero) : c.restored = c := by
  cases c with
  | text s => rfl
  | formula f => rfl
  | number x =>
    rw [restored, dropZeroSign, if_neg]
    intro hbits
    exact h (congrArg _ (toBits_injective hbits))

lemma equal_restored (h : ofText naming text = .ok c) : Equal c c.restored := by
  rcases ofText_cases h with rfl | ⟨x, rfl, hx⟩ | ⟨f, rest, rfl, -⟩
  · exact .text text
  · exact .number (beq_dropZeroSign hx)
  · exact .formula rfl

end Contents

end Recalc
