import Recalc.Proofs.Dependency.Changes
import Recalc.Proofs.Formula.Splitting
import Recalc.Proofs.Formula.Value
import Recalc.Proofs.Number.Reading
import Recalc.Proofs.Sheet.Entered

/-!
# Outcomes of edits

An edit is accepted, or it is refused for the name, for the form of a formula or for a cycle, except
that the text of a number with a separator control character beside it cannot be converted. Nothing
else that an edit goes through can fail.
-/

namespace Recalc

open Recalc.Number Recalc.Text

/-! ### The test and the conversion of numbers -/

namespace Contents

variable {naming : Naming} {text : String} {x : Float} {c : Char} {cs : List Char}

lemma isNumberBlank_of_isBlank (hblank : isBlank c = true) (h : isSeparatorControl c = false) :
    isNumberBlank c = true := by
  by_cases hascii : c.toNat < 0x80
  · simp only [isBlank, hascii, if_true, Bool.or_eq_true, Bool.and_eq_true,
      decide_eq_true_eq] at hblank
    simp only [isSeparatorControl, Bool.and_eq_false_iff, decide_eq_false_iff_not] at h
    have hcode : 0x09 ≤ c.toNat ∧ c.toNat ≤ 0x0D ∨ c.toNat = 0x20 := by omega
    simp [isNumberBlank, isAsciiBlank, hcode]
  · simp [isNumberBlank, hblank, Nat.le_of_not_lt hascii]

lemma of_isSeparatorControl (h : isSeparatorControl c = true) :
    c.toNat < 0x20 ∧ isNumberBlank c = false := by
  simp only [isSeparatorControl, Bool.and_eq_true, decide_eq_true_eq] at h
  have hlow : ¬0x80 ≤ c.toNat := by omega
  refine ⟨by omega, ?_⟩
  simp only [isNumberBlank, isAsciiBlank, hlow, decide_false, Bool.false_and, Bool.or_false,
    Bool.or_eq_false_iff, Bool.and_eq_false_iff, decide_eq_false_iff_not, beq_eq_false_iff_ne]
  omega

/-- The text of a number is a numeral with its sign between blanks. -/
lemma exists_numeral_of_readNumber? (h : readNumber? cs = some x) :
    ∃ before core after n negative, cs = before ++ (core ++ after) ∧
      (∀ c ∈ before, isBlank c = true) ∧ (∀ c ∈ after, isBlank c = true) ∧
      Numeral.WellFormed n ∧ readSign core = (negative, n.chars) ∧ x = n.value negative := by
  unfold readNumber? at h
  split at h
  next negative rest hsign =>
    split at h
    next n after hread =>
      split at h
      next hafter =>
        cases h
        have hn := Numeral.wellFormed_of_read? hread
        rw [← Numeral.chars_append_of_read? hread] at hsign
        obtain ⟨core, hcore, hsign⟩ := exists_signed hn hsign
        refine ⟨cs.takeWhile isBlank, core, after, n, negative, ?_, fun c hc => ?_, ?_, hn, hsign,
          rfl⟩
        · rw [← hcore, List.takeWhile_append_dropWhile]
        · exact List.mem_takeWhile_imp hc
        · exact List.all_eq_true.mp hafter
      next => cases h
    next => cases h

/-- A text that passes the test is converted to the number that it writes, unless a separator
control character stands in it. -/
theorem parse?_of_readNumber? (h : readNumber? text.toList = some x) :
    parse? text = if text.toList.any isSeparatorControl then none else some x := by
  split
  next hseparator =>
    obtain ⟨c, hc, hcontrol⟩ := List.any_eq_true.mp hseparator
    obtain ⟨hcode, hblank⟩ := of_isSeparatorControl hcontrol
    exact parse?_eq_none_of_control hc hcode hblank
  next hseparator =>
    obtain ⟨before, core, after, n, negative, htext, hbefore, hafter, hn, hsign, rfl⟩ :=
      exists_numeral_of_readNumber? h
    have hnone : ∀ c ∈ text.toList, isSeparatorControl c = false := by simpa using hseparator
    refine parse?_of_numeral htext (fun c hc => ?_) (fun c hc => ?_) hn hsign
    · exact isNumberBlank_of_isBlank (hbefore c hc) (hnone c (by simp [htext, hc]))
    · exact isNumberBlank_of_isBlank (hafter c hc) (hnone c (by simp [htext, hc]))

/-- Only the text of a number can fail to be converted. -/
lemma ofText_eq_unreadable_iff {given : String} :
    ofText naming text = .error (.unreadableNumber given) ↔
      given = text ∧ (∃ x, readNumber? text.toList = some x) ∧ parse? text = none := by
  have hother : ofOtherText naming text ≠ .error (.unreadableNumber given) := by
    unfold ofOtherText
    split
    next => split <;> nofun
    next => nofun
  unfold ofText
  cases hread : readNumber? text.toList with
  | none => simpa using hother
  | some x =>
    rw [parse?_of_readNumber? hread]
    by_cases hseparator : text.toList.any isSeparatorControl = true
    · simp [hseparator, eq_comm]
    · simp only [if_neg hseparator]
      refine iff_of_false ?_ (by simp)
      split
      next => nofun
      next => exact hother

end Contents

/-! ### Numerals in formulas -/

namespace Formula

variable {l : Lexeme} {text : String}

/-- Every numeral of a text can be converted, to the number that it writes. -/
lemma exists_parse?_of_mem_scan (h : l ∈ (scan text).lexemes) (hkind : l.kind = .number) :
    ∃ x, parse? l.text = some x ∧ readSigned? l.chars = some x := by
  have hspells := spells_of_mem_scanFrom h
  rw [hkind] at hspells
  obtain ⟨n, hn, hchars⟩ := hspells
  have hsign : readSign l.chars = (false, n.chars) := hchars ▸ readSign_chars hn
  have htext : l.text.toList = [] ++ (l.chars ++ []) := by simp [Lexeme.text]
  refine ⟨n.value false, parse?_of_numeral htext (by simp) (by simp) hn hsign, ?_⟩
  rw [readSigned?, hsign]
  simp only [Numeral.read?_chars hn]

/-- No operand is lacking when the values of the variables are known. -/
lemma evaluate_ne_malformed {naming : Naming} {f : Formula}
    {lookup : String → Except EvaluationError Float} (h : parse text naming = .ok f)
    (hlookup : ∀ name, lookup name ≠ .error .malformed) :
    f.evaluate lookup ≠ .error .malformed := by
  obtain ⟨e, he⟩ := exists_tree_of_parse h
  intro herror
  have hfailure : Failure lookup .malformed e.tokens := by
    refine Expression.failure_of_evaluate e ?_
    rw [← evaluateM_of_tokens_eq he]
    exact herror
  rcases hfailure with hdivision | ⟨name, -, hname⟩
  · cases hdivision
  · exact hlookup name hname

end Formula

/-! ### The outcome of an edit -/

/-- Whether an edit is documented to be refused for this. -/
def EditError.IsDocumented : EditError → Prop
  | .invalidName _ | .format _ | .circular _ => True
  | .notText _ | .unreadableNumber _ => False

namespace Sheet

variable {s : Sheet} {name text : String}

lemma undocumented_iff_unreadable :
    (∃ e, (s.setContents (.text name) (.text text)).1 = .error e ∧ ¬e.IsDocumented) ↔
      (∃ k, s.naming.canonical? name = some k) ∧
        ∃ given, Contents.ofText s.naming text = .error (.unreadableNumber given) := by
  simp only [setContents, Datum.text?, checkName]
  cases hname : s.naming.canonical? name with
  | none => simp [EditError.IsDocumented]
  | some k =>
    cases hc : Contents.ofText s.naming text with
    | error e =>
      cases e with
      | format e => simp [EditError.ofContents, EditError.IsDocumented]
      | unreadableNumber given => simp [EditError.ofContents, EditError.IsDocumented]
    | ok c =>
      rcases s.commit_cases k c with ⟨cycle, -, hrefused⟩ | ⟨order, -, hdone⟩
      · simp [hrefused, EditError.IsDocumented]
      · simp [hdone]

/-- What comes of entering the text under the name. Apart from the documented refusals, only the
conversion of a number fails. -/
structure Outcome (s : Sheet) (name text : String) : Prop where
  undocumented_iff :
    (∃ e, (s.setContents (.text name) (.text text)).1 = .error e ∧ ¬e.IsDocumented) ↔
      (∃ k, s.naming.canonical? name = some k) ∧
        (∃ x, Contents.readNumber? text.toList = some x) ∧ parse? text = none
  /-- The conversion fails just when a separator control character stands beside the number. -/
  parse?_eq : ∀ x, Contents.readNumber? text.toList = some x →
    parse? text = if text.toList.any Contents.isSeparatorControl then none else some x
  /-- Within a formula it never fails. -/
  numeral : ∀ rest, text.toList = '=' :: rest →
    ∀ l ∈ (Formula.scan (String.ofList rest)).lexemes, l.kind = .number →
      ∃ x, parse? l.text = some x ∧ readSigned? l.chars = some x
  /-- No look-up fails when dependencies are put in place or the former ones are put back. -/
  rewired : ∀ k (c : Contents),
    (DependencyGraph.Change.replaceDependees k c.variableSet.toList).run? s.graph =
      some (s.rewired k c)
  restored : ∀ k (c : Contents),
    (DependencyGraph.Change.replaceDependees k (s.graph.dependeesOf k).toList).run?
      (s.rewired k c) =
        some ((s.rewired k c).replaceDependees k (s.graph.dependeesOf k).toList)
  /-- No formula lacks an operand when it is recalculated, whatever the values are. -/
  evaluated : ∀ (k : String) cell f,
    (s.setContents (.text name) (.text text)).2.cells[k]? = some cell → cell.contents = .formula f →
      ∀ lookup, (∀ u, lookup u ≠ .error .malformed) → f.evaluate lookup ≠ .error .malformed

/-- An edit fails in one of the documented ways, unless the name is accepted and the text is that of
a number that cannot be converted. -/
theorem Reachable.outcome (hs : s.Reachable) (name text : String) : Outcome s name text := by
  constructor
  · rw [undocumented_iff_unreadable]
    simp only [Contents.ofText_eq_unreadable_iff, exists_eq_left]
  · exact fun x => Contents.parse?_of_readNumber?
  · exact fun rest _ l => Formula.exists_parse?_of_mem_scan
  · intro k c
    obtain ⟨pairs, hpairs, -⟩ := hs.consistent.holds
    exact hpairs.run?_eq (.replaceDependees k c.variableSet.toList)
  · intro k c
    obtain ⟨pairs, hpairs, -⟩ := hs.consistent.holds_rewired k c
    exact hpairs.run?_eq (.replaceDependees k (s.graph.dependeesOf k).toList)
  · intro k cell f hcell hf lookup hlookup
    have hentered := (hs.setContents (.text name) (.text text)).entered
    obtain ⟨entered, htext⟩ := hentered.contents k cell hcell
    rw [hf] at htext
    obtain ⟨rest, hparse⟩ := Contents.exists_parse htext
    exact Formula.evaluate_ne_malformed hparse hlookup

theorem outcome_diamond : diamond.Reachable ∧ Outcome diamond "d" "\x1c5" :=
  ⟨reachable_diamond, reachable_diamond.outcome "d" "\x1c5"⟩

/-- A file separator before a number. -/
theorem undocumented_separator : diamond.Reachable ∧
    (diamond.setContents (.text "d") (.text "\x1c5")).1 = .error (.unreadableNumber "\x1c5") ∧
    ¬(EditError.unreadableNumber "\x1c5").IsDocumented := by
  have hname : diamond.checkName (.text "d") = .ok "d" := by cbv
  have hread : ∃ x, Contents.readNumber? "\x1c5".toList = some x := ⟨_, rfl⟩
  have hparse : parse? "\x1c5" = none :=
    parse?_eq_none_of_control (c := '\x1c') (by decide) (by decide) (by decide)
  have hc : Contents.ofText diamond.naming "\x1c5" = .error (.unreadableNumber "\x1c5") :=
    Contents.ofText_eq_unreadable_iff.mpr ⟨rfl, hread, hparse⟩
  refine ⟨reachable_diamond, ?_, id⟩
  simp only [setContents, Datum.text?, hname, hc, EditError.ofContents]

end Sheet

end Recalc
