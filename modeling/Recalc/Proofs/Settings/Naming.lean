import Mathlib
import Recalc.Proofs.Text.Case
import Recalc.Settings.Naming
import Recalc.Text.Blank

/-!
# Names and naming policies

Names consist of ASCII characters, none of which is a blank. A policy from settings therefore leaves
the names that are normal forms as they are.
-/

namespace Recalc

open Recalc.Text

variable {naming : Naming} {name : String} {c : Char}

/-! ### Characters of names -/

lemma code_of_isNamePart (h : isNamePart c = true) : 0x30 ≤ c.toNat ∧ c.toNat < 0x80 := by
  simp only [isNamePart, Char.isAlphanum, Char.isAlpha, Char.isUpper, Char.isLower, Char.isDigit,
    Bool.or_eq_true, Bool.and_eq_true, decide_eq_true_eq, UInt32.le_iff_toNat_le, ge_iff_le] at h
  change (((0x41 ≤ c.toNat ∧ c.toNat ≤ 0x5A) ∨ (0x61 ≤ c.toNat ∧ c.toNat ≤ 0x7A)) ∨
    (0x30 ≤ c.toNat ∧ c.toNat ≤ 0x39)) ∨ c = '_' at h
  rcases h with h | rfl
  · omega
  · decide

lemma isNamePart_of_mem (h : isName name = true) (hc : c ∈ name.toList) : isNamePart c = true := by
  rw [isName] at h
  generalize name.toList = cs at h hc
  cases cs with
  | nil => cases hc
  | cons d cs =>
    rw [isNameChars, Bool.and_eq_true, List.all_eq_true] at h
    rcases List.mem_cons.mp hc with rfl | hc
    · simp only [isNameStart, isNamePart, Char.isAlphanum, Bool.or_eq_true] at h ⊢
      tauto
    · exact h.2 c hc

lemma isBlank_of_isNamePart (h : isNamePart c = true) : isBlank c = false := by
  have hcode := code_of_isNamePart h
  simp only [isBlank, if_pos hcode.2, Bool.or_eq_false_iff, Bool.and_eq_false_iff,
    decide_eq_false_iff_not]
  omega

/-- Names hold no blanks. -/
lemma strip_of_isName (h : isName name = true) : strip name = name := by
  have hblank : ∀ c ∈ name.toList, isBlank c = false :=
    fun c hc => isBlank_of_isNamePart (isNamePart_of_mem h hc)
  have hdrop {cs : List Char} (hcs : ∀ c ∈ cs, isBlank c = false) : cs.dropWhile isBlank = cs := by
    cases cs with
    | nil => rfl
    | cons c cs =>
      rw [List.dropWhile_cons_of_neg]
      simp [hcs c List.mem_cons_self]
  rw [strip, trimBoth, hdrop hblank, hdrop fun c hc => hblank c (List.mem_reverse.mp hc),
    List.reverse_reverse, String.ofList_toList]

namespace Naming

/-! ### Normal forms -/

/-- What is accepted as a normal form is its own normal form. -/
def Idempotent (naming : Naming) : Prop :=
  ∀ given name, naming.canonical? given = some name → naming.normalize name = name

lemma idempotent_of_isName
    (h : ∀ given, isName (naming.normalize given) = true →
      naming.normalize (naming.normalize given) = naming.normalize given) : naming.Idempotent := by
  intro given name hname
  simp only [canonical?, Option.ite_none_right_eq_some, Option.some.injEq,
    Bool.and_eq_true] at hname
  obtain ⟨⟨hisName, -⟩, rfl⟩ := hname
  exact h given hisName

/-! ### Policies from settings -/

lemma normalize_of_normalizer {setting : Datum CodePoints} {normal : Option (String → String)}
    (h : normalizer setting = .ok normal) :
    normal = none ∨ normal = some upper ∨ normal = some lower := by
  unfold normalizer at h
  simp only at h
  split at h <;> cases h <;> simp

/-- The policies that settings choose leave names in normal form as they are. -/
theorem idempotent_of_ofSettings {normalize pattern : Datum CodePoints}
    (h : ofSettings normalize pattern = .ok naming) : naming.Idempotent := by
  unfold ofSettings at h
  cases hpattern : validator pattern with
  | error e =>
    rw [hpattern] at h
    cases h
  | ok accepts =>
    cases hnormal : normalizer normalize with
    | error e =>
      rw [hpattern, hnormal] at h
      cases h
    | ok normal =>
      rw [hpattern, hnormal] at h
      cases h
      refine idempotent_of_isName fun given hisName => ?_
      have hascii : ∀ c ∈ (normal.getD id given).toList, c.toNat < 0x80 :=
        fun c hc => (code_of_isNamePart (isNamePart_of_mem hisName hc)).2
      rcases normalize_of_normalizer hnormal with rfl | rfl | rfl
      · rfl
      · exact upper_upper hascii
      · exact lower_lower hascii

end Naming

end Recalc
