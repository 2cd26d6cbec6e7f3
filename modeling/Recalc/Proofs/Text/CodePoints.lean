import Mathlib.Data.List.Chain
import Recalc.Proofs.Text.Utf8
import Recalc.Text.CodePoints

/-!
# Code points and characters

A text of characters is also one of code points. Among all texts of code points it is unpaired: no
high surrogate stands directly before a low one, so that its code units of sixteen bits tell it
from all others.
-/

namespace Recalc

variable {n : Nat}

namespace CodePoint

lemma ofNat_of_isValidChar (h : n.isValidChar) : ofNat n = .char (Char.ofNat n) :=
  if_pos h

lemma ofNat_toNat (p : CodePoint) : ofNat p.toNat = p := by
  cases p with
  | char c =>
    have hvalid : c.toNat.isValidChar := c.valid
    rw [toNat, ofNat_of_isValidChar hvalid, Char.ofNat_toNat]
  | surrogate n =>
    have hn := n.isLt
    have hinvalid : ¬(0xD800 + n.val).isValidChar := by
      rw [Nat.isValidChar]
      omega
    rw [toNat, ofNat, if_neg hinvalid, Nat.add_sub_cancel_left, Fin.ofNat_eq_cast,
      Fin.cast_val_eq_self]

lemma toNat_lt (p : CodePoint) : p.toNat < 0x110000 := by
  cases p with
  | char c =>
    rw [toNat]
    rcases Text.toNat_cases c with hlt | ⟨-, hlt⟩ <;> omega
  | surrogate n =>
    have hn := n.isLt
    rw [toNat]
    omega

lemma isHigh_iff {p : CodePoint} : p.isHigh = true ↔ 0xD800 ≤ p.toNat ∧ p.toNat < 0xDC00 := by
  simp [isHigh]

lemma isLow_iff {p : CodePoint} : p.isLow = true ↔ 0xDC00 ≤ p.toNat ∧ p.toNat < 0xE000 := by
  simp [isLow]

lemma isHigh_char (c : Char) : (char c).isHigh = false := by
  rw [Bool.eq_false_iff, Ne, isHigh_iff, toNat]
  rcases Text.toNat_cases c with hlt | ⟨hgt, -⟩ <;> omega

end CodePoint

namespace CodePoints

lemma ofString_injective : Function.Injective ofString := by
  intro s t h
  rw [ofString, ofString] at h
  exact String.toList_injective (List.map_injective_iff.mpr (fun _ _ h => CodePoint.char.inj h) h)

@[simp]
lemma ofString_inj {s t : String} : ofString s = ofString t ↔ s = t :=
  ofString_injective.eq_iff

@[simp]
lemma ofString_append (s t : String) : ofString (s ++ t) = ofString s ++ ofString t := by
  rw [ofString, String.toList_append, List.map_append, ofString, ofString]

@[simp]
lemma length_ofString (s : String) : (ofString s).length = s.length := by
  rw [ofString, List.length_map, String.length_toList]

@[simp]
lemma lossy_ofString (s : String) : lossy (ofString s) = s := by
  have hchars : s.toList.map ((fun p : CodePoint => p.char?.getD '\uFFFD') ∘ .char) = s.toList :=
    List.map_id' s.toList
  rw [lossy, ofString, List.map_map, hchars, String.ofList_toList]

/-- No high surrogate stands directly before a low one. -/
def Unpaired (s : CodePoints) : Prop :=
  s.IsChain fun p q => ¬(p.isHigh = true ∧ q.isLow = true)

lemma unpaired_ofString (s : String) : Unpaired (ofString s) := by
  rw [Unpaired, ofString, List.isChain_map]
  refine List.Pairwise.isChain (List.pairwise_of_forall fun c d h => ?_)
  rw [CodePoint.isHigh_char] at h
  exact Bool.false_ne_true h.1

end CodePoints

end Recalc
