import Recalc.Proofs.Number.Rounding

/-!
# Integers among the doubles

An integer has a nearest double unless it lies too far beyond the greatest one: from half a unit of
the last place beyond it on, integers are rounded to infinity.
-/

namespace Recalc.Number

variable {num den n : Nat} {v : ℚ} {negative : Bool}

/-- The greatest double is `(2 ^ 53 - 1) * 2 ^ 971`, and this is half a unit of its last place
beyond it. -/
def roundingLimit : Nat := (twoTo 54 - 1) * twoTo 970

/-! ### Finite bits -/

lemma isFinite_ofMagnitudeBits {b : Nat} (hb : b ≤ infinityBits) :
    isFinite (ofMagnitudeBits negative b) = true ↔ b < infinityBits := by
  rcases Nat.lt_or_eq_of_le hb with hlt | rfl
  · refine iff_of_true ?_ hlt
    have hbits := toNat_toBits_ofMagnitudeBits negative hlt
    have hbiased : (ofMagnitudeBits negative b).toBits.toNat / 2 ^ 52 % 2 ^ 11 ≠ 0x7FF := by
      simp only [infinityBits, twoTo_eq] at hlt
      rw [hbits]
      split <;> omega
    rw [isFinite_iff, parts_eq, if_neg hbiased]
    split <;> exact ⟨_, _, _, rfl⟩
  · refine iff_of_false ?_ (Nat.lt_irrefl _)
    cases negative <;> decide

/-! ### Rounding up to infinity -/

lemma near_nearestNat (num : Nat) (hden : 0 < den) : Near (nearestNat num den) (num / den) := by
  obtain ⟨r, hr, hr', hv, hnearest⟩ := exists_fraction num hden
  rw [hv, hnearest]
  generalize num / den = q
  unfold Near
  split
  next hdown =>
    split
    next => rcases hdown with hr | ⟨hr, -⟩ <;> constructor <;> linarith
    next hodd =>
      obtain hr | ⟨-, heven⟩ := hdown
      · constructor <;> linarith
      · exact absurd heven hodd
  next hup =>
    rw [not_or, not_lt, not_and] at hup
    push_cast
    split
    next => constructor <;> linarith [hup.1]
    next hodd =>
      -- Before an odd number stands an even one, to which a tie would have gone.
      have hstrict : r ≠ 1 / 2 := fun htie => hup.2 htie (by omega)
      have hgt : 1 / 2 < r := lt_of_le_of_ne hup.1 hstrict.symm
      constructor <;> linarith

lemma Near.le {k : Nat} (h : Near k v) : (k : ℚ) - 1 / 2 ≤ v ∧ v ≤ k + 1 / 2 := by
  have habs := abs_le.mp h.abs_sub_le
  constructor <;> linarith [habs.1, habs.2]

lemma two_zpow_mul_two_le {a b : Int} (h : a < b) : (2 : ℚ) ^ a * 2 ≤ 2 ^ b := by
  rw [← zpow_add_one₀ two_ne_zero]
  exact zpow_le_zpow_right₀ one_le_two h

/-- The greatest mantissa is odd, so that a tie goes up from it. -/
lemma Near.lt_mantissas_iff {k : Nat} (h : Near k v) : k < 2 ^ 53 ↔ v < 2 ^ 53 - 1 / 2 := by
  obtain ⟨hlow, hhigh⟩ := h.le
  constructor
  · intro hk
    rcases Nat.lt_or_ge k (2 ^ 53 - 1) with hlt | hge
    · have hle : (k : ℚ) + 2 ≤ 2 ^ 53 := by exact_mod_cast (by omega : k + 2 ≤ 2 ^ 53)
      linarith
    · obtain rfl : k = 2 ^ 53 - 1 := by omega
      have hstrict := (abs_lt.mp (h.abs_sub_lt (by norm_num))).2
      norm_num at hstrict ⊢
      linarith
  · intro hv
    have hlt : (k : ℚ) < 2 ^ 53 := by linarith
    exact_mod_cast hlt

/-- A mantissa and an exponent reach infinity just from the limit on. -/
lemma Near.lt_infinity_iff {k : Nat} {e : Int} (hleast : -1074 ≤ e) (hroom : v / 2 ^ e < 2 ^ 53)
    (hreach : e = -1074 ∨ 2 ^ 52 ≤ v / 2 ^ e) (h : Near k (v / 2 ^ e)) :
    (e + 1074).toNat * 2 ^ 52 + k < 2047 * 2 ^ 52 ↔
      v < (2 ^ 53 - 1 / 2) * 2 ^ (971 : Int) := by
  have hunit : (0 : ℚ) < 2 ^ e := by positivity
  have hlast : (0 : ℚ) < 2 ^ (971 : Int) := by positivity
  obtain ⟨hlow, hhigh⟩ := h.le
  rcases lt_trichotomy e 971 with he | rfl | he
  · have hk : k ≤ 2 ^ 53 := by
      have hlt : (k : ℚ) < 2 ^ 53 + 1 := by linarith
      exact Nat.lt_succ_iff.mp (by exact_mod_cast hlt)
    refine iff_of_true (by omega) ?_
    have hpower := two_zpow_mul_two_le he
    refine lt_of_lt_of_le ((div_lt_iff₀ hunit).mp hroom) ?_
    generalize (2 : ℚ) ^ (971 : Int) = last at *
    linarith
  · rw [← div_lt_iff₀ hunit, ← h.lt_mantissas_iff]
    omega
  · obtain hleast | hreach := hreach
    · omega
    have hk : 2 ^ 52 ≤ k := by
      have hlt : (2 ^ 52 : ℚ) < k + 1 := by linarith
      exact Nat.lt_succ_iff.mp (by exact_mod_cast hlt)
    refine iff_of_false (by omega) (not_lt.mpr ?_)
    have hpower := two_zpow_mul_two_le he
    refine le_trans ?_ ((le_div_iff₀ hunit).mp hreach)
    generalize (2 : ℚ) ^ (971 : Int) = last at *
    linarith

lemma twoTo_pos (n : Nat) : 0 < twoTo n :=
  Nat.two_pow_pos n

lemma cast_roundingLimit :
    ((roundingLimit : Nat) : ℚ) = (2 ^ 53 - 1 / 2) * 2 ^ (971 : Int) := by
  have hmantissa : ((twoTo 54 - 1 : Nat) : ℚ) = (2 ^ 53 - 1 / 2) * 2 := by
    rw [show twoTo 54 - 1 = 18014398509481983 from rfl]
    norm_num
  have hpower : ((twoTo 970 : Nat) : ℚ) = 2 ^ (970 : Int) := by
    rw [twoTo_eq, Nat.cast_pow, Nat.cast_two, ← zpow_natCast, Nat.cast_ofNat]
  rw [roundingLimit, Nat.cast_mul, hmantissa, hpower, mul_assoc, mul_comm (2 : ℚ),
    ← zpow_add_one₀ two_ne_zero]
  rfl

/-- An integer is rounded to infinity just from the limit on. -/
lemma nearestBits_lt_iff (hn : 0 < n) :
    nearestBits n 1 < infinityBits ↔ n < roundingLimit := by
  obtain ⟨hleast, hroom, hreach⟩ := roundingExponent_spec hn Nat.one_pos
  obtain ⟨hscaled, hpos⟩ := scaled_spec n Nat.one_pos (roundingExponent n 1)
  have hnear := near_nearestNat (scaled n 1 (roundingExponent n 1)).1 hpos
  have hunit : (0 : ℚ) < 2 ^ roundingExponent n 1 := by positivity
  rw [hscaled] at hnear
  rw [zpow_add₀ two_ne_zero, ← div_lt_iff₀ hunit] at hroom
  rw [zpow_add₀ two_ne_zero, ← le_div_iff₀ hunit] at hreach
  simp only [Nat.cast_one, div_one] at hroom hreach hnear
  rw [← Nat.cast_lt (α := ℚ) (m := n), cast_roundingLimit,
    ← hnear.lt_infinity_iff hleast hroom hreach]
  simp only [nearestBits, if_neg hn.ne', infinityBits, leastExponent, twoTo_eq, sub_neg_eq_add]
  omega

/-- An integer is beyond the doubles just from the limit on, on either side of zero. -/
theorem ofInt?_eq_none_iff {n : Int} : ofInt? n = none ↔ roundingLimit ≤ n.natAbs := by
  have hfinite : isFinite (ofFraction (n < 0) n.natAbs 1) = true ↔ n.natAbs < roundingLimit := by
    rw [ofFraction, isFinite_ofMagnitudeBits (nearestBits_le _ _)]
    rcases Nat.eq_zero_or_pos n.natAbs with hzero | hpos
    · rw [hzero]
      exact iff_of_true (by decide) (Nat.mul_pos (by decide) (twoTo_pos 970))
    · exact nearestBits_lt_iff hpos
  rw [ofInt?, ← not_lt, ← hfinite]
  simp

end Recalc.Number
