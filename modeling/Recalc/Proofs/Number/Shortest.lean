import Recalc.Proofs.Number.Rounding

/-!
# Shortest decimals read back

The decimal that is found for a positive double lies in its interval, whatever grid the search ends
at: a point of a grid is tested before it is taken, and the last grid is finer than the interval.
So the decimal is rounded to the double.
-/

namespace Recalc.Number

variable {m : Nat} {e : Int} {v : ℚ} {i : Interval} {d n : Nat}

/-! ### Points of a grid -/

lemma ten_zpow_eq (k : Int) : (10 : ℚ) ^ k = (tenTo k.toNat : ℚ) / tenTo (-k).toNat := by
  rcases Int.le_total 0 k with hk | hk
  · obtain ⟨n, rfl⟩ : ∃ n : Nat, k = n := ⟨k.toNat, by omega⟩
    simp [tenTo_eq]
  · obtain ⟨n, rfl⟩ : ∃ n : Nat, k = -n := ⟨(-k).toNat, by omega⟩
    simp [tenTo_eq]

lemma Interval.contains_iff (hden : 0 < i.den) {k : Int} :
    i.contains d k = true ↔ i.Covers (d * 10 ^ k) := by
  have hscale : (0 : ℚ) < i.den * tenTo (-k).toNat := by
    rw [tenTo_eq]
    positivity
  have hd : (i.den : ℚ) ≠ 0 := by positivity
  have hten : (tenTo (-k).toNat : ℚ) ≠ 0 := by
    rw [tenTo_eq]
    positivity
  have hpoint : ((d * i.den * tenTo k.toNat : Nat) : ℚ) =
      d * 10 ^ k * (i.den * tenTo (-k).toNat) := by
    rw [ten_zpow_eq]
    push_cast
    field_simp
  have hbound (a : Nat) : ((a * (i.num * tenTo (-k).toNat) : Nat) : ℚ) =
      a * (i.num / i.den) * (i.den * tenTo (-k).toNat) := by
    push_cast
    field_simp
  have hle (a : Nat) : a * (i.num * tenTo (-k).toNat) ≤ d * i.den * tenTo k.toNat ↔
      (a : ℚ) * (i.num / i.den) ≤ d * 10 ^ k := by
    rw [← Nat.cast_le (α := ℚ), hpoint, hbound, mul_le_mul_iff_left₀ hscale]
  have hge (a : Nat) : d * i.den * tenTo k.toNat ≤ a * (i.num * tenTo (-k).toNat) ↔
      (d : ℚ) * 10 ^ k ≤ a * (i.num / i.den) := by
    rw [← Nat.cast_le (α := ℚ), hpoint, hbound, mul_le_mul_iff_left₀ hscale]
  unfold contains Covers
  dsimp only
  split
  next => rw [Bool.and_eq_true, decide_eq_true_eq, decide_eq_true_eq, hle, hge]
  next =>
    rw [Bool.and_eq_true, decide_eq_true_eq, decide_eq_true_eq, ← not_le, ← not_le, hle, hge,
      not_le, not_le]

lemma Interval.covers_of_gridPoint? (hden : 0 < i.den) {k : Int} (h : i.gridPoint? k = some d) :
    i.Covers (d * 10 ^ k) := by
  rw [← contains_iff hden]
  simp only [gridPoint?] at h
  split at h
  next hboth hnext =>
    cases h
    split
    · exact hboth
    · exact hnext
  next hleft _ =>
    cases h
    exact hleft
  next _ hnext =>
    cases h
    exact hnext
  next => cases h

lemma Interval.covers_of_lt (hlow : i.low * (i.num / i.den) < v)
    (hhigh : v < i.high * (i.num / i.den)) : i.Covers v := by
  unfold Covers
  split
  next => exact ⟨hlow.le, hhigh.le⟩
  next => exact ⟨hlow, hhigh⟩

/-- On a grid that is finer than the interval, the neighbour below the double lies in it. -/
lemma Interval.covers_floor (hnum : 0 < i.num) (hden : 0 < i.den) (hhigh : i.middle < i.high)
    {k : Int} (hfine : (10 : ℚ) ^ k < (i.middle - i.low) * (i.num / i.den)) :
    i.Covers ((i.middle * i.num * tenTo (-k).toNat / (i.den * tenTo k.toNat) : Nat) * 10 ^ k) := by
  have hten : (0 : ℚ) < tenTo (-k).toNat := by
    rw [tenTo_eq]
    positivity
  have hscale : (0 : ℚ) < i.den * tenTo (-k).toNat := by positivity
  have hunit : (0 : ℚ) < i.num / i.den := by positivity
  have hgrid : ((i.den * tenTo k.toNat : Nat) : ℚ) = 10 ^ k * (i.den * tenTo (-k).toNat) := by
    rw [ten_zpow_eq]
    push_cast
    field_simp
  have hmiddle : ((i.middle * i.num * tenTo (-k).toNat : Nat) : ℚ) =
      i.middle * (i.num / i.den) * (i.den * tenTo (-k).toNat) := by
    push_cast
    field_simp
  have hpos : 0 < i.den * tenTo k.toNat := by
    rw [tenTo_eq]
    positivity
  have hbelow := Nat.div_mul_le_self (i.middle * i.num * tenTo (-k).toNat) (i.den * tenTo k.toNat)
  have habove := Nat.lt_mul_div_succ (i.middle * i.num * tenTo (-k).toNat) hpos
  generalize i.middle * i.num * tenTo (-k).toNat / (i.den * tenTo k.toNat) = q at *
  rw [← Nat.cast_le (α := ℚ), Nat.cast_mul, hgrid, hmiddle, ← mul_assoc,
    mul_le_mul_iff_left₀ hscale] at hbelow
  rw [← Nat.cast_lt (α := ℚ), hmiddle, Nat.cast_mul, hgrid, mul_right_comm (10 ^ k),
    mul_lt_mul_iff_left₀ hscale] at habove
  push_cast at habove
  refine covers_of_lt (by linarith) (hbelow.trans_lt ?_)
  gcongr

/-! ### Leading digits -/

lemma lt_tenTo_digitCount (n : Nat) : n < 10 ^ digitCount n :=
  (Nat.length_toDigits_le_iff (by norm_num) Nat.length_toDigits_pos).mp le_rfl

lemma tenTo_digitCount_le (hn : 0 < n) : 10 ^ (digitCount n - 1) ≤ n := by
  by_contra hlt
  rcases Nat.eq_zero_or_pos (digitCount n - 1) with hzero | hpos
  · rw [hzero] at hlt
    omega
  · have := (Nat.length_toDigits_le_iff (by norm_num) hpos).mpr (not_le.mp hlt)
    rw [← digitCount] at this
    omega

lemma ten_zpow_leadingPower_le {num den : Nat} (hnum : 0 < num) (hden : 0 < den) :
    (10 : ℚ) ^ leadingPower num den ≤ num / den := by
  have hn : (0 : ℚ) < num := by exact_mod_cast hnum
  have hd : (0 : ℚ) < den := by exact_mod_cast hden
  have hcount (a : Nat) : 0 < digitCount a := Nat.length_toDigits_pos
  unfold leadingPower
  split
  next hle =>
    have hq : 0 < num / den := Nat.div_pos hle hden
    rw [show ((digitCount (num / den) : Nat) : Int) - 1 = (digitCount (num / den) - 1 : Nat) by
      have := hcount (num / den)
      omega, zpow_natCast]
    calc (10 : ℚ) ^ (digitCount (num / den) - 1) ≤ (num / den : Nat) := by
          exact_mod_cast tenTo_digitCount_le hq
      _ ≤ num / den := Nat.cast_div_le
  next hlt =>
    generalize hc : (den + num - 1) / num - 1 = c
    have hceil : den ≤ num * (c + 1) := by
      have hdiv := Nat.lt_mul_div_succ (den + num - 1) hnum
      have hone : 1 ≤ (den + num - 1) / num := (Nat.one_le_div_iff hnum).mpr (by omega)
      rw [show c + 1 = (den + num - 1) / num by omega]
      rw [Nat.mul_add, mul_one] at hdiv
      omega
    have hfits : (den : ℚ) ≤ num * 10 ^ digitCount c := by
      exact_mod_cast hceil.trans (Nat.mul_le_mul_left num (lt_tenTo_digitCount c))
    rw [zpow_neg, zpow_natCast, inv_le_iff_one_le_mul₀ (by positivity), div_mul_eq_mul_div,
      one_le_div hd]
    exact hfits

/-! ### The search -/

/-- Whatever grid the search ends at, its decimal lies in the interval. -/
lemma Interval.covers_search (hnum : 0 < i.num) (hden : 0 < i.den) (hhigh : i.middle < i.high)
    {k : Int} {n : Nat} (hfine : (10 : ℚ) ^ (k - n) < (i.middle - i.low) * (i.num / i.den)) :
    i.Covers ((i.search k n).digits * 10 ^ (i.search k n).exponent) := by
  induction n generalizing k with
  | zero =>
    rw [search]
    exact covers_floor hnum hden hhigh (by simpa using hfine)
  | succ n ih =>
    rw [search]
    split
    next d hd => exact covers_of_gridPoint? hden hd
    next =>
      apply ih
      convert hfine using 2
      push_cast
      ring

lemma Decimal.trimZeros_value (d : Decimal) :
    (d.trimZeros.digits : ℚ) * 10 ^ d.trimZeros.exponent = d.digits * 10 ^ d.exponent := by
  fun_induction Decimal.trimZeros d with
  | case1 d h => rfl
  | case2 d h ih =>
    rw [ih]
    have hdigits : d.digits = d.digits / 10 * 10 := by omega
    dsimp only
    conv_rhs => rw [hdigits]
    rw [zpow_add₀ (by norm_num)]
    push_cast
    ring

/-- The shortest decimal is rounded to the double. -/
theorem covers_shortest (hdouble : IsDouble m e) (hm : 0 < m) : (Interval.ofDouble m e).Covers
    ((shortest m e).digits * 10 ^ (shortest m e).exponent) := by
  have hunit := Interval.unit_ofDouble m e
  have hnum : 0 < (Interval.ofDouble m e).num := by
    simp only [Interval.ofDouble, twoTo_eq]
    split <;> positivity
  have hden : 0 < (Interval.ofDouble m e).den := by
    simp only [Interval.ofDouble, twoTo_eq]
    split <;> positivity
  have hmiddle : (Interval.ofDouble m e).middle = 4 * m := rfl
  have hlow : (Interval.ofDouble m e).low + 1 ≤ (Interval.ofDouble m e).middle := by
    simp only [Interval.ofDouble]
    split <;> omega
  rw [shortest, Decimal.trimZeros_value]
  apply Interval.covers_search hnum hden (by simp [Interval.ofDouble])
  -- The double is below `2 ^ 53` units, and so is the power of ten of its leading digit.
  have hpos : 0 < (Interval.ofDouble m e).middle * (Interval.ofDouble m e).num := by
    rw [hmiddle]
    positivity
  have hlead := ten_zpow_leadingPower_le hpos hden
  rw [Nat.cast_mul, mul_div_assoc, hunit, hmiddle] at hlead
  have hm53 : (m : ℚ) < 2 ^ 53 := by exact_mod_cast hdouble.mantissa_lt
  have hgap : (1 : ℚ) ≤ (Interval.ofDouble m e).middle - (Interval.ofDouble m e).low := by
    have hcast : ((Interval.ofDouble m e).low : ℚ) + 1 ≤ (Interval.ofDouble m e).middle := by
      exact_mod_cast hlow
    linarith
  have hulp : (0 : ℚ) < 2 ^ e := by positivity
  rw [hunit, zpow_sub₀ (by norm_num), zpow_natCast, div_lt_iff₀ (by positivity)]
  push_cast at hlead
  calc _ ≤ 4 * (m : ℚ) * (2 ^ e / 4) := hlead
    _ < 1 * (2 ^ e / 4) * 10 ^ 17 := by nlinarith
    _ ≤ _ := by gcongr

end Recalc.Number
