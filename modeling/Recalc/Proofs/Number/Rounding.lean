import Mathlib
import Recalc.Number.Shortest
import Recalc.Proofs.Number.Binary64

/-!
# Rounding

Every rational in the interval of a positive double is rounded to that double, and so is every
decimal there. The interval reaches half a unit of the last place to both sides, except below a
power of two, where the unit of the next exponent counts.
-/

namespace Recalc.Number

lemma tenTo_eq (n : Nat) : tenTo n = 10 ^ n := rfl

variable {num den m k : Nat} {e : Int} {v : ℚ}

/-! ### Rounding to an integer -/

/-- The natural number is one that the rational may be rounded to: of two, the even one. -/
def Near (k : Nat) (v : ℚ) : Prop :=
  if k % 2 = 0 then k - 1 / 2 ≤ v ∧ v ≤ k + 1 / 2 else k - 1 / 2 < v ∧ v < k + 1 / 2

lemma Near.abs_sub_le (h : Near k v) : |v - k| ≤ 1 / 2 := by
  unfold Near at h
  rw [abs_le]
  split at h <;> constructor <;> linarith

lemma Near.abs_sub_lt (h : Near k v) (hk : k % 2 = 1) : |v - k| < 1 / 2 := by
  rw [Near, if_neg (by omega)] at h
  rw [abs_lt]
  constructor <;> linarith

lemma eq_of_abs_sub_lt_one {a b : Nat} (h : |(a : ℚ) - b| < 1) : a = b := by
  have hint : |(a : Int) - b| < 1 := by exact_mod_cast h
  rw [Int.abs_lt_one_iff] at hint
  omega

/-- Between two integers, the nearer one is meant, or the even one when they are equally near. -/
lemma Near.eq_of_fraction {q : Nat} {r : ℚ} (h : Near k (q + r)) (hr : 0 ≤ r) (hr' : r < 1) :
    (if r < 1 / 2 ∨ (r = 1 / 2 ∧ q % 2 = 0) then q else q + 1) = k := by
  have hle := h.abs_sub_le
  have hlt := h.abs_sub_lt
  rw [abs_le] at hle
  split
  next hdown =>
    rcases hdown with hr | ⟨hr, hq⟩
    · apply eq_of_abs_sub_lt_one
      rw [abs_lt]
      constructor <;> linarith
    · -- The tie goes to the even one.
      have hqk : q ≤ k := by exact_mod_cast (by linarith : (q : ℚ) ≤ k)
      have hkq : k ≤ q + 1 := by exact_mod_cast (by linarith : (k : ℚ) ≤ q + 1)
      by_contra hne
      obtain rfl : k = q + 1 := by omega
      have hstrict := hlt (by omega)
      rw [abs_lt] at hstrict
      push_cast at hstrict
      linarith
  next hup =>
    rw [not_or, not_lt, not_and] at hup
    have hqk : q ≤ k := by exact_mod_cast (by linarith : (q : ℚ) ≤ k)
    have hkq : k < q + 2 := by exact_mod_cast (by linarith : (k : ℚ) < q + 2)
    by_contra hne
    obtain rfl : k = q := by omega
    have hr : r = 1 / 2 := by linarith
    have hstrict := hlt (by have := hup.2 hr; omega)
    rw [abs_lt] at hstrict
    linarith

/-- The integer part of a quotient, or the next integer, by what is left of the quotient. -/
lemma exists_fraction (num : Nat) (hden : 0 < den) : ∃ r : ℚ, 0 ≤ r ∧ r < 1 ∧
    (num : ℚ) / den = (num / den : Nat) + r ∧
    nearestNat num den =
      if r < 1 / 2 ∨ (r = 1 / 2 ∧ num / den % 2 = 0) then num / den else num / den + 1 := by
  have hd : (0 : ℚ) < den := by exact_mod_cast hden
  refine ⟨((num % den : Nat) : ℚ) / den, by positivity, ?_, ?_, ?_⟩
  · rw [div_lt_one hd]
    exact_mod_cast Nat.mod_lt num hden
  · have hdiv : (num : ℚ) = den * (num / den : Nat) + (num % den : Nat) := by
      exact_mod_cast (Nat.div_add_mod num den).symm
    rw [hdiv]
    field_simp
  · have hlt_iff : 2 * (num % den) < den ↔ ((num % den : Nat) : ℚ) / den < 1 / 2 := by
      rw [div_lt_div_iff₀ hd (by norm_num), mul_comm, one_mul]
      norm_cast
    have heq_iff : 2 * (num % den) = den ↔ ((num % den : Nat) : ℚ) / den = 1 / 2 := by
      rw [div_eq_div_iff hd.ne' (by norm_num), mul_comm, one_mul]
      norm_cast
    simp only [nearestNat, hlt_iff, heq_iff]

lemma nearestNat_eq (hden : 0 < den) (h : Near k (num / den)) : nearestNat num den = k := by
  obtain ⟨r, hr, hr', hv, hnearest⟩ := exists_fraction num hden
  rw [hv] at h
  rw [hnearest]
  exact h.eq_of_fraction hr hr'

/-! ### The exponent -/

lemma scaled_spec (num : Nat) (hden : 0 < den) (e : Int) :
    ((scaled num den e).1 : ℚ) / (scaled num den e).2 = num / den / 2 ^ e ∧
      0 < (scaled num den e).2 := by
  unfold scaled
  split
  next h =>
    obtain ⟨j, rfl⟩ : ∃ j : Nat, e = -j := ⟨(-e).toNat, by omega⟩
    refine ⟨?_, hden⟩
    simp only [neg_neg, Int.toNat_natCast, twoTo_eq]
    push_cast
    rw [zpow_neg, zpow_natCast]
    field_simp
  next h =>
    obtain ⟨j, rfl⟩ : ∃ j : Nat, e = j := ⟨e.toNat, by omega⟩
    refine ⟨?_, by simp only [twoTo_eq]; positivity⟩
    simp only [Int.toNat_natCast, twoTo_eq]
    push_cast
    rw [zpow_natCast]
    field_simp

lemma log2_bounds {n : Nat} (hn : 0 < n) :
    (2 : ℚ) ^ (n.log2 : Int) ≤ n ∧ (n : ℚ) < 2 ^ ((n.log2 : Int) + 1) := by
  constructor
  · exact_mod_cast Nat.log2_self_le hn.ne'
  · exact_mod_cast Nat.lt_log2_self

/-- The binary logarithms tell a quotient up to a factor of four. -/
lemma log2_div_bounds (hnum : 0 < num) (hden : 0 < den) :
    (2 : ℚ) ^ ((num.log2 : Int) - den.log2 - 1) < num / den ∧
      (num : ℚ) / den < 2 ^ ((num.log2 : Int) - den.log2 + 1) := by
  have hd : (0 : ℚ) < den := by exact_mod_cast hden
  obtain ⟨hnum1, hnum2⟩ := log2_bounds hnum
  obtain ⟨hden1, hden2⟩ := log2_bounds hden
  constructor
  · rw [lt_div_iff₀ hd]
    calc (2 : ℚ) ^ ((num.log2 : Int) - den.log2 - 1) * den
        < 2 ^ ((num.log2 : Int) - den.log2 - 1) * 2 ^ ((den.log2 : Int) + 1) := by gcongr
      _ = 2 ^ (num.log2 : Int) := by
        rw [← zpow_add₀ two_ne_zero]
        congr 1
        omega
      _ ≤ num := hnum1
  · rw [div_lt_iff₀ hd]
    calc (num : ℚ) < 2 ^ ((num.log2 : Int) + 1) := hnum2
      _ = 2 ^ ((num.log2 : Int) - den.log2 + 1) * 2 ^ (den.log2 : Int) := by
        rw [← zpow_add₀ two_ne_zero]
        congr 1
        omega
      _ ≤ 2 ^ ((num.log2 : Int) - den.log2 + 1) * den := by gcongr

/-- Scaled by a power of two, the integer part of a quotient has at most 53 bits. -/
lemma scaled_lt_iff (num : Nat) (hden : 0 < den) (e : Int) :
    (scaled num den e).1 / (scaled num den e).2 < twoTo 53 ↔ (num : ℚ) / den < 2 ^ (53 + e) := by
  obtain ⟨hscaled, hpos⟩ := scaled_spec num hden e
  rw [Nat.div_lt_iff_lt_mul hpos, zpow_add₀ (by norm_num), ← div_lt_iff₀ (by positivity),
    ← hscaled, div_lt_iff₀ (by exact_mod_cast hpos), twoTo_eq]
  norm_cast

/-- The exponent leaves 53 bits before the point, or it is the least one. -/
lemma roundingExponent_spec (hnum : 0 < num) (hden : 0 < den) :
    -1074 ≤ roundingExponent num den ∧
    (num : ℚ) / den < 2 ^ (53 + roundingExponent num den) ∧
    (roundingExponent num den = -1074 ∨
      (2 : ℚ) ^ (52 + roundingExponent num den) ≤ num / den) := by
  obtain ⟨hlow, hhigh⟩ := log2_div_bounds hnum hden
  have hleast : leastExponent = -1074 := rfl
  simp only [roundingExponent, scaled_lt_iff num hden]
  generalize hex : max leastExponent ((num.log2 : Int) - den.log2 - 53) = ex
  split
  next hlt =>
    refine ⟨by omega, hlt, ?_⟩
    rcases max_choice leastExponent ((num.log2 : Int) - den.log2 - 53) with hmax | hmax
    · exact .inl (by omega)
    · refine .inr (le_trans (zpow_le_zpow_right₀ one_le_two ?_) hlow.le)
      omega
  next hlt =>
    refine ⟨by omega, lt_of_lt_of_le hhigh (zpow_le_zpow_right₀ one_le_two ?_), .inr ?_⟩
    · omega
    · rw [show 52 + (ex + 1) = 53 + ex by omega]
      exact not_lt.mp hlt

/-! ### The interval of a double -/

/-- The rational lies in the interval. -/
def Interval.Covers (i : Interval) (v : ℚ) : Prop :=
  if i.closed then i.low * (i.num / i.den) ≤ v ∧ v ≤ i.high * (i.num / i.den)
  else i.low * (i.num / i.den) < v ∧ v < i.high * (i.num / i.den)

lemma Interval.unit_ofDouble (m : Nat) (e : Int) :
    ((ofDouble m e).num : ℚ) / (ofDouble m e).den = 2 ^ e / 4 := by
  have hfour : (2 : ℚ) ^ e / 4 = 2 ^ (e - 2) := by
    rw [zpow_sub₀ two_ne_zero]
    norm_num
  rw [hfour]
  simp only [ofDouble, twoTo_eq]
  split
  next h =>
    obtain ⟨j, hj⟩ : ∃ j : Nat, e - 2 = j := ⟨(e - 2).toNat, by omega⟩
    rw [hj]
    simp
  next h =>
    obtain ⟨j, hj⟩ : ∃ j : Nat, e - 2 = -j := ⟨(-(e - 2)).toNat, by omega⟩
    rw [hj]
    simp

lemma Interval.Covers.low_le {i : Interval} (h : i.Covers v) : i.low * (i.num / i.den) ≤ v := by
  unfold Covers at h
  split at h
  next => exact h.1
  next => exact h.1.le

/-- The interval in units of the last place: from half a unit below to half a unit above. -/
lemma Interval.Covers.near (h : (ofDouble m e).Covers v) : Near m (v / 2 ^ e) := by
  have hunit : (0 : ℚ) < 2 ^ e := by positivity
  have hlow : (m - 1 / 2 : ℚ) * 2 ^ e ≤ (ofDouble m e).low * (2 ^ e / 4) := by
    have hnat : 4 * m ≤ (ofDouble m e).low + 2 := by
      simp only [ofDouble]
      split <;> omega
    have hcast : (4 * m : ℚ) ≤ (ofDouble m e).low + 2 := by exact_mod_cast hnat
    nlinarith
  have hhigh : ((ofDouble m e).high : ℚ) * (2 ^ e / 4) = (m + 1 / 2) * 2 ^ e := by
    simp only [ofDouble]
    push_cast
    ring
  rw [Covers, unit_ofDouble, hhigh] at h
  have hclosed : (ofDouble m e).closed = true ↔ m % 2 = 0 := by simp [ofDouble]
  simp only [Near, le_div_iff₀ hunit, div_le_iff₀ hunit, lt_div_iff₀ hunit, div_lt_iff₀ hunit]
  split at h
  next hm =>
    rw [if_pos (hclosed.mp hm)]
    exact ⟨hlow.trans h.1, h.2⟩
  next hm =>
    rw [if_neg (hm ∘ hclosed.mpr)]
    exact ⟨hlow.trans_lt h.1, h.2⟩

/-- Below a power of two the interval goes down by a quarter of a unit only. -/
lemma Interval.Covers.quarter_le (he : -1074 < e) (h : (ofDouble (2 ^ 52) e).Covers v) :
    (2 ^ 52 - 1 / 4) * 2 ^ e ≤ v := by
  have hlow : (ofDouble (2 ^ 52) e).low = 4 * 2 ^ 52 - 1 := by
    rw [ofDouble, if_pos ⟨rfl, he⟩]
  have hleft := h.low_le
  rw [unit_ofDouble, hlow] at hleft
  push_cast at hleft
  linarith

/-! ### Rounding to a double -/

/-- Who reaches 53 bits at an exponent is in no interval of a lower one. -/
lemma Interval.Covers.exponent_le (hdouble : IsDouble m e) (h : (ofDouble m e).Covers v) {f : Int}
    (hreach : (2 : ℚ) ^ (52 + f) ≤ v) : f ≤ e := by
  by_contra hlt
  have hunit : (0 : ℚ) < 2 ^ e := by positivity
  have hdist := abs_le.mp h.near.abs_sub_le
  have habove : (2 : ℚ) ^ 53 * 2 ^ e ≤ v := by
    refine le_trans ?_ hreach
    rw [← zpow_natCast, ← zpow_add₀ two_ne_zero]
    exact zpow_le_zpow_right₀ one_le_two (by omega)
  rw [← le_div_iff₀ hunit] at habove
  have hm : (m : ℚ) + 1 ≤ 2 ^ 53 := by exact_mod_cast hdouble.mantissa_lt
  linarith

/-- Only the interval of a power of two goes down to where 53 bits suffice at a lower exponent, and
there it is rounded up to the double all the same. -/
lemma Interval.Covers.round_up (hdouble : IsDouble m e) (h : (ofDouble m e).Covers v) {f : Int}
    (hf : -1074 ≤ f) (hfe : f < e) (hroom : v < 2 ^ (53 + f)) :
    m = 2 ^ 52 ∧ e = f + 1 ∧ Near (2 ^ 53) (v / 2 ^ f) := by
  have hunit : (0 : ℚ) < 2 ^ e := by positivity
  have hdist := abs_le.mp h.near.abs_sub_le
  have hbelow : v < 2 ^ 52 * 2 ^ e := by
    refine hroom.trans_le ?_
    rw [← zpow_natCast, ← zpow_add₀ two_ne_zero]
    exact zpow_le_zpow_right₀ one_le_two (by omega)
  obtain rfl : m = 2 ^ 52 := by
    have hsmall : (m : ℚ) < 2 ^ 52 + 1 := by
      rw [← div_lt_iff₀ hunit] at hbelow
      linarith
    have hle : m < 2 ^ 52 + 1 := by exact_mod_cast hsmall
    have hnormal := hdouble.normal
    omega
  have hquarter := h.quarter_le (by omega)
  obtain rfl : e = f + 1 := by
    by_contra hne
    have hfar : (2 : ℚ) ^ (53 + f) ≤ 2 ^ 51 * 2 ^ e := by
      rw [← zpow_natCast, ← zpow_add₀ two_ne_zero]
      exact zpow_le_zpow_right₀ one_le_two (by omega)
    nlinarith
  refine ⟨rfl, rfl, ?_⟩
  have hhalf : (0 : ℚ) < 2 ^ f := by positivity
  rw [zpow_add₀ two_ne_zero, zpow_one] at hquarter hbelow
  rw [Near, if_pos (by norm_num), le_div_iff₀ hhalf, div_le_iff₀ hhalf]
  push_cast
  constructor <;> nlinarith

/-- A fraction in the interval of a double is rounded to it. -/
theorem nearestBits_eq (hdouble : IsDouble m e) (hnum : 0 < num) (hden : 0 < den)
    (h : (Interval.ofDouble m e).Covers (num / den)) :
    nearestBits num den = magnitudeBits m e := by
  obtain ⟨hleast, hroom, hreach⟩ := roundingExponent_spec hnum hden
  obtain ⟨hscaled, hpos⟩ := scaled_spec num hden (roundingExponent num den)
  have hbits : (roundingExponent num den - leastExponent).toNat * twoTo 52 +
      nearestNat (scaled num den (roundingExponent num den)).1
        (scaled num den (roundingExponent num den)).2 = magnitudeBits m e := by
    generalize roundingExponent num den = f at *
    have hle : f ≤ e := by
      rcases hreach with rfl | hreach
      · exact hdouble.least_le
      · exact h.exponent_le hdouble hreach
    rcases hle.lt_or_eq with hlt | rfl
    · -- The mantissa is rounded up to `2 ^ 53`, and the carry makes the next exponent.
      obtain ⟨rfl, rfl, htop⟩ := h.round_up hdouble hleast hlt hroom
      rw [nearestNat_eq hpos (by rwa [hscaled]), magnitudeBits, twoTo_eq, leastExponent]
      omega
    · rw [nearestNat_eq hpos (by rw [hscaled]; exact h.near), magnitudeBits]
  simp only [nearestBits, if_neg hnum.ne', hbits]
  exact min_eq_right hdouble.magnitudeBits_lt.le

/-! ### Decimals -/

lemma Interval.Covers.bounds (hdouble : IsDouble m e) (hm : 0 < m)
    (h : (ofDouble m e).Covers v) : (2 : ℚ) ^ (-1075 : Int) ≤ v ∧ v < 2 ^ (1024 : Int) := by
  have hunit : (0 : ℚ) < 2 ^ e := by positivity
  have hdist := abs_le.mp h.near.abs_sub_le
  have hm1 : (1 : ℚ) ≤ m := by exact_mod_cast hm
  have hm2 : (m : ℚ) + 1 ≤ 2 ^ 53 := by exact_mod_cast hdouble.mantissa_lt
  constructor
  · have hhalf : (2 : ℚ) ^ (e - 1) ≤ v := by
      rw [zpow_sub₀ two_ne_zero, zpow_one, ← mul_one_div, mul_comm, ← le_div_iff₀ hunit]
      linarith
    exact (zpow_le_zpow_right₀ one_le_two (by have := hdouble.least_le; omega)).trans hhalf
  · have hbelow : v < 2 ^ (53 + e) := by
      rw [zpow_add₀ two_ne_zero, ← div_lt_iff₀ hunit]
      norm_num at hm2 ⊢
      linarith
    exact hbelow.trans_le (zpow_le_zpow_right₀ one_le_two (by have := hdouble.le_greatest; omega))

lemma two_zpow_le_ten_zpow (n : Nat) : (2 : ℚ) ^ (3 * n : Int) ≤ 10 ^ (n : Int) := by
  rw [zpow_mul]
  norm_num
  gcongr
  norm_num

lemma le_ten_zpow_log2 (n : Nat) : (n : ℚ) ≤ 10 ^ ((n.log2 / 3 : Nat) + 1 : Int) := by
  have hlt : (n : ℚ) < 2 ^ (n.log2 + 1) := by exact_mod_cast Nat.lt_log2_self
  calc (n : ℚ) ≤ 2 ^ (n.log2 + 1) := hlt.le
    _ ≤ 2 ^ (3 * (n.log2 / 3 + 1)) := pow_le_pow_right₀ one_le_two (by omega)
    _ ≤ 10 ^ ((n.log2 / 3 : Nat) + 1 : Int) := by
      exact_mod_cast two_zpow_le_ten_zpow (n.log2 / 3 + 1)

/-- A decimal that leaves the range of the doubles by its exponent is in no interval. -/
lemma Interval.Covers.power_bounds (hdouble : IsDouble m e) (hm : 0 < m) {digits : Nat}
    {power : Int} (h : (ofDouble m e).Covers (digits * 10 ^ power)) :
    0 < digits ∧ power ≤ 400 ∧ -400 ≤ power + digits.log2 / 3 + 1 := by
  obtain ⟨hlow, hhigh⟩ := h.bounds hdouble hm
  have hdigits : 0 < digits := by
    rcases Nat.eq_zero_or_pos digits with rfl | hpos
    · have hpos : (0 : ℚ) < 2 ^ (-1075 : Int) := by positivity
      rw [Nat.cast_zero, zero_mul] at hlow
      exact absurd hlow (not_le.mpr hpos)
    · exact hpos
  refine ⟨hdigits, ?_, ?_⟩
  · by_contra hpower
    have hone : (1 : ℚ) ≤ digits := by exact_mod_cast hdigits
    have hten : (2 : ℚ) ^ (1024 : Int) ≤ digits * 10 ^ power := by
      calc (2 : ℚ) ^ (1024 : Int) ≤ 2 ^ (3 * (401 : Nat) : Int) :=
            zpow_le_zpow_right₀ one_le_two (by norm_num)
        _ ≤ 10 ^ ((401 : Nat) : Int) := two_zpow_le_ten_zpow 401
        _ ≤ 1 * 10 ^ power := by
          rw [one_mul]
          exact zpow_le_zpow_right₀ (by norm_num) (by omega)
        _ ≤ digits * 10 ^ power := by gcongr
    exact absurd hhigh (not_lt.mpr hten)
  · by_contra hpower
    have hten : (digits : ℚ) * 10 ^ power < 2 ^ (-1075 : Int) := by
      calc (digits : ℚ) * 10 ^ power
          ≤ 10 ^ ((digits.log2 / 3 : Nat) + 1 : Int) * 10 ^ power := by
            gcongr
            exact le_ten_zpow_log2 digits
        _ = 10 ^ ((digits.log2 / 3 : Nat) + 1 + power : Int) := by
          rw [← zpow_add₀ (by norm_num)]
        _ ≤ 10 ^ (-(400 : Nat) : Int) := zpow_le_zpow_right₀ (by norm_num) (by omega)
        _ ≤ 2 ^ (-(3 * (400 : Nat)) : Int) := by
          rw [zpow_neg, zpow_neg]
          exact inv_anti₀ (by positivity) (two_zpow_le_ten_zpow 400)
        _ < 2 ^ (-1075 : Int) := zpow_lt_zpow_right₀ one_lt_two (by norm_num)
    exact absurd hlow (not_le.mpr hten)

/-- A decimal in the interval of a double is read as that double. -/
theorem ofDecimal_eq (hdouble : IsDouble m e) (hm : 0 < m) {digits : Nat} {power : Int}
    (h : (Interval.ofDouble m e).Covers (digits * 10 ^ power)) (negative : Bool) :
    ofDecimal negative digits power = ofMagnitudeBits negative (magnitudeBits m e) := by
  obtain ⟨hdigits, hlarge, hsmall⟩ := h.power_bounds hdouble hm
  rw [ofDecimal, if_neg hdigits.ne', if_neg (by omega), if_neg (by omega)]
  split
  next hpower =>
    obtain ⟨n, rfl⟩ : ∃ n : Nat, power = n := ⟨power.toNat, by omega⟩
    rw [ofFraction, nearestBits_eq hdouble (by rw [tenTo_eq]; positivity) one_pos]
    simpa [tenTo_eq] using h
  next hpower =>
    obtain ⟨n, rfl⟩ : ∃ n : Nat, power = -n := ⟨(-power).toNat, by omega⟩
    rw [ofFraction, nearestBits_eq hdouble hdigits (by rw [tenTo_eq]; positivity)]
    simpa [tenTo_eq, div_eq_mul_inv] using h

/-! ### The sign -/

lemma nearestBits_le (num den : Nat) : nearestBits num den ≤ infinityBits := by
  unfold nearestBits
  split
  next => exact Nat.zero_le _
  next => exact Nat.min_le_left _ _

/-- What is read as a finite double has the sign that it is read with. -/
lemma sign_ofDecimal {digits : Nat} {power : Int} {negative negative' : Bool}
    (h : parts (ofDecimal negative digits power) = .finite negative' m e) :
    negative' = negative := by
  unfold ofDecimal at h
  repeat' split at h
  · exact sign_ofMagnitudeBits (Nat.zero_le _) h
  · exact sign_ofMagnitudeBits (Nat.le_refl _) h
  · exact sign_ofMagnitudeBits (Nat.zero_le _) h
  · exact sign_ofMagnitudeBits (nearestBits_le _ _) h
  · exact sign_ofMagnitudeBits (nearestBits_le _ _) h

end Recalc.Number
