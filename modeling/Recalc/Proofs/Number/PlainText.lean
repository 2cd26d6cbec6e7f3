import Recalc.Proofs.Number.Layout

/-!
# Plain texts read back

The plain text of a finite double is a numeral, behind a minus when the double is negative and not
zero. The numeral has the value of the double without its sign, whether it was written as a whole
number or with the shortest digits.
-/

namespace Recalc.Number

open Recalc.Text

variable {x : Float} {negative : Bool} {m : Nat} {e : Int} {n : Numeral}

/-! ### The value of a numeral -/

/-- The double itself lies in its interval. -/
lemma Interval.covers_self (hm : 0 < m) (e : Int) : (ofDouble m e).Covers (m * 2 ^ e) := by
  have hunit : (0 : ℚ) < 2 ^ e := by positivity
  have hlow : (ofDouble m e).low < 4 * m := by
    simp only [ofDouble]
    split <;> omega
  have hlow' : ((ofDouble m e).low : ℚ) < 4 * m := by exact_mod_cast hlow
  apply covers_of_lt
  · rw [unit_ofDouble]
    nlinarith
  · rw [unit_ofDouble]
    simp only [ofDouble]
    push_cast
    nlinarith

lemma Numeral.value_of_covers (hdouble : IsDouble m e) (hm : 0 < m)
    (h : (Interval.ofDouble m e).Covers n.rational) (b : Bool) :
    n.value b = ofMagnitudeBits b (magnitudeBits m e) :=
  ofDecimal_eq hdouble hm h b

/-- A numeral that writes a double exactly has it as its value. -/
lemma Numeral.value_of_rational (hdouble : IsDouble m e) (h : n.rational = m * 2 ^ e) (b : Bool) :
    n.value b = ofMagnitudeBits b (magnitudeBits m e) := by
  rcases Nat.eq_zero_or_pos m with rfl | hm
  · have hdigits : digitsValue (n.whole ++ n.places) = 0 := by
      have hpower : (10 : ℚ) ^ (n.exponent - n.places.length) ≠ 0 := by positivity
      simpa [rational, hpower] using h
    have hexponent : e = -1074 := by simpa using hdouble.normal
    subst hexponent
    rw [value, hdigits, ofDecimal, if_pos rfl]
    rfl
  · exact value_of_covers hdouble hm (h ▸ Interval.covers_self hm e) b

/-! ### The text -/

/-- The whole number that a double is has the magnitude of the double. -/
lemma toInt?_of_parts (h : parts x = .finite negative m e) {z : Int} (hz : toInt? x = some z) :
    ∃ k : Nat, z = (if negative then -(k : Int) else k) ∧ (k : ℚ) = m * 2 ^ e := by
  simp only [toInt?, h, Option.map_eq_some_iff, bind, pure, Option.bind_eq_some_iff] at hz
  obtain ⟨-, ⟨k, hk, ⟨⟩⟩, rfl⟩ := hz
  refine ⟨k, rfl, ?_⟩
  split at hk
  next he =>
    cases hk
    obtain ⟨j, rfl⟩ : ∃ j : Nat, e = j := ⟨e.toNat, by omega⟩
    simp [twoTo_eq]
  next he =>
    split at hk
    next hwhole =>
      cases hk
      obtain ⟨j, rfl⟩ : ∃ j : Nat, e = -j := ⟨(-e).toNat, by omega⟩
      rw [neg_neg, Int.toNat_natCast, twoTo_eq] at hwhole ⊢
      obtain ⟨q, rfl⟩ := Nat.dvd_of_mod_eq_zero hwhole
      rw [Nat.mul_div_cancel_left q (by positivity), zpow_neg, zpow_natCast]
      push_cast
      field_simp
    next => cases hk

/-- Both zeros are the whole number zero. -/
lemma toInt?_of_zero (h : parts x = .finite negative 0 e) : toInt? x = some 0 := by
  simp [toInt?, h]

lemma toList_toString_natCast (k : Nat) : (toString (k : Int)).toList = Nat.toDigits 10 k := by
  show (Nat.repr k).toList = _
  simp [Nat.repr]

lemma toList_toString_neg {k : Nat} (hk : 0 < k) :
    (toString (-(k : Int))).toList = '-' :: Nat.toDigits 10 k := by
  obtain ⟨j, rfl⟩ : ∃ j, k = j + 1 := ⟨k - 1, by omega⟩
  show ("-" ++ Nat.repr (j + 1)).toList = _
  simp [Nat.repr]

/-- The numeral of a double is its shortest decimal in the layout, without a sign. -/
lemma exists_numeral_text (h : parts x = .finite negative m e) (hm : 0 < m) :
    ∃ n : Numeral, n.WellFormed ∧ (∀ b, n.value b = ofMagnitudeBits b (magnitudeBits m e)) ∧
      (text x).toList = if negative then '-' :: n.chars else n.chars := by
  obtain ⟨hdouble, -⟩ := of_parts_eq_finite h
  obtain ⟨n, hn, hchars, hrational⟩ := exists_numeral_decimal .standard (shortest m e)
  refine ⟨n, hn, Numeral.value_of_covers hdouble hm ?_, ?_⟩
  · rw [hrational]
    exact covers_shortest hdouble hm
  · rw [text, Layout.write, h]
    simp only [if_neg hm.ne', hchars, String.toList_ofList]

/-- A double that is a whole number is written with its digits. -/
lemma exists_numeral_integer (h : parts x = .finite negative m e) {z : Int}
    (hz : toInt? x = some z) :
    ∃ n : Numeral, n.WellFormed ∧ (∀ b, n.value b = ofMagnitudeBits b (magnitudeBits m e)) ∧
      (toString z).toList = if negative ∧ 0 < m then '-' :: n.chars else n.chars := by
  obtain ⟨hdouble, -⟩ := of_parts_eq_finite h
  obtain ⟨k, rfl, hk⟩ := toInt?_of_parts h hz
  have hzero : 0 < k ↔ 0 < m := by
    have hunit : (0 : ℚ) < 2 ^ e := by positivity
    rw [← Nat.cast_pos (α := ℚ), hk, mul_pos_iff_of_pos_right hunit, Nat.cast_pos]
  refine ⟨.integral (Nat.toDigits 10 k), Numeral.wellFormed_integral Nat.toDigits_ne_nil
    fun c => isDigit_of_mem_toDigits, Numeral.value_of_rational hdouble ?_, ?_⟩
  · rw [Numeral.rational_integral, digitsValue_toDigits, hk]
  · have hchars : (Numeral.integral (Nat.toDigits 10 k)).chars = Nat.toDigits 10 k := by
      simp [Numeral.chars, Numeral.integral]
    rw [hchars]
    cases negative with
    | false => simpa using toList_toString_natCast k
    | true =>
      rcases Nat.eq_zero_or_pos k with rfl | hpos
      · simpa [← hzero] using toList_toString_natCast 0
      · simpa [← hzero, hpos] using toList_toString_neg hpos

/-- The plain text of a finite double is a numeral of the double without its sign. -/
theorem exists_numeral_plainText (h : parts x = .finite negative m e) :
    ∃ n : Numeral, n.WellFormed ∧ (∀ b, n.value b = ofMagnitudeBits b (magnitudeBits m e)) ∧
      (plainText x).toList = if negative ∧ 0 < m then '-' :: n.chars else n.chars := by
  by_cases hwhole : ∃ z, toInt? x = some z ∧ z.natAbs < tenTo 16
  · obtain ⟨z, hz, hsmall⟩ := hwhole
    rw [plainText, hz]
    simpa only [if_pos hsmall] using exists_numeral_integer h hz
  · have hm : 0 < m := by
      rw [Nat.pos_iff_ne_zero]
      rintro rfl
      exact hwhole ⟨0, toInt?_of_zero h, by decide⟩
    have htext : plainText x = text x := by
      unfold plainText
      split
      next z hz => rw [if_neg fun hsmall => hwhole ⟨z, hz, hsmall⟩]
      next => rfl
    rw [htext]
    simpa only [hm, and_true] using exists_numeral_text h hm

/-! ### Signed numerals -/

lemma readSign_chars (hn : n.WellFormed) : readSign n.chars = (false, n.chars) := by
  obtain ⟨c, cs, hchars, hc⟩ := hn.exists_cons
  have hsign : c ≠ '+' ∧ c ≠ '-' := by
    rcases hc with hc | rfl
    · have hcode := code_of_isDigit hc
      constructor <;> (rintro rfl; revert hcode; decide)
    · decide
  rw [hchars]
  unfold readSign
  split
  next h => exact absurd (List.cons.inj h).1 hsign.1
  next h => exact absurd (List.cons.inj h).1 hsign.2
  next => rfl

lemma readSign_minus (cs : List Char) : readSign ('-' :: cs) = (true, cs) := rfl

/-- The plain text of a double without a sign is read as the double. -/
theorem readSigned?_plainText (h : parts x = .finite false m e) :
    readSigned? (plainText x).toList = some x := by
  obtain ⟨n, hn, hvalue, hchars⟩ := exists_numeral_plainText h
  obtain ⟨-, hx⟩ := of_parts_eq_finite h
  rw [hchars, if_neg (by simp), readSigned?, readSign_chars hn]
  simp only [Numeral.read?_chars hn, hvalue, ← hx]

end Recalc.Number
