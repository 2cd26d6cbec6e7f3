import Mathlib
import Recalc.Number.Layout
import Recalc.Proofs.Number.Numeral
import Recalc.Proofs.Number.Shortest

/-!
# Written numbers

Every layout writes a decimal as a well-formed numeral with the value of the decimal.
-/

namespace Recalc.Number

open Recalc.Text

/-! ### The rational of a numeral -/

namespace Numeral

/-- The rational that a numeral writes. -/
def rational (n : Numeral) : ℚ :=
  digitsValue (n.whole ++ n.places) * 10 ^ (n.exponent - n.places.length)

end Numeral

lemma digitsValue_toDigits (n : Nat) : digitsValue (Nat.toDigits 10 n) = n := by
  rw [digitsValue_eq fun c hc => Nat.isDigit_of_mem_toDigits (by decide) (by decide) hc,
    Nat.ofDigitChars_ten_toDigits]

lemma isDigit_of_mem_toDigits {c : Char} {n : Nat} (h : c ∈ Nat.toDigits 10 n) : isDigit c = true :=
  isDigit_of_ascii (Nat.isDigit_of_mem_toDigits (by decide) (by decide) h)

lemma isDigit_of_mem_zeros {c : Char} {n : Nat} (h : c ∈ zeros n) : isDigit c = true := by
  rw [List.eq_of_mem_replicate h]
  decide

lemma digitsValue_append (ds more : List Char) :
    digitsValue (ds ++ more) = digitsValue ds * 10 ^ more.length + digitsValue more := by
  rw [digitsValue, List.foldl_append, ← digitsValue]
  generalize digitsValue ds = n
  induction more using List.reverseRecOn with
  | nil => simp [digitsValue]
  | append_singleton more c ih =>
    simp only [List.foldl_append, List.foldl_cons, List.foldl_nil, ih, digitsValue,
      List.length_append, List.length_singleton, pow_succ]
    ring

lemma digitsValue_zeros (n : Nat) : digitsValue (zeros n) = 0 := by
  induction n with
  | zero => rfl
  | succ n ih => exact ih

variable {ds : List Char}

namespace Numeral

/-- The numeral of digits without a point. -/
def integral (whole : List Char) : Numeral := ⟨whole, [], [], [], []⟩

/-- The numeral of digits with a point between them. -/
def fractional (whole places : List Char) : Numeral := ⟨whole, ['.'], places, [], []⟩

variable {whole places : List Char}

lemma wellFormed_integral (hne : whole ≠ []) (hwhole : ∀ c ∈ whole, isDigit c = true) :
    (integral whole).WellFormed where
  whole := hwhole
  point := .inl ⟨rfl, rfl⟩
  places _ hc := absurd hc List.not_mem_nil
  some_digit := .inl hne
  mark := .inl ⟨rfl, rfl⟩
  power _ hc := absurd hc List.not_mem_nil

lemma wellFormed_fractional (hne : whole ≠ []) (hwhole : ∀ c ∈ whole, isDigit c = true)
    (hplaces : ∀ c ∈ places, isDigit c = true) : (fractional whole places).WellFormed where
  whole := hwhole
  point := .inr rfl
  places := hplaces
  some_digit := .inl hne
  mark := .inl ⟨rfl, rfl⟩
  power _ hc := absurd hc List.not_mem_nil

lemma rational_integral : (integral whole).rational = digitsValue whole := by
  simp [rational, integral, exponent, digitsValue]

lemma rational_fractional :
    (fractional whole places).rational = digitsValue (whole ++ places) / 10 ^ places.length := by
  simp [rational, fractional, exponent, digitsValue, div_eq_mul_inv]

end Numeral

open Numeral

lemma digitsValue_append_zeros (ds : List Char) (k : Nat) :
    digitsValue (ds ++ zeros k) = digitsValue ds * 10 ^ k := by
  rw [digitsValue_append, digitsValue_zeros, add_zero, zeros, List.length_replicate]

lemma digitsValue_zeros_append (k : Nat) (ds : List Char) :
    digitsValue (zeros k ++ ds) = digitsValue ds := by
  rw [digitsValue_append, digitsValue_zeros, zero_mul, zero_add]

lemma isDigit_zero : ∀ c ∈ ['0'], isDigit c = true :=
  List.forall_mem_singleton.mpr (by decide)

/-! ### Numerals without an exponent -/

/-- A number below one has zeros before its digits. -/
lemma exists_numeral_below (hds : ∀ c ∈ ds, isDigit c = true) (k : Nat) :
    ∃ n : Numeral, n.WellFormed ∧ n.chars = '0' :: '.' :: (zeros k ++ ds) ∧
      n.rational = digitsValue ds * 10 ^ (-k - ds.length : Int) := by
  refine ⟨fractional ['0'] (zeros k ++ ds), wellFormed_fractional (by simp) isDigit_zero
    fun c hc => (List.mem_append.mp hc).elim isDigit_of_mem_zeros (hds c),
    by simp [chars, fractional], ?_⟩
  have hvalue : digitsValue (['0'] ++ (zeros k ++ ds)) = digitsValue ds := by
    rw [← List.append_assoc]
    exact digitsValue_zeros_append (k + 1) ds
  have hlength : (zeros k ++ ds).length = k + ds.length := by simp [zeros]
  rw [rational_fractional, hvalue, hlength, div_eq_mul_inv, ← zpow_natCast, ← zpow_neg]
  congr 2
  omega

/-- A whole number has zeros after its digits. -/
lemma exists_numeral_whole (l : Layout) (hne : ds ≠ []) (hds : ∀ c ∈ ds, isDigit c = true)
    (k : Nat) :
    ∃ n : Numeral, n.WellFormed ∧
      n.chars = ds ++ zeros k ++ (if l.pointZero then ['.', '0'] else []) ∧
      n.rational = digitsValue ds * 10 ^ k := by
  have hmore : ∀ c ∈ ds ++ zeros k, isDigit c = true := fun c hc =>
    (List.mem_append.mp hc).elim (hds c) isDigit_of_mem_zeros
  split
  next =>
    refine ⟨fractional (ds ++ zeros k) ['0'], wellFormed_fractional (by simp [hne]) hmore
      isDigit_zero, by simp [chars, fractional], ?_⟩
    have hvalue : digitsValue (ds ++ zeros k ++ ['0']) = digitsValue ds * 10 ^ k * 10 := by
      rw [digitsValue_append, digitsValue_append_zeros]
      rfl
    rw [rational_fractional, hvalue]
    simp
  next =>
    refine ⟨integral (ds ++ zeros k), wellFormed_integral (by simp [hne]) hmore,
      by simp [chars, integral], ?_⟩
    rw [rational_integral, digitsValue_append_zeros]
    push_cast
    rfl

lemma exists_numeral_positional (l : Layout) (hne : ds ≠ []) (hds : ∀ c ∈ ds, isDigit c = true)
    (place : Int) :
    ∃ n : Numeral, n.WellFormed ∧ n.chars = l.positional ds place ∧
      n.rational = digitsValue ds * 10 ^ (place - ds.length) := by
  unfold Layout.positional
  split
  next hplace =>
    obtain ⟨k, rfl⟩ : ∃ k : Nat, place = -k := ⟨(-place).toNat, by omega⟩
    rw [neg_neg, Int.toNat_natCast]
    exact exists_numeral_below hds k
  next hplace =>
    split
    next hinside =>
      refine ⟨fractional (ds.take place.toNat) (ds.drop place.toNat), wellFormed_fractional ?_
        (fun c hc => hds c (List.mem_of_mem_take hc)) (fun c hc => hds c (List.mem_of_mem_drop hc)),
        by simp [chars, fractional], ?_⟩
      · rw [Ne, List.take_eq_nil_iff, not_or]
        exact ⟨by omega, hne⟩
      · rw [rational_fractional, List.take_append_drop, List.length_drop, div_eq_mul_inv,
          ← zpow_natCast, ← zpow_neg]
        congr 2
        omega
    next hbeyond =>
      obtain ⟨k, hk⟩ : ∃ k : Nat, place = ds.length + k := ⟨(place - ds.length).toNat, by omega⟩
      have hzeros : place.toNat - ds.length = k := by omega
      rw [hzeros, hk, add_sub_cancel_left, zpow_natCast]
      exact exists_numeral_whole l hne hds k

/-! ### Numerals with an exponent -/

/-- What stands after a mantissa are the letter, the sign and the digits of an exponent. -/
lemma exists_exponent (l : Layout) (power : Int) :
    ∃ mark written : List Char,
      (∀ mantissa : List Char,
        mantissa ++ 'e' :: (if power < 0 then ['-'] else if l.plusSign then ['+'] else []) ++
          zeros (l.exponentWidth - (Nat.toDigits 10 power.natAbs).length) ++
            Nat.toDigits 10 power.natAbs = mantissa ++ mark ++ written) ∧
      IsMark mark ∧ written ≠ [] ∧ (∀ c ∈ written, isDigit c = true) ∧
      (if '-' ∈ mark then -(digitsValue written : Int) else digitsValue written) = power := by
  refine ⟨_, _, fun mantissa => List.append_assoc _ _ _, ?_, by simp, ?_, ?_⟩
  · split
    · exact ⟨'e', .inl rfl, .inr (.inr rfl)⟩
    · split
      · exact ⟨'e', .inl rfl, .inr (.inl rfl)⟩
      · exact ⟨'e', .inl rfl, .inl rfl⟩
  · exact fun c hc => (List.mem_append.mp hc).elim isDigit_of_mem_zeros isDigit_of_mem_toDigits
  · have hminus : '-' ∈ 'e' :: (if power < 0 then ['-'] else if l.plusSign then ['+'] else []) ↔
        power < 0 := by
      split
      next h => simp [h]
      next h => split <;> simp [h]
    rw [digitsValue_zeros_append, digitsValue_toDigits]
    simp only [hminus]
    split <;> omega

lemma exists_numeral_scientific (l : Layout) (hne : ds ≠ []) (hds : ∀ c ∈ ds, isDigit c = true)
    (power : Int) :
    ∃ n : Numeral, n.WellFormed ∧ n.chars = l.scientific ds power ∧
      n.rational = digitsValue ds * 10 ^ (power + 1 - ds.length) := by
  obtain ⟨mark, written, hwritten, hmark, hpowerNe, hpower, hexponent⟩ := exists_exponent l power
  obtain ⟨d, rest, rfl⟩ := List.exists_cons_of_ne_nil hne
  have hd : ∀ c ∈ [d], isDigit c = true := by simpa using hds d List.mem_cons_self
  cases rest with
  | nil =>
    refine ⟨⟨[d], [], [], mark, written⟩, ⟨hd, .inl ⟨rfl, rfl⟩, by simp, .inl (by simp),
      .inr ⟨hmark, hpowerNe⟩, hpower⟩, ?_, ?_⟩
    · refine Eq.trans ?_ (hwritten [d]).symm
      simp [chars]
    · simp only [rational, exponent, hexponent]
      simp
  | cons p rest =>
    refine ⟨⟨[d], ['.'], p :: rest, mark, written⟩, ⟨hd, .inr rfl, fun c hc =>
      hds c (List.mem_cons_of_mem d hc), .inl (by simp), .inr ⟨hmark, hpowerNe⟩, hpower⟩, ?_, ?_⟩
    · refine Eq.trans ?_ (hwritten (d :: '.' :: p :: rest)).symm
      simp [chars]
    · simp only [rational, exponent, hexponent, List.singleton_append, List.length_cons]
      congr 2
      push_cast
      omega

theorem exists_numeral_decimal (l : Layout) (d : Decimal) :
    ∃ n : Numeral, n.WellFormed ∧ n.chars = l.decimal d ∧
      n.rational = d.digits * 10 ^ d.exponent := by
  have hne : Nat.toDigits 10 d.digits ≠ [] := Nat.toDigits_ne_nil
  have hds : ∀ c ∈ Nat.toDigits 10 d.digits, isDigit c = true := fun c => isDigit_of_mem_toDigits
  rw [Layout.decimal]
  split
  next =>
    obtain ⟨n, hn, hchars, hvalue⟩ := exists_numeral_positional l hne hds
      ((Nat.toDigits 10 d.digits).length + d.exponent)
    refine ⟨n, hn, hchars, ?_⟩
    rw [hvalue, digitsValue_toDigits, add_sub_cancel_left]
  next =>
    obtain ⟨n, hn, hchars, hvalue⟩ := exists_numeral_scientific l hne hds
      ((Nat.toDigits 10 d.digits).length + d.exponent - 1)
    refine ⟨n, hn, hchars, ?_⟩
    rw [hvalue, digitsValue_toDigits, sub_add_cancel, add_sub_cancel_left]

end Recalc.Number
