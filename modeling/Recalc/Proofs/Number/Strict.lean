import Recalc.Proofs.Number.PlainText

/-!
# Strict numerals

Data formats ask for more than numbers in formulas do: a numeral has digits before the point and
after it, and no superfluous zero at its beginning. Every layout with a point writes a positive
double in this form, so that it cannot be taken for an integer.
-/

namespace Recalc.Number

open Recalc.Text

/-! ### Strict numerals -/

/-- Digits without a superfluous zero at their beginning. -/
def Plain (ds : List Char) : Prop :=
  (∀ c ∈ ds, c.isDigit = true) ∧ (ds = ['0'] ∨ ∃ d rest, ds = d :: rest ∧ d ≠ '0')

/-- A numeral in the strict form: ASCII digits without a superfluous zero, digits after the point if
there is one, and a point or an exponent. -/
structure Numeral.Strict (n : Numeral) : Prop where
  whole : Plain n.whole
  point : n.point = [] ∧ n.places = [] ∨ n.point = ['.'] ∧ n.places ≠ []
  places : ∀ c ∈ n.places, c.isDigit = true
  mark : n.mark = [] ∧ n.power = [] ∨ IsMark n.mark ∧ n.power ≠ []
  power : ∀ c ∈ n.power, c.isDigit = true
  not_integer : n.point = ['.'] ∨ n.mark ≠ []

variable {n : Numeral} {ds whole places mark power : List Char} {m k : Nat} {e : Int} {x : Float}
  {negative : Bool}

lemma Numeral.Strict.wellFormed (hn : n.Strict) : n.WellFormed where
  whole c hc := isDigit_of_ascii (hn.whole.1 c hc)
  point := hn.point.imp_right And.left
  places c hc := isDigit_of_ascii (hn.places c hc)
  some_digit := by
    rcases hn.whole.2 with hzero | ⟨d, rest, hcons, -⟩
    · exact .inl (by simp [hzero])
    · exact .inl (by simp [hcons])
  mark := hn.mark
  power c hc := isDigit_of_ascii (hn.power c hc)

lemma Plain.append (h : Plain ds) (hne : ds ≠ ['0']) {more : List Char}
    (hmore : ∀ c ∈ more, c.isDigit = true) : Plain (ds ++ more) := by
  obtain ⟨hdigits, hzero | ⟨d, rest, rfl, hd⟩⟩ := h
  · exact absurd hzero hne
  · exact ⟨fun c hc => (List.mem_append.mp hc).elim (hdigits c) (hmore c), .inr ⟨d, _, rfl, hd⟩⟩

lemma Plain.take (h : Plain ds) (hne : ds ≠ ['0']) (hk : 0 < k) : Plain (ds.take k) := by
  obtain ⟨hdigits, hzero | ⟨d, rest, rfl, hd⟩⟩ := h
  · exact absurd hzero hne
  · obtain ⟨j, rfl⟩ : ∃ j, k = j + 1 := ⟨k - 1, by omega⟩
    exact ⟨fun c hc => hdigits c (List.mem_of_mem_take hc), .inr ⟨d, rest.take j, rfl, hd⟩⟩

lemma plain_singleton {c : Char} (hc : c.isDigit = true) : Plain [c] := by
  refine ⟨List.forall_mem_singleton.mpr hc, ?_⟩
  by_cases hzero : c = '0'
  · exact .inl (by rw [hzero])
  · exact .inr ⟨c, [], rfl, hzero⟩

lemma plain_zero : Plain ['0'] :=
  plain_singleton rfl

lemma ascii_of_mem_zeros {c : Char} (h : c ∈ zeros k) : c.isDigit = true := by
  rw [List.eq_of_mem_replicate h]
  rfl

lemma ascii_of_mem_toDigits {c : Char} (h : c ∈ Nat.toDigits 10 k) : c.isDigit = true :=
  Nat.isDigit_of_mem_toDigits (by decide) (by decide) h

lemma digitChar_ne_zero (hlow : 0 < k) (hhigh : k < 10) : Nat.digitChar k ≠ '0' := by
  interval_cases k <;> decide

/-- The digits of a natural number are plain. -/
lemma plain_toDigits (k : Nat) : Plain (Nat.toDigits 10 k) := by
  refine ⟨fun c => ascii_of_mem_toDigits, ?_⟩
  induction k using Nat.strongRecOn with
  | ind k ih =>
    rcases Nat.eq_zero_or_pos k with rfl | hpos
    · exact .inl (Nat.toDigits_zero 10)
    · refine .inr ?_
      rcases Nat.lt_or_ge k 10 with hlt | hge
      · exact ⟨_, [], Nat.toDigits_of_lt_base hlt, digitChar_ne_zero hpos hlt⟩
      · rw [Nat.toDigits_of_base_le (by decide) hge]
        rcases ih (k / 10) (by omega) with hzero | ⟨d, rest, hcons, hd⟩
        · have hvalue := digitsValue_toDigits (k / 10)
          rw [hzero] at hvalue
          have hdiv : k / 10 = 0 := hvalue.symm
          omega
        · exact ⟨d, _, by rw [hcons]; rfl, hd⟩

lemma toDigits_ne_zero (h : 0 < k) : Nat.toDigits 10 k ≠ ['0'] := by
  intro hzero
  have hvalue := digitsValue_toDigits k
  rw [hzero] at hvalue
  have hk : 0 = k := hvalue
  omega

/-! ### The numerals of a layout -/

lemma Numeral.Strict.of_fractional (hwhole : Plain whole) (hne : places ≠ [])
    (hplaces : ∀ c ∈ places, c.isDigit = true) : (fractional whole places).Strict where
  whole := hwhole
  point := .inr ⟨rfl, hne⟩
  places := hplaces
  mark := .inl ⟨rfl, rfl⟩
  power _ hc := absurd hc List.not_mem_nil
  not_integer := .inl rfl

lemma exists_strict_positional (l : Layout) (hpoint : l.pointZero = true) (hds : Plain ds)
    (hne : ds ≠ ['0']) (place : Int) :
    ∃ n : Numeral, n.Strict ∧ n.chars = l.positional ds place := by
  have hnil : ds ≠ [] := by
    rcases hds.2 with rfl | ⟨d, rest, rfl, -⟩ <;> simp
  unfold Layout.positional
  split
  next =>
    refine ⟨.fractional ['0'] (zeros (-place).toNat ++ ds), .of_fractional plain_zero
      (by simp [hnil]) fun c hc => (List.mem_append.mp hc).elim ascii_of_mem_zeros (hds.1 c), ?_⟩
    simp [Numeral.chars, Numeral.fractional]
  next hplace =>
    split
    next hinside =>
      refine ⟨.fractional (ds.take place.toNat) (ds.drop place.toNat), .of_fractional
        (hds.take hne (by omega)) ?_ fun c hc => hds.1 c (List.mem_of_mem_drop hc), ?_⟩
      · rw [Ne, List.drop_eq_nil_iff]
        omega
      · simp [Numeral.chars, Numeral.fractional]
    next =>
      refine ⟨.fractional (ds ++ zeros (place.toNat - ds.length)) ['0'], .of_fractional
        (hds.append hne fun c => ascii_of_mem_zeros) (by simp) plain_zero.1, ?_⟩
      simp [Numeral.chars, Numeral.fractional]

lemma exists_strict_scientific (l : Layout) (hnil : ds ≠ [])
    (hds : ∀ c ∈ ds, c.isDigit = true) (power : Int) :
    ∃ n : Numeral, n.Strict ∧ n.chars = l.scientific ds power := by
  have hpower : ∀ c ∈ zeros (l.exponentWidth - (Nat.toDigits 10 power.natAbs).length) ++
      Nat.toDigits 10 power.natAbs, c.isDigit = true := fun c hc =>
    (List.mem_append.mp hc).elim ascii_of_mem_zeros ascii_of_mem_toDigits
  have hmark : Numeral.IsMark
      ('e' :: if power < 0 then ['-'] else if l.plusSign then ['+'] else []) := by
    refine ⟨'e', .inl rfl, ?_⟩
    split
    · exact .inr (.inr rfl)
    · split
      · exact .inr (.inl rfl)
      · exact .inl rfl
  obtain ⟨d, rest, rfl⟩ := List.exists_cons_of_ne_nil hnil
  obtain ⟨hd, hrest⟩ := List.forall_mem_cons.mp hds
  unfold Layout.scientific
  cases rest with
  | nil =>
    exact ⟨⟨[d], [], [], _, _⟩, ⟨plain_singleton hd, .inl ⟨rfl, rfl⟩, by simp,
      .inr ⟨hmark, by simp⟩, hpower, .inr (by simp)⟩, by simp [Numeral.chars]⟩
  | cons p rest =>
    exact ⟨⟨[d], ['.'], p :: rest, _, _⟩, ⟨plain_singleton hd, .inr ⟨rfl, by simp⟩, hrest,
      .inr ⟨hmark, by simp⟩, hpower, .inl rfl⟩, by simp [Numeral.chars]⟩

lemma exists_strict_decimal (l : Layout) (hpoint : l.pointZero = true) {d : Decimal}
    (hd : 0 < d.digits) : ∃ n : Numeral, n.Strict ∧ n.chars = l.decimal d := by
  have hplain := plain_toDigits d.digits
  rw [Layout.decimal]
  split
  · exact exists_strict_positional l hpoint hplain (toDigits_ne_zero hd) _
  · exact exists_strict_scientific l Nat.toDigits_ne_nil hplain.1 _

/-- The shortest decimal of a positive double is positive. -/
lemma digits_shortest_pos (hdouble : IsDouble m e) (hm : 0 < m) : 0 < (shortest m e).digits := by
  rw [Nat.pos_iff_ne_zero]
  intro hzero
  have hcovers := covers_shortest hdouble hm
  have hlow : 0 < (Interval.ofDouble m e).low := by
    simp only [Interval.ofDouble]
    split <;> omega
  have hunit := Interval.unit_ofDouble m e
  have hpos : (0 : ℚ) < (Interval.ofDouble m e).low *
      ((Interval.ofDouble m e).num / (Interval.ofDouble m e).den) := by
    rw [hunit]
    positivity
  rw [hzero, Nat.cast_zero, zero_mul] at hcovers
  unfold Interval.Covers at hcovers
  split at hcovers <;> linarith [hcovers.1]

/-- A finite double is written as a strict numeral that has its value without the sign. -/
theorem exists_strict_write (l : Layout) (hpoint : l.pointZero = true)
    (h : parts x = .finite negative m e) :
    ∃ n : Numeral, n.Strict ∧ (∀ b, n.value b = ofMagnitudeBits b (magnitudeBits m e)) ∧
      (l.write x).toList = if negative then '-' :: n.chars else n.chars := by
  obtain ⟨hdouble, -⟩ := of_parts_eq_finite h
  rcases Nat.eq_zero_or_pos m with rfl | hm
  · refine ⟨.fractional ['0'] ['0'], .of_fractional plain_zero (by simp) plain_zero.1,
      Numeral.value_of_rational hdouble ?_, ?_⟩
    · rw [Numeral.rational_fractional]
      simp [digitsValue, digitValue?]
    · rw [Layout.write, h]
      simp [Layout.positional, hpoint, zeros, Numeral.chars, Numeral.fractional]
  · obtain ⟨n, hn, hchars⟩ := exists_strict_decimal l hpoint (digits_shortest_pos hdouble hm)
    obtain ⟨n', hn', hchars', hrational⟩ := exists_numeral_decimal l (shortest m e)
    obtain rfl := Numeral.chars_injective hn.wellFormed hn' (hchars.trans hchars'.symm)
    refine ⟨n, hn, Numeral.value_of_covers hdouble hm ?_, ?_⟩
    · rw [hrational]
      exact covers_shortest hdouble hm
    · rw [Layout.write, h]
      simp only [if_neg hm.ne', hchars, String.toList_ofList]

end Recalc.Number
