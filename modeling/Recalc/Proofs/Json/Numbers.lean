import Recalc.Json.Writer
import Recalc.Proofs.Number.Strict

/-!
# JSON numbers read back

An integer is written with its digits and read as the integer, as long as it is not too long. A
finite double is written as a strict numeral, and what is read has the same bits.
-/

namespace Recalc.Json

open Recalc.Number Recalc.Number.Numeral Recalc.Text

variable {n : Numeral} {ds cs rest tail : List Char} {x : Float} {negative : Bool} {m : Nat}
  {e : Int}

/-! ### The parts of a numeral -/

/-- Digits are read up to what is no digit. -/
lemma takeWhile_digits (hds : ∀ c ∈ ds, c.isDigit = true)
    (htail : ∀ c ∈ tail.head?, c.isDigit = false) :
    (ds ++ tail).takeWhile isAsciiDigit = ds ∧ (ds ++ tail).dropWhile isAsciiDigit = tail := by
  have hds' : ∀ c ∈ ds, isAsciiDigit c = true := hds
  have htail' : tail.takeWhile isAsciiDigit = [] ∧ tail.dropWhile isAsciiDigit = tail := by
    cases tail with
    | nil => exact ⟨rfl, rfl⟩
    | cons c tail =>
      have hc : isAsciiDigit c = false := htail c rfl
      simp [hc]
  rw [List.takeWhile_append_of_pos hds', List.dropWhile_append_of_pos hds', htail'.1, htail'.2,
    List.append_nil]
  exact ⟨rfl, rfl⟩

lemma head_of_endsAt (h : EndsAt rest) : ∀ c ∈ rest.head?, c.isDigit = false := by
  intro c hc
  cases hdigit : c.isDigit with
  | false => rfl
  | true =>
    have hno := (h c hc).1
    rw [isDigit_of_ascii hdigit] at hno
    cases hno

lemma head_of_isMark {mark : List Char} (h : IsMark mark) (rest : List Char) :
    ∀ c ∈ (mark ++ rest).head?, c.isDigit = false ∧ c ≠ '.' := by
  obtain ⟨e, rfl | rfl, rfl | rfl | rfl⟩ := h <;> simp

/-- What follows the places of a strict numeral goes on with neither digits nor a point. -/
lemma head_of_strict (hn : n.Strict) (hrest : EndsAt rest) :
    ∀ c ∈ (n.mark ++ (n.power ++ rest)).head?, c.isDigit = false ∧ c ≠ '.' := by
  rcases hn.mark with ⟨hmark, hpower⟩ | ⟨hmark, -⟩
  · rw [hmark, hpower]
    exact fun c hc => ⟨head_of_endsAt hrest c hc, (hrest c hc).2.1⟩
  · exact head_of_isMark hmark _

lemma readPower_strict (hn : n.Strict) (hrest : EndsAt rest) :
    readPower (n.mark ++ (n.power ++ rest)) =
      (if n.mark = [] then none else some n.exponent, rest) := by
  rcases hn.mark with ⟨hmark, hpower⟩ | ⟨⟨e, he, hmark⟩, hne⟩
  · rw [hmark, hpower, if_pos rfl]
    cases rest with
    | nil => rfl
    | cons c rest =>
      have hc := (hrest c rfl).2.2
      simp [readPower, hc.1, hc.2]
  · obtain ⟨htake, hdrop⟩ := takeWhile_digits hn.power (head_of_endsAt hrest)
    obtain ⟨p, power, hcons⟩ := List.exists_cons_of_ne_nil hne
    have hp : p ≠ '+' ∧ p ≠ '-' := by
      have hdigit := hn.power p (by rw [hcons]; exact List.mem_cons_self)
      constructor <;> (rintro rfl; cases hdigit)
    rw [hcons, List.cons_append] at htake hdrop
    rcases he with rfl | rfl <;> rcases hmark with h | h | h <;>
      simp [h, readPower, exponent, hcons, htake, hdrop, hp, readSign]

lemma readFraction_strict (hn : n.Strict) (htail : ∀ c ∈ tail.head?, c.isDigit = false ∧ c ≠ '.') :
    readFraction (n.point ++ (n.places ++ tail)) = (n.places, tail) := by
  rcases hn.point with ⟨hpoint, hplaces⟩ | ⟨hpoint, hne⟩
  · rw [hpoint, hplaces]
    cases tail with
    | nil => rfl
    | cons c tail => simp [readFraction, (htail c rfl).2]
  · obtain ⟨htake, hdrop⟩ := takeWhile_digits hn.places fun c hc => (htail c hc).1
    obtain ⟨p, places, hcons⟩ := List.exists_cons_of_ne_nil hne
    rw [hcons, List.cons_append] at htake hdrop
    simp [hpoint, readFraction, hcons, htake, hdrop]

lemma readWhole_plain (hwhole : Plain ds) (htail : ∀ c ∈ tail.head?, c.isDigit = false) :
    readWhole (ds ++ tail) = (ds, tail) := by
  obtain ⟨hdigits, rfl | ⟨d, rest, rfl, hd⟩⟩ := hwhole
  · rfl
  · obtain ⟨htake, hdrop⟩ := takeWhile_digits hdigits htail
    rw [List.cons_append] at htake hdrop
    simp [readWhole, hd, htake, hdrop]

lemma isEmpty_of_plain (h : Plain ds) : ds.isEmpty = false := by
  obtain ⟨-, rfl | ⟨d, rest, rfl, -⟩⟩ := h <;> rfl

/-! ### Numbers without a sign -/

/-- A strict numeral is read as the double nearest to it. -/
lemma readNumber_strict (hn : n.Strict) (hrest : EndsAt rest) :
    readNumber negative (n.chars ++ rest) = some (.value (.real (n.value negative)), rest) := by
  have hchars : n.chars ++ rest =
      n.whole ++ (n.point ++ (n.places ++ (n.mark ++ (n.power ++ rest)))) := by
    simp [chars]
  have hhead := head_of_strict hn hrest
  have hfraction := readFraction_strict hn hhead
  have htail : ∀ c ∈ (n.point ++ (n.places ++ (n.mark ++ (n.power ++ rest)))).head?,
      c.isDigit = false := by
    rcases hn.point with ⟨hpoint, hplaces⟩ | ⟨hpoint, -⟩
    · rw [hpoint, hplaces]
      exact fun c hc => (hhead c hc).1
    · rw [hpoint]
      rintro c ⟨⟩
      rfl
  -- A strict numeral has places or an exponent, so that it is no integer.
  have hreal : (n.places.isEmpty && (if n.mark = [] then none else some n.exponent).isNone) =
      false := by
    rcases hn.not_integer with hpoint | hmark
    · rcases hn.point with ⟨hnone, -⟩ | ⟨-, hne⟩
      · rw [hnone] at hpoint
        cases hpoint
      · simp [hne]
    · simp [hmark]
  have hexponent : (if n.mark = [] then none else some n.exponent).getD 0 = n.exponent := by
    split
    next hmark =>
      rcases hn.mark with ⟨-, hpower⟩ | ⟨⟨e, -, hmark'⟩, -⟩
      · simp [exponent, hmark, hpower, digitsValue]
      · rcases hmark' with h | h | h <;> simp [h] at hmark
    next => rfl
  rw [hchars, readNumber, readWhole_plain hn.whole htail]
  simp only [isEmpty_of_plain hn.whole, hfraction, readPower_strict hn hrest, hreal, hexponent,
    Bool.false_eq_true, if_false, value]

/-- The digits of a natural number are read as an integer. -/
lemma readNumber_toDigits {k : Nat} (hlength : (Nat.toDigits 10 k).length ≤ integerDigitLimit)
    (hrest : EndsAt rest) :
    readNumber negative (Nat.toDigits 10 k ++ rest) =
      some (.value (.integer (if negative then -(k : Int) else k)), rest) := by
  have hplain := plain_toDigits k
  have hfraction : readFraction rest = ([], rest) := by
    cases rest with
    | nil => rfl
    | cons c rest => simp [readFraction, (hrest c rfl).2.1]
  have hpower : readPower rest = (none, rest) := by
    cases rest with
    | nil => rfl
    | cons c rest => simp [readPower, (hrest c rfl).2.2]
  rw [readNumber, readWhole_plain hplain (head_of_endsAt hrest)]
  simp only [isEmpty_of_plain hplain, hfraction, hpower, digitsValue_toDigits, List.isEmpty_nil,
    Option.isNone_none, Bool.and_self, Bool.false_eq_true, if_true, if_false,
    if_neg (Nat.not_lt.mpr hlength)]

/-! ### Numbers as tokens -/

/-- What begins with a digit is no word and no mark. -/
lemma readToken_digit {d : Char} (hd : d.isDigit = true) (cs : List Char) :
    readToken (d :: cs) = readNumber false (d :: cs) ∧
      readToken ('-' :: d :: cs) = readNumber true (d :: cs) := by
  have hne (c : Char) (hc : c.isDigit = false) : d ≠ c := by
    rintro rfl
    rw [hd] at hc
    cases hc
  have hbeq (c : Char) (hc : c.isDigit = false) : (c == d) = false :=
    beq_false_of_ne (hne c hc).symm
  constructor
  · simp [readToken, marks, words, List.isPrefixOf, hne, hbeq]
  · simp [readToken, marks, words, List.isPrefixOf, hbeq]

lemma integerFault?_eq_none_iff {z : Int} :
    integerFault? z = none ↔ (Nat.toDigits 10 z.natAbs).length ≤ integerDigitLimit := by
  have hlength : (toString z.natAbs).length = (Nat.toDigits 10 z.natAbs).length := by
    rw [← String.length_toList, Nat.toString_eq_ofList_toDigits, String.toList_ofList]
  rw [integerFault?, hlength]
  split
  next h => simp [h]
  next h => simpa using h

/-- An integer is read from its digits. -/
theorem readToken_integer {z : Int} (hz : integerFault? z = none) (hrest : EndsAt rest) :
    readToken ((toString z).toList ++ rest) = some (.value (.integer z), rest) := by
  have hlength := integerFault?_eq_none_iff.mp hz
  obtain ⟨d, ds, hcons⟩ := List.exists_cons_of_ne_nil
    (Nat.toDigits_ne_nil (n := z.natAbs) (b := 10))
  have hd : d.isDigit = true := ascii_of_mem_toDigits (by rw [hcons]; exact List.mem_cons_self)
  have hdigit := readToken_digit hd (ds ++ rest)
  rw [← List.cons_append, ← hcons] at hdigit
  rcases Int.eq_nat_or_neg z with ⟨k, rfl | rfl⟩
  · rw [toList_toString_natCast]
    rw [Int.natAbs_natCast] at hdigit hlength
    rw [hdigit.1, readNumber_toDigits hlength hrest]
    rfl
  · rw [Int.natAbs_neg, Int.natAbs_natCast] at hdigit hlength
    rcases Nat.eq_zero_or_pos k with rfl | hk
    · change readToken ((toString ((0 : Nat) : Int)).toList ++ rest) = _
      rw [toList_toString_natCast, hdigit.1, readNumber_toDigits hlength hrest]
      rfl
    · rw [toList_toString_neg hk, List.cons_append, hdigit.2, readNumber_toDigits hlength hrest]
      rfl

/-- A finite double is read from its shortest digits, with the sign of zero. -/
theorem readToken_real (hx : isFinite x = true) (hrest : EndsAt rest) :
    readToken ((numberLayout.write x).toList ++ rest) = some (.value (.real x), rest) := by
  obtain ⟨negative, m, e, hparts⟩ := isFinite_iff.mp hx
  obtain ⟨-, hx⟩ := of_parts_eq_finite hparts
  obtain ⟨n, hn, hvalue, hchars⟩ := exists_strict_write numberLayout rfl hparts
  obtain ⟨d, cs, hcons, hd⟩ : ∃ d cs, n.chars = d :: cs ∧ d.isDigit = true := by
    rcases hn.whole with ⟨hdigits, hzero | ⟨d, ds, hwhole, -⟩⟩
    · exact ⟨'0', _, by rw [chars, hzero]; rfl, rfl⟩
    · have hmem : d ∈ n.whole := hwhole ▸ List.mem_cons_self
      exact ⟨d, _, by rw [chars, hwhole]; rfl, hdigits d hmem⟩
  have hdigit := readToken_digit hd (cs ++ rest)
  rw [← List.cons_append, ← hcons] at hdigit
  rw [hchars]
  cases negative with
  | false => rw [if_neg (by decide), hdigit.1, readNumber_strict hn hrest, hvalue, ← hx]
  | true =>
    rw [if_pos rfl, List.cons_append, hdigit.2, readNumber_strict hn hrest, hvalue, ← hx]

end Recalc.Json
