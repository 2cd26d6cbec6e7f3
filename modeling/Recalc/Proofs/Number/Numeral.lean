import Mathlib
import Recalc.Number.Numeral

/-!
# How numerals are written

A numeral is well formed when its parts are digits around a point and before an exponent. What is
read at the start of a text is well formed, and a well-formed numeral that stands there is read to
its end, unless what follows goes on with it.
-/

namespace Recalc.Number

open Recalc.Text

/-! ### Digits -/

lemma digitValue?_of_isDigit {c : Char} (h : c.isDigit = true) :
    digitValue? c = some (c.toNat - 48) := by
  simp only [Char.isDigit, Bool.and_eq_true, decide_eq_true_eq] at h
  have hlow : '0' ≤ c := h.1
  have hhigh : c ≤ '9' := h.2
  have hascii : c.toNat < 0x80 := lt_of_le_of_lt (show c.toNat ≤ 57 from h.2) (by decide)
  rw [digitValue?, if_pos hascii, if_pos ⟨hlow, hhigh⟩]

lemma isDigit_of_ascii {c : Char} (h : c.isDigit = true) : isDigit c = true := by
  rw [isDigit, digitValue?_of_isDigit h]
  rfl

/-- The digits are those of ASCII and characters beyond ASCII. -/
lemma code_of_isDigit {c : Char} (h : isDigit c = true) :
    0x30 ≤ c.toNat ∧ (c.toNat ≤ 0x39 ∨ 0x80 ≤ c.toNat) := by
  by_cases hascii : c.toNat < 0x80
  · have hdigit : '0' ≤ c ∧ c ≤ '9' := by
      by_contra hnone
      rw [isDigit, digitValue?, if_pos hascii, if_neg hnone] at h
      cases h
    exact ⟨hdigit.1, .inl hdigit.2⟩
  · exact ⟨by omega, .inr (by omega)⟩

/-- No script has a blank among its digits. -/
lemma isBlank_of_isDigit {c : Char} (h : isDigit c = true) : isBlank c = false := by
  have hdigits : ∀ z ∈ digitZeros, ∀ i < 10, isBlank (Char.ofNat (z + i)) = false := by
    decide +kernel
  obtain ⟨hlow, hhigh⟩ := code_of_isDigit h
  obtain ⟨z, hz, i, hi, hcode⟩ : ∃ z ∈ digitZeros, ∃ i < 10, c.toNat = z + i := by
    by_cases hascii : c.toNat < 0x80
    · exact ⟨0x30, by decide, c.toNat - 0x30, by omega, by omega⟩
    · rw [isDigit, digitValue?, if_neg hascii, Option.isSome_map, List.find?_isSome] at h
      obtain ⟨z, hz, hrange⟩ := h
      simp only [decide_eq_true_eq] at hrange
      exact ⟨z, hz, c.toNat - z, by omega, by omega⟩
  have hblank := hdigits z hz i hi
  rwa [← hcode, Char.ofNat_toNat] at hblank

lemma digitsValue_eq {ds : List Char} (h : ∀ c ∈ ds, c.isDigit = true) :
    digitsValue ds = Nat.ofDigitChars 10 ds 0 := by
  rw [digitsValue, Nat.ofDigitChars]
  apply List.foldl_ext
  intro n c hc
  rw [digitValue?_of_isDigit (h c hc)]
  rfl

namespace Numeral

/-- The letter of an exponent, perhaps with a sign. -/
def IsMark (cs : List Char) : Prop :=
  ∃ e, (e = 'e' ∨ e = 'E') ∧ (cs = [e] ∨ cs = [e, '+'] ∨ cs = [e, '-'])

/-- A numeral as it may be written: digits before or after the point, and an exponent that has
digits. -/
structure WellFormed (n : Numeral) : Prop where
  whole : ∀ c ∈ n.whole, isDigit c = true
  point : n.point = [] ∧ n.places = [] ∨ n.point = ['.']
  places : ∀ c ∈ n.places, isDigit c = true
  some_digit : n.whole ≠ [] ∨ n.places ≠ []
  mark : n.mark = [] ∧ n.power = [] ∨ IsMark n.mark ∧ n.power ≠ []
  power : ∀ c ∈ n.power, isDigit c = true

/-- No character at the beginning of the text goes on with a numeral. -/
def EndsAt (rest : List Char) : Prop :=
  ∀ c ∈ rest.head?, isDigit c = false ∧ c ≠ '.' ∧ c ≠ 'e' ∧ c ≠ 'E'

variable {cs rest : List Char} {n : Numeral}

/-! ### The parts of a numeral -/

lemma readPlaces_cases (cs : List Char) :
    readPlaces cs = ([], [], cs) ∨
      ∃ rest, cs = '.' :: rest ∧
        readPlaces cs = (['.'], rest.takeWhile isDigit, rest.dropWhile isDigit) := by
  by_cases hpoint : ∃ rest, cs = '.' :: rest
  · obtain ⟨rest, rfl⟩ := hpoint
    exact .inr ⟨rest, rfl, rfl⟩
  · have hread : readPoint cs = ([], cs) := by
      unfold readPoint
      split
      next rest => exact absurd ⟨rest, rfl⟩ hpoint
      next => rfl
    simp [readPlaces, hread]

lemma readMark_cases (cs : List Char) :
    readMark cs = ([], cs) ∨ ∃ mark rest, IsMark mark ∧ cs = mark ++ rest ∧
      readMark cs = (mark, rest) := by
  unfold readMark
  split
  next => exact .inl rfl
  next e rest =>
    split
    next he =>
      split
      next sign after =>
        split
        next hsign =>
          refine .inr ⟨[e, sign], after, ⟨e, he, ?_⟩, rfl, rfl⟩
          rcases hsign with rfl | rfl
          · exact .inr (.inl rfl)
          · exact .inr (.inr rfl)
        next => exact .inr ⟨[e], _, ⟨e, he, .inl rfl⟩, rfl, rfl⟩
      next => exact .inr ⟨[e], _, ⟨e, he, .inl rfl⟩, rfl, rfl⟩
    next => exact .inl rfl

lemma readExponent_cases (cs : List Char) :
    readExponent cs = ([], [], cs) ∨ ∃ mark rest, IsMark mark ∧ cs = mark ++ rest ∧
      rest.takeWhile isDigit ≠ [] ∧
        readExponent cs = (mark, rest.takeWhile isDigit, rest.dropWhile isDigit) := by
  unfold readExponent
  rcases readMark_cases cs with hmark | ⟨mark, rest, hmark, rfl, hread⟩
  · simp [hmark]
  · simp only [hread]
    split
    next => exact .inl rfl
    next hne => exact .inr ⟨mark, rest, hmark, rfl, fun h => hne (.inr h), rfl⟩

/-- What is read as a numeral is one. -/
theorem wellFormed_of_read? (h : read? cs = some (n, rest)) : n.WellFormed := by
  have hdigits {c : Char} {cs : List Char} (hc : c ∈ cs.takeWhile isDigit) : isDigit c = true :=
    List.mem_takeWhile_imp hc
  simp only [read?] at h
  split at h
  next => cases h
  next hsome =>
    simp only [Option.some.injEq, Prod.mk.injEq] at h
    obtain ⟨rfl, -⟩ := h
    refine ⟨fun c => hdigits, ?_, ?_, by rwa [not_and_or] at hsome, ?_, ?_⟩
    · rcases readPlaces_cases (cs.dropWhile isDigit) with hread | ⟨rest, -, hread⟩ <;> simp [hread]
    · rcases readPlaces_cases (cs.dropWhile isDigit) with hread | ⟨rest, -, hread⟩ <;> rw [hread]
      · exact fun c hc => absurd hc List.not_mem_nil
      · exact fun c => hdigits
    · generalize (readPlaces (cs.dropWhile isDigit)).2.2 = tail
      rcases readExponent_cases tail with hread | ⟨mark, rest, hmark, -, hpower, hread⟩ <;>
        rw [hread]
      · exact .inl ⟨rfl, rfl⟩
      · exact .inr ⟨hmark, hpower⟩
    · generalize (readPlaces (cs.dropWhile isDigit)).2.2 = tail
      rcases readExponent_cases tail with hread | ⟨mark, rest, -, -, -, hread⟩ <;> rw [hread]
      · exact fun c hc => absurd hc List.not_mem_nil
      · exact fun c => hdigits

/-! ### The characters of a numeral -/

/-- A numeral begins with a digit or the point. -/
lemma WellFormed.exists_cons (hn : n.WellFormed) :
    ∃ c cs, n.chars = c :: cs ∧ (isDigit c = true ∨ c = '.') := by
  obtain ⟨whole, point, places, mark, power⟩ := n
  obtain ⟨hwhole, hpoint, -, hsome, -, -⟩ := hn
  dsimp only at hwhole hpoint hsome
  cases whole with
  | cons c whole => exact ⟨c, _, rfl, .inl (hwhole c List.mem_cons_self)⟩
  | nil =>
    rcases hpoint with ⟨-, rfl⟩ | rfl
    · simp at hsome
    · exact ⟨'.', _, rfl, .inr rfl⟩

lemma WellFormed.of_mem_chars (hn : n.WellFormed) {c : Char} (hc : c ∈ n.chars) :
    isDigit c = true ∨ c ∈ ['.', 'e', 'E', '+', '-'] := by
  simp only [chars, List.mem_append] at hc
  rcases hc with (((hc | hc) | hc) | hc) | hc
  · exact .inl (hn.whole c hc)
  · rcases hn.point with ⟨hnone, -⟩ | hpoint
    · rw [hnone] at hc
      cases hc
    · rw [hpoint, List.mem_singleton] at hc
      simp [hc]
  · exact .inl (hn.places c hc)
  · rcases hn.mark with ⟨hnone, -⟩ | ⟨⟨e, he, hmark⟩, -⟩
    · rw [hnone] at hc
      cases hc
    · rcases he with rfl | rfl <;> rcases hmark with hmark | hmark | hmark <;>
        rw [hmark] at hc <;> simp at hc ⊢ <;> tauto
  · exact .inl (hn.power c hc)

/-! ### A numeral is read to its end -/

lemma takeWhile_of_isMark {mark : List Char} (h : IsMark mark) (rest : List Char) :
    (mark ++ rest).takeWhile isDigit = [] ∧
      readPlaces (mark ++ rest) = ([], [], mark ++ rest) := by
  have hletters : isDigit 'e' = false ∧ isDigit 'E' = false := by decide
  obtain ⟨e, rfl | rfl, rfl | rfl | rfl⟩ := h <;>
    simp [readPlaces, readPoint, hletters]

lemma readExponent_of_isMark {mark power : List Char} (hmark : IsMark mark) (hne : power ≠ [])
    (hpower : ∀ c ∈ power, isDigit c = true) (rest : List Char) :
    readExponent (mark ++ (power ++ rest)) =
      (mark, power ++ rest.takeWhile isDigit, rest.dropWhile isDigit) := by
  have hread : readMark (mark ++ (power ++ rest)) = (mark, power ++ rest) := by
    obtain ⟨p, power, rfl⟩ := List.exists_cons_of_ne_nil hne
    have hp : ¬(p = '+' ∨ p = '-') := by
      rintro (rfl | rfl) <;> exact absurd (hpower _ List.mem_cons_self) (by decide)
    obtain ⟨e, he, rfl | rfl | rfl⟩ := hmark <;> simp [readMark, he, hp]
  have hmarkNe : mark ≠ [] := by obtain ⟨e, he, rfl | rfl | rfl⟩ := hmark <;> simp
  rw [readExponent, hread]
  simp only [List.takeWhile_append_of_pos hpower, List.dropWhile_append_of_pos hpower]
  rw [if_neg (by simp [hmarkNe, hne])]

lemma takeWhile_eq_nil_of_endsAt (h : EndsAt rest) : rest.takeWhile isDigit = [] := by
  cases rest with
  | nil => rfl
  | cons c rest => rw [List.takeWhile_cons_of_neg (by simp [(h c rfl).1])]

lemma dropWhile_eq_self_of_endsAt (h : EndsAt rest) : rest.dropWhile isDigit = rest := by
  cases rest with
  | nil => rfl
  | cons c rest => rw [List.dropWhile_cons_of_neg (by simp [(h c rfl).1])]

lemma readExponent_of_endsAt (h : EndsAt rest) : readExponent rest = ([], [], rest) := by
  have hread : readMark rest = ([], rest) := by
    cases rest with
    | nil => rfl
    | cons c rest => simp [readMark, (h c rfl).2.2]
  simp [readExponent, hread]

lemma readPlaces_of_endsAt (h : EndsAt rest) : readPlaces rest = ([], [], rest) := by
  rcases readPlaces_cases rest with hread | ⟨after, rfl, -⟩
  · exact hread
  · exact absurd rfl (h '.' rfl).2.1

/-- Before a tail that no digit or point begins, the digits and the point are read as they are. -/
lemma read?_of_tail {mark power : List Char} (hn : n.WellFormed) {tail after : List Char}
    (hdigits : tail.takeWhile isDigit = []) (hplaces : readPlaces tail = ([], [], tail))
    (hexponent : readExponent tail = (mark, power, after)) :
    read? (n.whole ++ (n.point ++ (n.places ++ tail))) =
      some (⟨n.whole, n.point, n.places, mark, power⟩, after) := by
  have hrest : tail.dropWhile isDigit = tail := by
    have hsplit := List.takeWhile_append_dropWhile (p := isDigit) (l := tail)
    rwa [hdigits] at hsplit
  have hwhole : (n.point ++ (n.places ++ tail)).takeWhile isDigit = [] ∧
      (n.point ++ (n.places ++ tail)).dropWhile isDigit = n.point ++ (n.places ++ tail) := by
    have hpoint : isDigit '.' = false := by decide
    rcases hn.point with ⟨hnone, hnone'⟩ | hdot
    · simp [hnone, hnone', hdigits, hrest]
    · simp [hdot, hpoint]
  have hfraction : readPlaces (n.point ++ (n.places ++ tail)) = (n.point, n.places, tail) := by
    rcases hn.point with ⟨hnone, hnone'⟩ | hdot
    · simp [hnone, hnone', hplaces]
    · simp [hdot, readPlaces, readPoint, List.takeWhile_append_of_pos hn.places,
        List.dropWhile_append_of_pos hn.places, hdigits, hrest]
  simp only [read?, List.takeWhile_append_of_pos hn.whole, List.dropWhile_append_of_pos hn.whole,
    hwhole, hfraction, hexponent, List.append_nil]
  rw [if_neg (not_and_or.mpr hn.some_digit)]

/-- Whatever follows a numeral without an exponent, at least the numeral is read. -/
lemma exists_read?_of_unmarked (hn : n.WellFormed) (hmark : n.mark = [] ∧ n.power = [])
    (rest : List Char) : ∃ longer after, read? (n.chars ++ rest) = some (longer, after) ∧
      n.chars.length ≤ longer.chars.length := by
  obtain ⟨whole, point, places, mark, power⟩ := n
  obtain ⟨rfl, rfl⟩ : mark = [] ∧ power = [] := hmark
  obtain ⟨hwhole, hpoint, hplaces, hsome, -, -⟩ := hn
  dsimp only at hwhole hpoint hplaces hsome
  have hdot : isDigit '.' = false := by decide
  rcases hpoint with ⟨rfl, rfl⟩ | rfl
  · have hne : whole ≠ [] := by simpa using hsome
    simp only [read?, chars, List.append_nil, List.takeWhile_append_of_pos hwhole]
    rw [if_neg (by simp [hne])]
    exact ⟨_, _, rfl, by simp⟩
  · have hfraction : readPlaces ('.' :: (places ++ rest)) =
        (['.'], places ++ rest.takeWhile isDigit, rest.dropWhile isDigit) := by
      simp [readPlaces, readPoint, List.takeWhile_append_of_pos hplaces,
        List.dropWhile_append_of_pos hplaces]
    simp only [read?, chars, List.append_nil, List.append_assoc, List.cons_append, List.nil_append,
      List.takeWhile_append_of_pos hwhole, List.dropWhile_append_of_pos hwhole,
      List.takeWhile_cons, List.dropWhile_cons, hdot, Bool.false_eq_true, if_false, hfraction]
    rw [if_neg fun h => hsome.elim (· h.1) (· (List.append_eq_nil_iff.mp h.2).1)]
    exact ⟨_, _, rfl, by simp⟩

/-- A numeral is read when it stands at the start of a text, or a longer one is. -/
theorem read?_append (hn : n.WellFormed) (rest : List Char) :
    ∃ longer after, read? (n.chars ++ rest) = some (longer, after) ∧
      n.chars.length ≤ longer.chars.length ∧ (EndsAt rest → longer = n ∧ after = rest) := by
  rcases hn.mark with hnone | ⟨hmark, hne⟩
  · obtain ⟨longer, after, hread, hlength⟩ := exists_read?_of_unmarked hn hnone rest
    refine ⟨longer, after, hread, hlength, fun hrest => ?_⟩
    have hexact := read?_of_tail hn (takeWhile_eq_nil_of_endsAt hrest) (readPlaces_of_endsAt hrest)
      (readExponent_of_endsAt hrest)
    have hchars : n.chars ++ rest = n.whole ++ (n.point ++ (n.places ++ rest)) := by
      simp [chars, hnone]
    rw [hchars, hexact] at hread
    cases hread
    exact ⟨by cases n; simp_all, rfl⟩
  · obtain ⟨hdigits, hplaces⟩ := takeWhile_of_isMark hmark (n.power ++ rest)
    have hexact := read?_of_tail hn hdigits hplaces (readExponent_of_isMark hmark hne hn.power rest)
    have hchars : n.chars ++ rest =
        n.whole ++ (n.point ++ (n.places ++ (n.mark ++ (n.power ++ rest)))) := by
      simp [chars]
    rw [hchars]
    refine ⟨_, _, hexact, by simp [chars], fun hrest => ⟨?_, dropWhile_eq_self_of_endsAt hrest⟩⟩
    simp [takeWhile_eq_nil_of_endsAt hrest]

lemma read?_chars (hn : n.WellFormed) : read? n.chars = some (n, []) := by
  obtain ⟨longer, after, hread, -, hends⟩ := read?_append hn []
  obtain ⟨rfl, rfl⟩ := hends (by simp [EndsAt])
  rwa [List.append_nil] at hread

/-- A well-formed numeral is determined by its text. -/
lemma chars_injective {n' : Numeral} (hn : n.WellFormed) (hn' : n'.WellFormed)
    (h : n.chars = n'.chars) : n = n' := by
  have hread := read?_chars hn
  rw [h, read?_chars hn'] at hread
  cases hread
  rfl

end Numeral

end Recalc.Number
