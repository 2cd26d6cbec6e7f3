import Recalc.Proofs.Number.PlainText

/-!
# Whole texts as numbers

A numeral with a sign is read from a text that has nothing else but blanks around it. Of the
control characters, only those that count as blanks there may stand in the text of a number.
-/

namespace Recalc.Number

open Recalc.Text

variable {cs ds core before after : List Char} {c : Char} {drop : Char → Bool} {text : String}
  {n : Numeral} {negative : Bool}

/-! ### Trimming -/

lemma mem_dropWhile (hc : c ∈ cs) (hkept : drop c = false) : c ∈ cs.dropWhile drop := by
  rw [← List.takeWhile_append_dropWhile (p := drop) (l := cs), List.mem_append] at hc
  refine hc.resolve_left fun htaken => ?_
  rw [List.mem_takeWhile_imp htaken] at hkept
  cases hkept

lemma mem_trimBoth (hc : c ∈ cs) (hkept : drop c = false) : c ∈ trimBoth drop cs := by
  rw [trimBoth, List.mem_reverse]
  exact mem_dropWhile (List.mem_reverse.mpr (mem_dropWhile hc hkept)) hkept

lemma dropWhile_append_kept (hbefore : ∀ c ∈ before, drop c = true)
    (hcore : ∀ c ∈ core, drop c = false) (hne : core ≠ []) :
    (before ++ (core ++ after)).dropWhile drop = core ++ after := by
  obtain ⟨c, core, rfl⟩ := List.exists_cons_of_ne_nil hne
  rw [List.dropWhile_append_of_pos hbefore, List.cons_append,
    List.dropWhile_cons_of_neg (by simp [hcore c List.mem_cons_self])]

lemma trimBoth_append (hbefore : ∀ c ∈ before, drop c = true) (hafter : ∀ c ∈ after, drop c = true)
    (hcore : ∀ c ∈ core, drop c = false) (hne : core ≠ []) :
    trimBoth drop (before ++ (core ++ after)) = core := by
  have hback : (core ++ after).reverse = after.reverse ++ (core.reverse ++ []) := by simp
  rw [trimBoth, dropWhile_append_kept hbefore hcore hne, hback, dropWhile_append_kept]
  · simp
  · simpa using hafter
  · simpa using hcore
  · simpa using hne

/-! ### Digit groups -/

lemma dropGroupMarks_of_not_mem {last : Option Char} (hlast : last ≠ some '_') (h : '_' ∉ cs) :
    dropGroupMarks last cs = some cs := by
  induction cs generalizing last with
  | nil => rw [dropGroupMarks, if_neg hlast]
  | cons c rest ih =>
    obtain ⟨hc, hrest⟩ := List.ne_and_not_mem_of_not_mem_cons h
    have hnext : some c ≠ some '_' := fun heq => hc (Option.some.inj heq).symm
    rw [dropGroupMarks, if_neg hc.symm, if_neg fun hboth => hlast hboth.1, ih hnext hrest]
    rfl

/-- Only underscores are removed. -/
lemma mem_of_dropGroupMarks {last : Option Char} (h : dropGroupMarks last cs = some ds)
    (hc : c ∈ cs) (hmark : c ≠ '_') : c ∈ ds := by
  induction cs generalizing last ds with
  | nil => cases hc
  | cons d rest ih =>
    rw [dropGroupMarks] at h
    split at h
    next hd =>
      split at h
      next => exact ih h ((List.mem_cons.mp hc).resolve_left fun heq => hmark (heq.trans hd))
      next => cases h
    next =>
      split at h
      next => cases h
      next =>
        obtain ⟨more, hmore, rfl⟩ := Option.map_eq_some_iff.mp h
        rcases List.mem_cons.mp hc with rfl | hc
        · exact List.mem_cons_self
        · exact List.mem_cons_of_mem d (ih hmore hc)

/-! ### Signs -/

lemma readSign_cases (cs : List Char) : readSign cs = (false, cs) ∨
    ∃ sign rest, (sign = '+' ∨ sign = '-') ∧ cs = sign :: rest ∧ (readSign cs).2 = rest := by
  unfold readSign
  split
  next rest => exact .inr ⟨'+', rest, .inl rfl, rfl, rfl⟩
  next rest => exact .inr ⟨'-', rest, .inr rfl, rfl, rfl⟩
  next => exact .inl rfl

lemma mem_readSign (hc : c ∈ cs) (hplus : c ≠ '+') (hminus : c ≠ '-') : c ∈ (readSign cs).2 := by
  rcases readSign_cases cs with hread | ⟨sign, rest, hsign, rfl, hread⟩
  · rwa [hread]
  · rw [hread]
    refine (List.mem_cons.mp hc).resolve_left ?_
    rintro rfl
    exact hsign.elim hplus hminus

lemma mem_of_mem_readSign (hc : c ∈ (readSign cs).2) : c ∈ cs := by
  rcases readSign_cases cs with hread | ⟨sign, rest, -, rfl, hread⟩
  · rwa [hread] at hc
  · rw [hread] at hc
    exact List.mem_cons_of_mem sign hc

/-- A numeral belongs to the sign that was read before it. -/
lemma exists_signed (hn : n.WellFormed) (h : readSign cs = (negative, n.chars ++ after)) :
    ∃ core, cs = core ++ after ∧ readSign core = (negative, n.chars) := by
  unfold readSign at h
  split at h
  next =>
    cases h
    exact ⟨'+' :: n.chars, rfl, rfl⟩
  next =>
    cases h
    exact ⟨'-' :: n.chars, rfl, rfl⟩
  next =>
    cases h
    exact ⟨n.chars, rfl, readSign_chars hn⟩

/-! ### Whole texts -/

/-- Only ASCII letters change in lower case. -/
lemma toLower_of_not_letter (h : c.toNat < 0x41 ∨ 0x80 ≤ c.toNat) : c.toLower = c := by
  have hcapital : ¬(c.val ≥ 'A'.val ∧ c.val ≤ 'Z'.val) := by
    rintro ⟨hlow, hhigh⟩
    have hlow : 0x41 ≤ c.toNat := hlow
    have hhigh : c.toNat ≤ 0x5A := hhigh
    omega
  rw [Char.toLower, dif_neg hcapital]

/-- A text with a character that is no letter is none of the words for special values. -/
lemma parse?_eq_readSigned?
    (hcs : dropGroupMarks none (trimBoth isNumberBlank text.toList) = some cs)
    (hc : c ∈ (readSign cs).2) (hletter : c.toNat < 0x41 ∨ 0x80 ≤ c.toNat) :
    parse? text = readSigned? cs := by
  have hmem : c ∈ (String.ofList ((readSign cs).2.map Char.toLower)).toList := by
    rw [String.toList_ofList, List.mem_map]
    exact ⟨c, hc, toLower_of_not_letter hletter⟩
  have hword (word : String) (hletters : (word.toList.all Char.isLower) = true) :
      String.ofList ((readSign cs).2.map Char.toLower) ≠ word := by
    rintro rfl
    have hlower := List.all_eq_true.mp hletters c hmem
    simp only [Char.isLower, Bool.and_eq_true, decide_eq_true_eq] at hlower
    have hlow : 0x61 ≤ c.toNat := hlower.1
    have hhigh : c.toNat ≤ 0x7A := hlower.2
    omega
  rw [parse?, hcs]
  simp only
  split
  next heq => exact absurd heq (hword "inf" (by decide))
  next heq => exact absurd heq (hword "infinity" (by decide))
  next heq => exact absurd heq (hword "nan" (by decide))
  next => rfl

/-- Beside blanks no control character can stand in the text of a number. -/
theorem parse?_eq_none_of_control (hc : c ∈ text.toList) (hcontrol : c.toNat < 0x20)
    (hblank : isNumberBlank c = false) : parse? text = none := by
  have hne (d : Char) (hd : 0x20 ≤ d.toNat) : c ≠ d := by
    rintro rfl
    omega
  cases hcs : dropGroupMarks none (trimBoth isNumberBlank text.toList) with
  | none => rw [parse?, hcs]
  | some cs =>
    have hcs' : c ∈ cs := mem_of_dropGroupMarks hcs (mem_trimBoth hc hblank) (hne '_' (by decide))
    have hrest := mem_readSign hcs' (hne '+' (by decide)) (hne '-' (by decide))
    rw [parse?_eq_readSigned? hcs hrest (.inl (by omega)), readSigned?]
    simp only
    split
    next n hread =>
      have hchars := Numeral.chars_append_of_read? hread
      rw [List.append_nil] at hchars
      rw [← hchars] at hrest
      rcases (Numeral.wellFormed_of_read? hread).of_mem_chars hrest with hdigit | hmark
      · have hcode := code_of_isDigit hdigit
        omega
      · have hmarks : (['.', 'e', 'E', '+', '-'].all fun d => 0x20 ≤ d.toNat) = true := by decide
        have hcode := of_decide_eq_true (List.all_eq_true.mp hmarks c hmark)
        omega
    next => rfl

lemma isNumberBlank_of_numeral (h : isDigit c = true ∨ c ∈ ['.', 'e', 'E', '+', '-']) :
    isNumberBlank c = false := by
  rcases h with hdigit | hmark
  · have hcode := code_of_isDigit hdigit
    have hblank := isBlank_of_isDigit hdigit
    simp only [isNumberBlank, isAsciiBlank, hblank, Bool.and_false, Bool.or_false]
    simp only [Bool.or_eq_false_iff, Bool.and_eq_false_iff, decide_eq_false_iff_not,
      beq_eq_false_iff_ne]
    omega
  · have hmarks : (['.', 'e', 'E', '+', '-'].all fun d => !isNumberBlank d) = true := by decide
    simpa using List.all_eq_true.mp hmarks c hmark

/-- The characters of a numeral with its sign. -/
lemma of_mem_signed (hn : n.WellFormed) (hsign : readSign core = (negative, n.chars))
    (hc : c ∈ core) : isDigit c = true ∨ c ∈ ['.', 'e', 'E', '+', '-'] := by
  by_cases hmark : c = '+' ∨ c = '-'
  · rcases hmark with rfl | rfl
    · exact .inr (by decide)
    · exact .inr (by decide)
  · rw [not_or] at hmark
    have hchars := mem_readSign hc hmark.1 hmark.2
    rw [hsign] at hchars
    exact hn.of_mem_chars hchars

/-- Between blanks, a numeral with its sign is read to its value. -/
theorem parse?_of_numeral (htext : text.toList = before ++ (core ++ after))
    (hbefore : ∀ c ∈ before, isNumberBlank c = true) (hafter : ∀ c ∈ after, isNumberBlank c = true)
    (hn : n.WellFormed) (hsign : readSign core = (negative, n.chars)) :
    parse? text = some (n.value negative) := by
  obtain ⟨c, cs, hchars, hc⟩ := hn.exists_cons
  have hmem : c ∈ (readSign core).2 := by
    rw [hsign, hchars]
    exact List.mem_cons_self
  have hcode : c.toNat < 0x41 ∨ 0x80 ≤ c.toNat := by
    rcases hc with hdigit | rfl
    · have hcode := code_of_isDigit hdigit
      omega
    · decide
  have htrimmed : trimBoth isNumberBlank text.toList = core := by
    rw [htext]
    exact trimBoth_append hbefore hafter
      (fun c hc => isNumberBlank_of_numeral (of_mem_signed hn hsign hc))
      (List.ne_nil_of_mem (mem_of_mem_readSign hmem))
  have hmarks : '_' ∉ core := by
    intro hmark
    exact absurd (of_mem_signed hn hsign hmark) (by decide)
  have hcs : dropGroupMarks none (trimBoth isNumberBlank text.toList) = some core := by
    rw [htrimmed]
    exact dropGroupMarks_of_not_mem (by simp) hmarks
  rw [parse?_eq_readSigned? hcs hmem hcode, readSigned?, hsign]
  simp only [Numeral.read?_chars hn]

end Recalc.Number
