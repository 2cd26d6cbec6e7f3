import Recalc.Formula.Lexeme
import Recalc.Proofs.Number.Numeral

/-!
# Splitting a text into lexemes

A text splits into lexemes with separators between them, where every lexeme is the longest text of
its kind that begins at its place. A text splits in one way at most, and it splits just when the
scan comes to its end.
-/

namespace Recalc.Formula

open Recalc.Number Recalc.Text

/-- The texts that lexemes of a kind have. -/
def LexemeKind.Spells : LexemeKind → List Char → Prop
  | .openParen, cs => cs = ['(']
  | .closeParen, cs => cs = [')']
  | .operator, cs => ∃ c, isOperator c = true ∧ cs = [c]
  | .name, cs => isNameChars cs = true
  | .number, cs => ∃ n : Numeral, n.WellFormed ∧ n.chars = cs

/-- The text is of the kind, and no longer one begins where it begins. -/
structure Lexes (kind : LexemeKind) (chars rest : List Char) : Prop where
  spells : kind.Spells chars
  longest : ∀ other, kind.Spells other → other <+: chars ++ rest → other.length ≤ chars.length

/-- The text at a position splits into lexemes and separators. -/
inductive Splits : Position → List Char → List Lexeme → Prop where
  | nil (p : Position) : Splits p [] []
  | separator {p : Position} {c : Char} {rest : List Char} {ls : List Lexeme}
      (hc : isSeparator c = true) (h : Splits (p.next c) rest ls) : Splits p (c :: rest) ls
  | lexeme {p : Position} {kind : LexemeKind} {chars rest : List Char} {ls : List Lexeme}
      (hlexes : Lexes kind chars rest) (h : Splits (p.advance chars) rest ls) :
      Splits p (chars ++ rest) (⟨kind, chars, p⟩ :: ls)

variable {kind : LexemeKind} {chars rest : List Char} {p : Position} {ls : List Lexeme} {c : Char}

/-! ### The first character of a lexeme -/

/-- Parentheses, operators and separators begin neither names nor numbers. -/
lemma not_mark_of_isNameStart (h : isNameStart c = true) :
    c ≠ '(' ∧ c ≠ ')' ∧ isOperator c = false ∧ isSeparator c = false := by
  refine ⟨?_, ?_, ?_, ?_⟩
  · rintro rfl
    exact absurd h (by decide)
  · rintro rfl
    exact absurd h (by decide)
  · by_contra hc
    simp only [isOperator, Bool.not_eq_false, Bool.or_eq_true, decide_eq_true_eq] at hc
    rcases hc with ((rfl | rfl) | rfl) | rfl <;> exact absurd h (by decide)
  · by_contra hc
    simp only [isSeparator, Bool.not_eq_false, Bool.or_eq_true, decide_eq_true_eq] at hc
    rcases hc with (((rfl | rfl) | rfl) | rfl) | rfl <;> exact absurd h (by decide)

lemma not_mark_of_numeral (h : isDigit c = true ∨ c = '.') :
    c ≠ '(' ∧ c ≠ ')' ∧ isOperator c = false ∧ isSeparator c = false ∧ isNameStart c = false := by
  have hcode : c.toNat = 0x2E ∨ 0x30 ≤ c.toNat ∧ (c.toNat ≤ 0x39 ∨ 0x80 ≤ c.toNat) := by
    rcases h with h | rfl
    · exact .inr (code_of_isDigit h)
    · exact .inl rfl
  have hne (d : Char) (hd : d.toNat < 0x2E ∨ d.toNat = 0x2F) : c ≠ d := by
    rintro rfl
    omega
  refine ⟨hne _ (by decide), hne _ (by decide), ?_, ?_, ?_⟩
  · simp [isOperator, hne '+' (by decide), hne '-' (by decide), hne '*' (by decide),
      hne '/' (by decide)]
  · simp [isSeparator, hne ' ' (by decide), hne '\t' (by decide), hne '\x0c' (by decide),
      hne '\r' (by decide), hne '\n' (by decide)]
  · by_contra hc
    simp only [isNameStart, Char.isAlpha, Char.isUpper, Char.isLower, Bool.not_eq_false,
      Bool.or_eq_true, Bool.and_eq_true, decide_eq_true_eq, UInt32.le_iff_toNat_le] at hc
    have hval : c.val.toNat = c.toNat := rfl
    rcases hc with (hc | hc) | rfl
    · simp at hc
      omega
    · simp at hc
      omega
    · revert hcode
      decide

/-! ### Reading a lexeme -/

lemma length_le_takeWhile {other : List Char} (hother : ∀ d ∈ other, isNamePart d = true)
    (h : other <+: rest) : other.length ≤ (rest.takeWhile isNamePart).length := by
  obtain ⟨after, rfl⟩ := h
  rw [List.takeWhile_append_of_pos hother, List.length_append]
  omega

lemma isNameChars_cons_iff {cs : List Char} :
    isNameChars (c :: cs) = true ↔ isNameStart c = true ∧ ∀ d ∈ cs, isNamePart d = true := by
  rw [isNameChars, Bool.and_eq_true, List.all_eq_true]

lemma lexes_name (hc : isNameStart c = true) :
    Lexes .name (c :: rest.takeWhile isNamePart) (rest.dropWhile isNamePart) where
  spells := isNameChars_cons_iff.mpr ⟨hc, fun d hd => List.mem_takeWhile_imp hd⟩
  longest other hother hbegin := by
    rw [List.cons_append, List.takeWhile_append_dropWhile] at hbegin
    cases other with
    | nil => simp
    | cons d other =>
      obtain ⟨-, hbegin⟩ := List.cons_prefix_cons.mp hbegin
      exact Nat.succ_le_succ (length_le_takeWhile (isNameChars_cons_iff.mp hother).2 hbegin)

lemma lexes_number {cs : List Char} {n : Numeral} (h : Numeral.read? cs = some (n, rest)) :
    Lexes .number n.chars rest where
  spells := ⟨n, Numeral.wellFormed_of_read? h, rfl⟩
  longest other hother hbegin := by
    obtain ⟨m, hm, rfl⟩ := hother
    rw [Numeral.chars_append_of_read? h] at hbegin
    obtain ⟨after, rfl⟩ := hbegin
    obtain ⟨longer, after', hread, hle, -⟩ := Numeral.read?_append hm after
    rw [h] at hread
    cases hread
    exact hle

/-- What is read is the longest text of its kind. -/
lemma lexes_of_readLexeme {cs : List Char} (h : readLexeme cs = some (kind, chars, rest)) :
    Lexes kind chars rest := by
  unfold readLexeme at h
  split at h
  next => cases h
  next c after =>
    split at h
    next hopen =>
      cases h
      refine ⟨by rw [hopen]; rfl, ?_⟩
      rintro other rfl -
      exact Nat.le_refl 1
    next =>
      split at h
      next hclose =>
        cases h
        refine ⟨by rw [hclose]; rfl, ?_⟩
        rintro other rfl -
        exact Nat.le_refl 1
      next =>
        split at h
        next hoperator =>
          cases h
          refine ⟨⟨c, hoperator, rfl⟩, ?_⟩
          rintro other ⟨d, -, rfl⟩ -
          exact Nat.le_refl 1
        next =>
          split at h
          next hname =>
            cases h
            exact lexes_name hname
          next =>
            obtain ⟨⟨n, after'⟩, hn, heq⟩ := Option.map_eq_some_iff.mp h
            cases heq
            exact lexes_number hn

/-- No numeral that is longer can be read. -/
lemma Lexes.read?_number {n : Numeral} (h : Lexes .number n.chars rest) (hn : n.WellFormed) :
    Numeral.read? (n.chars ++ rest) = some (n, rest) := by
  obtain ⟨longer, after, hread, hle, -⟩ := Numeral.read?_append hn rest
  have hall := Numeral.chars_append_of_read? hread
  have hlonger := h.longest longer.chars ⟨longer, Numeral.wellFormed_of_read? hread, rfl⟩
    ⟨after, hall⟩
  obtain ⟨hchars, rfl⟩ := List.append_inj hall (Nat.le_antisymm hlonger hle)
  obtain rfl := Numeral.chars_injective (Numeral.wellFormed_of_read? hread) hn hchars
  exact hread

/-- No character of a name follows a name. -/
lemma Lexes.takeWhile_name (h : Lexes .name chars rest) :
    rest.takeWhile isNamePart = [] ∧ rest.dropWhile isNamePart = rest := by
  cases rest with
  | nil => exact ⟨rfl, rfl⟩
  | cons d rest =>
    have hd : ¬isNamePart d = true := by
      intro hd
      cases chars with
      | nil => exact absurd h.spells (by simp [LexemeKind.Spells, isNameChars])
      | cons c cs =>
        obtain ⟨hc, hcs⟩ := isNameChars_cons_iff.mp h.spells
        have hmore : isNameChars (c :: (cs ++ [d])) = true := by
          refine isNameChars_cons_iff.mpr ⟨hc, fun d' hd' => ?_⟩
          rcases List.mem_append.mp hd' with hd' | hd'
          · exact hcs d' hd'
          · rwa [List.mem_singleton.mp hd']
        have hlonger := h.longest _ hmore ⟨rest, by simp⟩
        simp only [List.length_cons, List.length_append, List.length_nil] at hlonger
        omega
    exact ⟨List.takeWhile_cons_of_neg hd, List.dropWhile_cons_of_neg hd⟩

/-- The longest text of a kind is read. -/
lemma readLexeme_of_lexes (h : Lexes kind chars rest) :
    readLexeme (chars ++ rest) = some (kind, chars, rest) := by
  have hspells := h.spells
  cases kind with
  | openParen =>
    obtain rfl := hspells
    rfl
  | closeParen =>
    obtain rfl := hspells
    rfl
  | operator =>
    obtain ⟨c, hc, rfl⟩ := hspells
    have hparens : c ≠ '(' ∧ c ≠ ')' := by
      constructor <;> (rintro rfl; exact absurd hc (by decide))
    simp [readLexeme, hparens, hc]
  | name =>
    cases chars with
    | nil => cases hspells
    | cons c cs =>
      obtain ⟨hc, hcs⟩ := isNameChars_cons_iff.mp hspells
      obtain ⟨hopen, hclose, hoperator, -⟩ := not_mark_of_isNameStart hc
      obtain ⟨hend, hdrop⟩ := h.takeWhile_name
      simp [readLexeme, hopen, hclose, hoperator, hc, List.takeWhile_append_of_pos hcs,
        List.dropWhile_append_of_pos hcs, hend, hdrop]
  | number =>
    obtain ⟨n, hn, rfl⟩ := hspells
    have hread := h.read?_number hn
    obtain ⟨c, cs, hcons, hc⟩ := hn.exists_cons
    obtain ⟨hopen, hclose, hoperator, -, hname⟩ := not_mark_of_numeral hc
    rw [hcons, List.cons_append] at hread ⊢
    simp [readLexeme, hopen, hclose, hoperator, hname, hread, hcons]

/-! ### Scanning -/

lemma Lexes.not_separator (h : Lexes kind chars rest) :
    ∃ c cs, chars = c :: cs ∧ isSeparator c = false := by
  have hspells := h.spells
  cases kind with
  | openParen => exact ⟨'(', [], hspells, by decide⟩
  | closeParen => exact ⟨')', [], hspells, by decide⟩
  | operator =>
    obtain ⟨c, hc, rfl⟩ := hspells
    refine ⟨c, [], rfl, ?_⟩
    simp only [isOperator, Bool.or_eq_true, decide_eq_true_eq] at hc
    rcases hc with ((rfl | rfl) | rfl) | rfl <;> decide
  | name =>
    cases chars with
    | nil => cases hspells
    | cons c cs =>
      exact ⟨c, cs, rfl, (not_mark_of_isNameStart (isNameChars_cons_iff.mp hspells).1).2.2.2⟩
  | number =>
    obtain ⟨n, hn, rfl⟩ := hspells
    obtain ⟨c, cs, hcons, hc⟩ := hn.exists_cons
    exact ⟨c, cs, hcons, (not_mark_of_numeral hc).2.2.2.1⟩

/-- The longest text of a kind is scanned as one lexeme. -/
lemma scanFrom_of_lexes (h : Lexes kind chars rest) : scanFrom p (chars ++ rest) =
    ⟨⟨kind, chars, p⟩ :: (scanFrom (p.advance chars) rest).lexemes,
      (scanFrom (p.advance chars) rest).fault⟩ := by
  obtain ⟨c, cs, rfl, hc⟩ := h.not_separator
  have hread := readLexeme_of_lexes h
  rw [List.cons_append] at hread ⊢
  rw [scanFrom, if_neg (by simp [hc])]
  split
  next hnone =>
    rw [hread] at hnone
    cases hnone
  next hsome =>
    rw [hread] at hsome
    cases hsome
    rfl

lemma scanFrom_of_splits {cs : List Char} (h : Splits p cs ls) : scanFrom p cs = ⟨ls, none⟩ := by
  induction h with
  | nil p => rw [scanFrom]
  | separator hc h ih => rw [scanFrom, if_pos hc, ih]
  | lexeme hlexes h ih => rw [scanFrom_of_lexes hlexes, ih]

lemma splits_of_scanFrom {cs : List Char} (h : (scanFrom p cs).fault = none) :
    Splits p cs (scanFrom p cs).lexemes := by
  fun_induction scanFrom p cs with
  | case1 p => exact .nil p
  | case2 p c rest hc ih => exact .separator hc (ih h)
  | case3 p c rest hc hnone => cases h
  | case4 p c rest hc kind chars after hread more ih =>
    rw [← readLexeme_append hread]
    exact .lexeme (lexes_of_readLexeme hread) (ih h)

/-- What is scanned before a fault are lexemes as well. -/
lemma spells_of_mem_scanFrom {cs : List Char} {l : Lexeme} (h : l ∈ (scanFrom p cs).lexemes) :
    l.kind.Spells l.chars := by
  fun_induction scanFrom p cs with
  | case1 p => cases h
  | case2 p c rest hc ih => exact ih h
  | case3 p c rest hc hnone => cases h
  | case4 p c rest hc kind chars after hread more ih =>
    rcases List.mem_cons.mp h with rfl | h
    · exact (lexes_of_readLexeme hread).spells
    · exact ih h

/-- A text splits in the one way that the scan finds. -/
theorem splits_iff_scan {text : String} :
    Splits .start text.toList ls ↔ scan text = ⟨ls, none⟩ := by
  constructor
  · exact scanFrom_of_splits
  · intro h
    have hsplits := splits_of_scanFrom (congrArg Scan.fault h)
    rwa [show (scanFrom .start text.toList).lexemes = ls from congrArg Scan.lexemes h] at hsplits

end Recalc.Formula
