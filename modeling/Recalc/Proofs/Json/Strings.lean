import Mathlib
import Recalc.Json.Writer
import Recalc.Proofs.Text.CodePoints

/-!
# JSON strings read back

A string is written in printable ASCII characters, with every other code point as the escapes of its
code units. What is written of a string is read as its code units, and these are joined to its
code points again, unless a surrogate stands before another one with which it would be joined.
-/

namespace Recalc.Json

open Recalc.Text

variable {c : Char} {cs rest : List Char} {n : Nat} {us : List Nat} {p : CodePoint} {s : CodePoints}

/-! ### Hexadecimal numbers -/

lemma hexValue?_digitChar (h : n < 16) : hexValue? (Nat.digitChar n) = some n := by
  interval_cases n <;> decide

lemma hexValues?_append_singleton (cs : List Char) (c : Char) :
    hexValues? (cs ++ [c]) = (hexValues? cs).bind fun n => (hexValue? c).map (16 * n + ·) := by
  rw [hexValues?, List.foldl_append]
  rfl

lemma hexValues?_toDigits (n : Nat) : hexValues? (Nat.toDigits 16 n) = some n := by
  induction n using Nat.strongRecOn with
  | ind n ih =>
    rcases Nat.lt_or_ge n 16 with hlt | hge
    · rw [Nat.toDigits_of_lt_base hlt, ← List.nil_append [_], hexValues?_append_singleton,
        hexValue?_digitChar hlt]
      simp [hexValues?]
    · rw [Nat.toDigits_of_base_le (by decide) hge, hexValues?_append_singleton,
        ih (n / 16) (Nat.div_lt_self (by omega) (by decide)),
        hexValue?_digitChar (Nat.mod_lt n (by decide))]
      simp only [Option.bind_some, Option.map_some, Option.some.injEq]
      exact Nat.div_add_mod n 16

lemma hexValues?_zeros (k : Nat) (cs : List Char) :
    hexValues? (List.replicate k '0' ++ cs) = hexValues? cs := by
  induction k with
  | zero => rfl
  | succ k ih => exact ih

/-- A code unit is written with four digits. -/
lemma exists_hex (h : n < 0x10000) :
    ∃ a b c d, hex 4 n = [a, b, c, d] ∧ hexValues? [a, b, c, d] = some n := by
  have hlength : (hex 4 n).length = 4 := by
    have hdigits := Nat.toDigits_length 16 n 4 (by decide) h
    rw [hex, List.length_append, List.length_replicate]
    omega
  obtain ⟨a, b, c, d, hhex⟩ := List.length_eq_four.mp hlength
  refine ⟨a, b, c, d, hhex, ?_⟩
  rw [← hhex, hex, hexValues?_zeros, hexValues?_toDigits]

/-! ### Code units -/

/-- The code units of sixteen bits of a code point. -/
def codeUnits (p : CodePoint) : List Nat :=
  if p.toNat ≤ 0xFFFF then [p.toNat]
  else [0xD800 + (p.toNat - 0x10000) / 0x400, 0xDC00 + (p.toNat - 0x10000) % 0x400]

lemma codeUnits_of_le (h : p.toNat ≤ 0xFFFF) : codeUnits p = [p.toNat] :=
  if_pos h

lemma codeUnits_of_lt (h : 0xFFFF < p.toNat) : codeUnits p =
    [0xD800 + (p.toNat - 0x10000) / 0x400, 0xDC00 + (p.toNat - 0x10000) % 0x400] :=
  if_neg (Nat.not_le.mpr h)

lemma lt_of_mem_codeUnits (h : n ∈ codeUnits p) : n < 0x10000 := by
  have hlt := p.toNat_lt
  unfold codeUnits at h
  split at h <;> simp only [List.mem_cons, List.not_mem_nil, or_false] at h <;> omega

/-- The code units of a text begin with a low surrogate only if the text does. -/
lemma isLow_of_mem_head? (h : n ∈ (s.flatMap codeUnits).head?)
    (hlow : 0xDC00 ≤ n ∧ n < 0xE000) : ∃ p ∈ s.head?, p.isLow = true := by
  cases s with
  | nil => cases h
  | cons p rest =>
    refine ⟨p, rfl, CodePoint.isLow_iff.mpr ?_⟩
    have hlt := p.toNat_lt
    rw [List.flatMap_cons, codeUnits] at h
    split at h
    next =>
      cases h
      exact hlow
    next =>
      cases h
      omega

lemma joinUnits_toNat (h : ∀ low ∈ us.head?, ¬(p.isHigh = true ∧ 0xDC00 ≤ low ∧ low < 0xE000)) :
    joinUnits (p.toNat :: us) = p :: joinUnits us := by
  cases us with
  | nil => simp only [joinUnits, CodePoint.ofNat_toNat]
  | cons low us =>
    have hnot := h low rfl
    rw [CodePoint.isHigh_iff] at hnot
    rw [joinUnits, if_neg (by tauto), CodePoint.ofNat_toNat]

/-- The two code units of a code point beyond the first plane are joined. -/
lemma joinUnits_pair (h : 0xFFFF < p.toNat) (us : List Nat) :
    joinUnits ((0xD800 + (p.toNat - 0x10000) / 0x400) ::
      (0xDC00 + (p.toNat - 0x10000) % 0x400) :: us) = p :: joinUnits us := by
  have hlt := p.toNat_lt
  have hcode : 0x10000 + (0xD800 + (p.toNat - 0x10000) / 0x400 - 0xD800) * 0x400 +
      (0xDC00 + (p.toNat - 0x10000) % 0x400 - 0xDC00) = p.toNat := by
    omega
  rw [joinUnits, if_pos (by omega), hcode, CodePoint.ofNat_toNat]

/-- The text that is read where a text was written. -/
def joined (s : CodePoints) : CodePoints :=
  joinUnits (s.flatMap codeUnits)

theorem joined_of_unpaired (h : s.Unpaired) : joined s = s := by
  unfold joined
  induction s with
  | nil => rfl
  | cons p rest ih =>
    obtain ⟨hnext, hrest⟩ := List.isChain_cons.mp h
    rw [List.flatMap_cons, codeUnits]
    split
    next =>
      rw [List.singleton_append, joinUnits_toNat, ih hrest]
      rintro low hlow ⟨hhigh, hbounds⟩
      obtain ⟨q, hq, hqlow⟩ := isLow_of_mem_head? hlow hbounds
      exact hnext q hq ⟨hhigh, hqlow⟩
    next hle =>
      rw [List.cons_append, List.singleton_append, joinUnits_pair (Nat.lt_of_not_le hle),
        ih hrest]

/-! ### Characters inside a string -/

lemma readString_unit (h : n < 0x10000) (hrest : readString cs = some (us, rest)) :
    readString (escapeUnit n ++ cs) = some (n :: us, rest) := by
  obtain ⟨a, b, c, d, hhex, hvalue⟩ := exists_hex h
  rw [escapeUnit, hhex]
  simp only [List.cons_append, List.nil_append, readString, hvalue, hrest]

/-- The characters that are escaped by one letter, and the others that are not escaped at all. -/
lemma escapeChar_cases (c : Char) :
    (∃ letter, letter ≠ 'u' ∧ escaped? letter = some c ∧ escapeChar c = ['\\', letter]) ∨
    (c ≠ '"' ∧ c ≠ '\\' ∧ 0x20 ≤ c.toNat ∧ c.toNat ≤ 0x7E ∧ escapeChar c = [c]) ∨
    escapeChar c = (codeUnits (.char c)).flatMap escapeUnit := by
  unfold escapeChar
  split
  · exact .inl ⟨'"', by decide, by decide, rfl⟩
  · exact .inl ⟨'\\', by decide, by decide, rfl⟩
  · exact .inl ⟨'n', by decide, by decide, rfl⟩
  · exact .inl ⟨'r', by decide, by decide, rfl⟩
  · exact .inl ⟨'t', by decide, by decide, rfl⟩
  · exact .inl ⟨'b', by decide, by decide, rfl⟩
  · exact .inl ⟨'f', by decide, by decide, rfl⟩
  next hquote hslash _ _ _ _ _ =>
    refine .inr ?_
    dsimp only
    split
    next hprintable => exact .inl ⟨hquote, hslash, hprintable.1, hprintable.2, rfl⟩
    next =>
      refine .inr ?_
      split
      next hle => rw [codeUnits_of_le (p := .char c) hle, List.flatMap_singleton, CodePoint.toNat]
      next hlt =>
        rw [codeUnits_of_lt (p := .char c) (Nat.lt_of_not_le hlt), List.flatMap_cons,
          List.flatMap_singleton, CodePoint.toNat]

lemma readString_units {units : List Nat} (h : ∀ n ∈ units, n < 0x10000)
    (hrest : readString cs = some (us, rest)) :
    readString (units.flatMap escapeUnit ++ cs) = some (units ++ us, rest) := by
  induction units with
  | nil => exact hrest
  | cons n units ih =>
    obtain ⟨hn, hunits⟩ := List.forall_mem_cons.mp h
    rw [List.flatMap_cons, List.append_assoc, readString_unit hn (ih hunits)]
    rfl

lemma mem_of_escaped? {letter : Char} (h : escaped? letter = some c) :
    (letter, c) ∈ [('"', '"'), ('\\', '\\'), ('/', '/'), ('b', '\x08'), ('f', '\x0c'), ('n', '\n'),
      ('r', '\r'), ('t', '\t')] := by
  obtain ⟨before, after, hlist, -⟩ := List.lookup_eq_some_iff.mp h
  rw [hlist]
  simp

/-- Escapes by one letter are printable and stand for ASCII characters. -/
lemma ascii_of_escaped? {letter : Char} (h : escaped? letter = some c) :
    (0x20 ≤ letter.toNat ∧ letter.toNat ≤ 0x7E) ∧ c.toNat ≤ 0x7E := by
  have hmem := mem_of_escaped? h
  fin_cases hmem <;> decide

lemma readString_escapeChar (c : Char) (hrest : readString cs = some (us, rest)) :
    readString (escapeChar c ++ cs) = some (codeUnits (.char c) ++ us, rest) := by
  rcases escapeChar_cases c with ⟨letter, hne, hletter, hescape⟩ |
    ⟨hquote, hslash, hlow, hhigh, hescape⟩ | hescape
  · obtain ⟨-, hascii⟩ := ascii_of_escaped? hletter
    rw [hescape, codeUnits_of_le (hascii.trans (by decide))]
    simp [readString, hne, hletter, hrest, CodePoint.toNat]
  · rw [hescape, codeUnits_of_le (hhigh.trans (by decide))]
    simp [readString, hslash, hrest, Nat.not_lt.mpr hlow, CodePoint.toNat]
  · rw [hescape]
    exact readString_units (fun n => lt_of_mem_codeUnits) hrest

/-- A code point is read as its code units. -/
lemma readString_escape (p : CodePoint) (hrest : readString cs = some (us, rest)) :
    readString (escape p ++ cs) = some (codeUnits p ++ us, rest) := by
  cases p with
  | char c => exact readString_escapeChar c hrest
  | surrogate n =>
    have hn := n.isLt
    have hle : (CodePoint.surrogate n).toNat ≤ 0xFFFF := by
      rw [CodePoint.toNat]
      omega
    rw [escape, codeUnits_of_le hle]
    exact readString_unit (by omega) hrest

/-- The inside of a string is read up to the closing quote. -/
theorem readString_flatMap (s : CodePoints) (rest : List Char) :
    readString (s.flatMap escape ++ '"' :: rest) = some (s.flatMap codeUnits, rest) := by
  induction s with
  | nil => rw [List.flatMap_nil, List.nil_append, readString, List.flatMap_nil]
  | cons p s ih =>
    rw [List.flatMap_cons, List.append_assoc, readString_escape p ih, List.flatMap_cons]

end Recalc.Json
