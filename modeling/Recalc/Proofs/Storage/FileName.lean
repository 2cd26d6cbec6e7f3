import Mathlib
import Recalc.Storage.FileName

/-!
# Names from texts

A slash in a name comes from a slash in its text. A text tells names if none of its surrogates is
one that no name has.
-/

namespace Recalc

namespace CodePoint

variable {b : UInt8} {p : CodePoint} {c c' : Char}

lemma isNameable_char (c : Char) : (char c).isNameable = true := by
  rw [isNameable, decide_eq_true_eq, nameChars, String.utf8EncodeChar]
  split_ifs <;> simp

/-- The octets of a character that is not ASCII are not ASCII. -/
lemma toNat_of_mem_utf8EncodeChar (h : b ∈ String.utf8EncodeChar c) (hc : 0x80 ≤ c.toNat) :
    0x80 ≤ b.toNat := by
  rw [String.utf8EncodeChar] at h
  simp only [show c.val.toNat = c.toNat from rfl] at h
  generalize c.toNat = n at h hc
  rw [if_neg (by omega)] at h
  split_ifs at h with htwo hthree <;>
    simp only [List.mem_cons, List.not_mem_nil, or_false] at h
  · rcases h with rfl | rfl <;> rw [UInt8.toNat_ofNat', Nat.mod_eq_of_lt (by omega)] <;> omega
  · rcases h with rfl | rfl | rfl <;> rw [UInt8.toNat_ofNat', Nat.mod_eq_of_lt (by omega)] <;> omega
  · rcases h with rfl | rfl | rfl | rfl <;>
      rw [UInt8.toNat_ofNat', Nat.mod_eq_of_lt (by omega)] <;> omega

lemma toNat_ofNat {n : Nat} (h : n < 0x100) : (Char.ofNat n).toNat = n := by
  rw [Char.toNat_ofNat, if_pos (by rw [Nat.isValidChar]; omega)]

/-- So an ASCII octet of a code point in a name is the code point itself. -/
lemma eq_char_of_mem_nameChars (h : c ∈ p.nameChars) (hc : c.toNat < 0x80) : p = .char c := by
  cases p with
  | char c' =>
    rw [nameChars] at h
    split at h
    next => rw [List.mem_singleton.mp h]
    next hge =>
      obtain ⟨b, hb, rfl⟩ := List.mem_map.mp h
      have hlarge := toNat_of_mem_utf8EncodeChar hb (Nat.not_lt.mp hge)
      rw [toNat_ofNat b.toNat_lt] at hc
      exact absurd hlarge (Nat.not_le.mpr hc)
  | surrogate n =>
    rw [nameChars] at h
    split at h
    next hn =>
      rw [List.mem_singleton.mp h, toNat_ofNat (by omega)] at hc
      omega
    next => cases h

end CodePoint

namespace CodePoints

variable {s t : CodePoints} {c : Char}

lemma fileName_append (s t : CodePoints) : (s ++ t).fileName = s.fileName ++ t.fileName := by
  rw [fileName, List.flatMap_append, String.ofList_append, fileName, fileName]

/-- An ASCII character of a name is one of its text. -/
lemma mem_of_mem_fileName (h : c ∈ s.fileName.toList) (hc : c.toNat < 0x80) : .char c ∈ s := by
  rw [fileName, String.toList_ofList] at h
  obtain ⟨p, hp, hmem⟩ := List.mem_flatMap.mp h
  rw [← CodePoint.eq_char_of_mem_nameChars hmem hc]
  exact hp

/-- A text in ASCII is kept as it is. -/
lemma fileName_ofString {name : String} (h : ∀ c ∈ name.toList, c.toNat < 0x80) :
    (ofString name).fileName = name := by
  have hchars : ∀ cs : List Char, (∀ c ∈ cs, c.toNat < 0x80) →
      (cs.map CodePoint.char).flatMap CodePoint.nameChars = cs := by
    intro cs hcs
    induction cs with
    | nil => rfl
    | cons c cs ih =>
      obtain ⟨hc, hcs⟩ := List.forall_mem_cons.mp hcs
      rw [List.map_cons, List.flatMap_cons, CodePoint.nameChars, if_pos hc, ih hcs]
      rfl
  rw [fileName, ofString, hchars _ h, String.ofList_toList]

lemma mem_ofString_iff {name : String} : .char c ∈ ofString name ↔ c ∈ name.toList := by
  simp [ofString]

lemma slash_fileName (h : .char '/' ∉ s) : '/' ∉ s.fileName.toList :=
  fun hmem => h (mem_of_mem_fileName hmem (by decide))

lemma isNameable_of_mem_ofString {name : String} {p : CodePoint} (h : p ∈ ofString name) :
    p.isNameable = true := by
  obtain ⟨c, -, rfl⟩ := List.mem_map.mp h
  exact CodePoint.isNameable_char c

lemma nameErrorFrom?_eq_none_iff {position : Nat} :
    s.nameErrorFrom? position = none ↔ ∀ p ∈ s, p.isNameable = true := by
  induction s generalizing position with
  | nil => simp [nameErrorFrom?]
  | cons p s ih =>
    cases p with
    | char c => rw [nameErrorFrom?, ih, List.forall_mem_cons, CodePoint.isNameable_char,
        eq_self, true_and]
    | surrogate n =>
      rw [nameErrorFrom?, List.forall_mem_cons]
      split
      next hn => rw [ih, hn, eq_self, true_and]
      next hn => simp [hn]

lemma nameError?_eq_none_iff : s.nameError? = none ↔ ∀ p ∈ s, p.isNameable = true :=
  nameErrorFrom?_eq_none_iff

end CodePoints

end Recalc
