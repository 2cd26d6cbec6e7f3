import Mathlib
import Recalc.Text.Utf8

/-!
# Octets of characters

The octets of a text are those of its characters, one after another. At the first octet of a
character the step of reading gives the character back, whatever follows. So a text is read from its
octets, and nothing of it is replaced.
-/

namespace Recalc.Text

variable {need seen value low high : Nat} {rest : List UInt8}

/-! ### The octets of a text -/

lemma toList_loop_eq (octets : ByteArray) (i : Nat) (read : List UInt8) :
    ByteArray.toList.loop octets i read = read.reverse ++ octets.data.toList.drop i := by
  fun_induction ByteArray.toList.loop octets i read with
  | case1 i read h ih =>
    have hi : i < octets.data.toList.length := by simpa using h
    rw [ih, List.drop_eq_getElem_cons hi]
    simp [ByteArray.get!, h]
  | case2 i read h =>
    rw [List.drop_eq_nil_of_le (by simpa using Nat.le_of_not_lt h)]
    simp

lemma toUtf8_ofList (cs : List Char) :
    toUtf8 (String.ofList cs) = cs.flatMap String.utf8EncodeChar := by
  rw [toUtf8, String.toUTF8, String.toByteArray_ofList, List.utf8Encode, ByteArray.toList,
    toList_loop_eq, List.toList_data_toByteArray]
  rfl

/-! ### Reading a character -/

@[simp] lemma readContinuation_zero :
    readContinuation 0 seen value low high rest = .char (Char.ofNat value) seen := by
  cases rest <;> rfl

lemma toNat_ofNat {n : Nat} (h : n < 0x100) : (UInt8.ofNat n).toNat = n := by
  rw [UInt8.toNat_ofNat', Nat.mod_eq_of_lt h]

/-- A due octet within its bounds is read. -/
lemma readContinuation_succ {n : Nat} (h : n < 0x100) (hlow : low ≤ n) (hhigh : n ≤ high) :
    readContinuation (need + 1) seen value low high (UInt8.ofNat n :: rest) =
      readContinuation need (seen + 1) (value * 0x40 + n % 0x40) 0x80 0xBF rest := by
  rw [readContinuation, toNat_ofNat h, if_pos ⟨hlow, hhigh⟩]

/-- The surrogates are no characters. -/
lemma toNat_cases (c : Char) : c.toNat < 0xD800 ∨ 0xDFFF < c.toNat ∧ c.toNat < 0x110000 :=
  c.valid

/-- The first octet of a character shows how many follow, and the next lies in its bounds. -/
lemma continuation?_two {n : Nat} (h : 0x7F < n) (hlt : n ≤ 0x7FF) :
    continuation? (n / 0x40 % 0x20 + 0xC0) = some (1, 0x80, 0xBF) := by
  rw [continuation?, if_neg (by omega), if_neg (by omega), if_pos (by omega)]

lemma continuation?_three {n : Nat} (h : 0x7FF < n) (hlt : n ≤ 0xFFFF)
    (hvalid : n < 0xD800 ∨ 0xDFFF < n) :
    ∃ low high, continuation? (n / 0x1000 % 0x10 + 0xE0) = some (2, low, high) ∧
      low ≤ n / 0x40 % 0x40 + 0x80 ∧ n / 0x40 % 0x40 + 0x80 ≤ high := by
  rw [continuation?, if_neg (by omega), if_neg (by omega), if_neg (by omega)]
  split
  · exact ⟨_, _, rfl, by omega, by omega⟩
  split
  · exact ⟨_, _, rfl, by omega, by omega⟩
  rw [if_pos (by omega)]
  exact ⟨_, _, rfl, by omega, by omega⟩

lemma continuation?_four {n : Nat} (h : 0xFFFF < n) (hlt : n < 0x110000) :
    ∃ low high, continuation? (n / 0x40000 % 0x08 + 0xF0) = some (3, low, high) ∧
      low ≤ n / 0x1000 % 0x40 + 0x80 ∧ n / 0x1000 % 0x40 + 0x80 ≤ high := by
  rw [continuation?, if_neg (by omega), if_neg (by omega), if_neg (by omega), if_neg (by omega),
    if_neg (by omega), if_neg (by omega)]
  split
  · exact ⟨_, _, rfl, by omega, by omega⟩
  split
  · exact ⟨_, _, rfl, by omega, by omega⟩
  rw [if_pos (by omega)]
  exact ⟨_, _, rfl, by omega, by omega⟩

/-- What is read at the first octet of a character is the character. -/
theorem utf8Step_encoded (c : Char) (rest : List UInt8) :
    ∃ b more, String.utf8EncodeChar c = b :: more ∧
      utf8Step b (more ++ rest) = .char c (more.length + 1) := by
  have hvalid := toNat_cases c
  have hchar {n : Nat} (h : n = c.toNat) : Char.ofNat n = c := by rw [h, Char.ofNat_toNat]
  rw [String.utf8EncodeChar]
  simp only [show c.val.toNat = c.toNat from rfl]
  generalize c.toNat = n at hvalid hchar
  split
  next h =>
    refine ⟨_, _, rfl, ?_⟩
    rw [utf8Step, toNat_ofNat (by omega), continuation?, if_pos h]
    simp [hchar rfl]
  next h =>
  split
  next htwo =>
    refine ⟨_, _, rfl, ?_⟩
    rw [utf8Step, toNat_ofNat (by omega), continuation?_two (by omega) htwo]
    simp only [List.cons_append, List.nil_append]
    rw [readContinuation_succ (by omega) (by omega) (by omega), readContinuation_zero, hchar]
    · rfl
    · simp only [if_pos]
      omega
  next htwo =>
  split
  next hthree =>
    refine ⟨_, _, rfl, ?_⟩
    obtain ⟨low, high, hcont, hlow, hhigh⟩ :=
      continuation?_three (by omega) hthree (hvalid.imp_right And.left)
    rw [utf8Step, toNat_ofNat (by omega), hcont]
    simp only [List.cons_append, List.nil_append]
    rw [readContinuation_succ (by omega) hlow hhigh,
      readContinuation_succ (by omega) (by omega) (by omega), readContinuation_zero, hchar]
    · rfl
    · simp only [show ¬(2 = 1) by omega, if_pos, if_false]
      omega
  next hthree =>
    refine ⟨_, _, rfl, ?_⟩
    obtain ⟨low, high, hcont, hlow, hhigh⟩ := continuation?_four (n := n) (by omega) (by omega)
    rw [utf8Step, toNat_ofNat (by omega), hcont]
    simp only [List.cons_append, List.nil_append]
    rw [readContinuation_succ (by omega) hlow hhigh,
      readContinuation_succ (by omega) (by omega) (by omega),
      readContinuation_succ (by omega) (by omega) (by omega), readContinuation_zero, hchar]
    · rfl
    · simp only [show ¬(3 = 1) by omega, show ¬(3 = 2) by omega, if_false]
      omega

/-! ### Reading a text -/

lemma decodeFrom_skip {ε : Type} (repair : Utf8Error → Except ε Char) (position : Nat)
    (read : List Char) (octets rest : List UInt8) :
    decodeFrom repair position octets.length read (octets ++ rest) =
      decodeFrom repair (position + octets.length) 0 read rest := by
  induction octets generalizing position with
  | nil => rfl
  | cons b octets ih =>
    rw [List.length_cons, List.cons_append, decodeFrom, ih, Nat.add_assoc, Nat.add_comm 1]

/-- Whatever stands for broken sequences, the characters of a text are read. -/
lemma decodeFrom_encoded {ε : Type} (repair : Utf8Error → Except ε Char) (position : Nat)
    (read cs : List Char) :
    decodeFrom repair position 0 read (cs.flatMap String.utf8EncodeChar) =
      .ok (read.reverse ++ cs) := by
  induction cs generalizing position read with
  | nil => rw [List.flatMap_nil, decodeFrom, List.append_nil]
  | cons c cs ih =>
    obtain ⟨b, more, hoctets, hstep⟩ := utf8Step_encoded c (cs.flatMap String.utf8EncodeChar)
    rw [List.flatMap_cons, hoctets, List.cons_append, decodeFrom, hstep]
    simp only [Nat.add_sub_cancel, decodeFrom_skip, ih, List.reverse_cons, List.append_assoc,
      List.singleton_append]

theorem ofUtf8Lossy_encoded (cs : List Char) :
    ofUtf8Lossy (cs.flatMap String.utf8EncodeChar) = String.ofList cs := by
  rw [ofUtf8Lossy, decodeFrom_encoded]
  rfl

end Recalc.Text
