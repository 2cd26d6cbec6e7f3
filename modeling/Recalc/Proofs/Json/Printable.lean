import Recalc.Proofs.Json.Numbers
import Recalc.Proofs.Json.Strings

/-!
# The characters of JSON lines

A line that is written of a datum holds printable ASCII characters only, whatever texts the datum
holds: all others are escaped. So nothing inside of a line ends it.
-/

namespace Recalc.Json

open Recalc.Number Recalc.Text

variable {cs cs' : List Char} {c : Char} {n : Nat}

/-- All characters are printable ASCII characters. -/
def Printable (cs : List Char) : Prop :=
  ∀ c ∈ cs, 0x20 ≤ c.toNat ∧ c.toNat ≤ 0x7E

instance : DecidablePred Printable :=
  fun cs => inferInstanceAs (Decidable (∀ c ∈ cs, 0x20 ≤ c.toNat ∧ c.toNat ≤ 0x7E))

lemma Printable.append (h : Printable cs) (h' : Printable cs') : Printable (cs ++ cs') :=
  List.forall_mem_append.mpr ⟨h, h'⟩

lemma Printable.cons (hc : 0x20 ≤ c.toNat ∧ c.toNat ≤ 0x7E) (h : Printable cs) :
    Printable (c :: cs) :=
  List.forall_mem_cons.mpr ⟨hc, h⟩

lemma printable_nil : Printable [] :=
  fun _ hc => absurd hc List.not_mem_nil

/-! ### Strings -/

lemma printable_digitChar (h : n < 16) : 0x20 ≤ (Nat.digitChar n).toNat ∧
    (Nat.digitChar n).toNat ≤ 0x7E := by
  interval_cases n <;> decide

lemma printable_hexDigits (n : Nat) : Printable (Nat.toDigits 16 n) := by
  induction n using Nat.strongRecOn with
  | ind n ih =>
    rcases Nat.lt_or_ge n 16 with hlt | hge
    · rw [Nat.toDigits_of_lt_base hlt]
      exact printable_nil.cons (printable_digitChar hlt)
    · rw [Nat.toDigits_of_base_le (by decide) hge]
      exact (ih (n / 16) (Nat.div_lt_self (by omega) (by decide))).append
        (printable_nil.cons (printable_digitChar (Nat.mod_lt n (by decide))))

lemma printable_escapeUnit (n : Nat) : Printable (escapeUnit n) := by
  refine .cons (by decide) (.cons (by decide) (.append ?_ (printable_hexDigits n)))
  intro c hc
  rw [List.eq_of_mem_replicate hc]
  decide

lemma printable_flatMap {α : Type} {f : α → List Char} {xs : List α}
    (h : ∀ x ∈ xs, Printable (f x)) : Printable (xs.flatMap f) := by
  intro c hc
  obtain ⟨x, hx, hc⟩ := List.mem_flatMap.mp hc
  exact h x hx c hc

lemma printable_escapeChar (c : Char) : Printable (escapeChar c) := by
  rcases escapeChar_cases c with ⟨letter, -, hletter, hescape⟩ | ⟨-, -, hlow, hhigh, hescape⟩ |
    hescape
  · obtain ⟨hascii, -⟩ := ascii_of_escaped? hletter
    rw [hescape]
    exact printable_nil.cons hascii |>.cons (by decide)
  · rw [hescape]
    exact printable_nil.cons ⟨hlow, hhigh⟩
  · rw [hescape]
    exact printable_flatMap fun n _ => printable_escapeUnit n

lemma printable_escape (p : CodePoint) : Printable (escape p) := by
  cases p with
  | char c => exact printable_escapeChar c
  | surrogate n => exact printable_escapeUnit _

lemma printable_string (s : CodePoints) : Printable (string s).toList := by
  rw [string, String.toList_ofList, stringChars]
  exact .cons (by decide) ((printable_flatMap fun p _ => printable_escape p).append
    (printable_nil.cons (by decide)))

/-! ### Scalars -/

lemma printable_of_isDigit (h : c.isDigit = true) : 0x20 ≤ c.toNat ∧ c.toNat ≤ 0x7E := by
  have hcode := Char.isDigit_iff_toNat.mp h
  exact ⟨Nat.le_trans (by decide) hcode.1, Nat.le_trans hcode.2 (by decide)⟩

lemma printable_numeral {m : Numeral} (hm : m.Strict) : Printable m.chars := by
  have hdigits {ds : List Char} (h : ∀ c ∈ ds, c.isDigit = true) : Printable ds :=
    fun c hc => printable_of_isDigit (h c hc)
  have hpoint : Printable m.point := by
    rcases hm.point with ⟨h, -⟩ | ⟨h, -⟩ <;> rw [h]
    · exact printable_nil
    · exact printable_nil.cons (by decide)
  have hmark : Printable m.mark := by
    rcases hm.mark with ⟨h, -⟩ | ⟨⟨e, he, h⟩, -⟩
    · rw [h]
      exact printable_nil
    · have hletter : 0x20 ≤ e.toNat ∧ e.toNat ≤ 0x7E := by
        rcases he with rfl | rfl <;> decide
      rcases h with h | h | h <;> rw [h]
      · exact printable_nil.cons hletter
      · exact (printable_nil.cons (by decide)).cons hletter
      · exact (printable_nil.cons (by decide)).cons hletter
  exact ((((hdigits hm.whole.1).append hpoint).append (hdigits hm.places)).append hmark).append
    (hdigits hm.power)

lemma printable_minus (negative : Bool) (h : Printable cs) :
    Printable (if negative then '-' :: cs else cs) := by
  split
  · exact h.cons (by decide)
  · exact h

lemma printable_real (x : Float) : Printable (numberLayout.write x).toList := by
  cases hparts : parts x with
  | nan =>
    rw [Layout.write, hparts]
    exact (by simp [Printable] : Printable "NaN".toList)
  | infinite negative =>
    rw [Layout.write, hparts, String.toList_ofList]
    exact printable_minus negative (by simp [Printable] : Printable "Infinity".toList)
  | finite negative m e =>
    obtain ⟨m, hm, -, hchars⟩ := exists_strict_write numberLayout rfl hparts
    rw [hchars]
    exact printable_minus negative (printable_numeral hm)

lemma printable_integer (z : Int) : Printable (toString z).toList := by
  have hdigits (k : Nat) : Printable (Nat.toDigits 10 k) :=
    fun c hc => printable_of_isDigit (ascii_of_mem_toDigits hc)
  rcases Int.eq_nat_or_neg z with ⟨k, rfl | rfl⟩
  · rw [toList_toString_natCast]
    exact hdigits k
  · rcases Nat.eq_zero_or_pos k with rfl | hk
    · exact toList_toString_natCast 0 ▸ hdigits 0
    · rw [toList_toString_neg hk]
      exact (hdigits k).cons (by decide)

lemma printable_scalar (d : Datum CodePoints) : Printable (scalar d).toList := by
  cases d with
  | null => exact (by simp [Printable] : Printable "null".toList)
  | bool b => cases b <;> simp [Printable, scalar]
  | integer z => exact printable_integer z
  | real x => exact printable_real x
  | _ => exact printable_string _

lemma printable_key (k : Datum CodePoints) : Printable (key k).toList := by
  cases k <;> exact printable_string _

/-! ### Lines -/

mutual
/-- A line that is written of a datum is printable. -/
theorem printable_lineChars (d : Datum CodePoints) : Printable (lineChars d) := by
  match d with
  | .list items | .tuple items =>
    rw [lineChars]
    exact .cons (by decide) ((printable_lineItems items).append (printable_nil.cons (by decide)))
  | .map entries =>
    rw [lineChars]
    exact .cons (by decide) ((printable_lineEntries entries).append
      (printable_nil.cons (by decide)))
  | .null | .bool _ | .integer _ | .real _ | .text _ | .moment _ | .bytes _ | .set _ =>
    exact printable_scalar _

lemma printable_lineItems (items : List (Datum CodePoints)) : Printable (lineItems items) := by
  match items with
  | [] => exact printable_nil
  | [d] => exact printable_lineChars d
  | d :: d' :: rest =>
    exact (printable_lineChars d).append
      (.cons (by decide) (.cons (by decide) (printable_lineItems (d' :: rest))))

lemma printable_lineEntries (entries : Datum.Entries) :
    Printable (lineEntries entries) := by
  match entries with
  | [] => exact printable_nil
  | [(k, v)] =>
    exact (printable_key k).append (.cons (by decide) (.cons (by decide) (printable_lineChars v)))
  | (k, v) :: entry :: rest =>
    have hfirst := (printable_key k).append
      (.cons (c := ':') (by decide) (.cons (c := ' ') (by decide) (printable_lineChars v)))
    exact hfirst.append
      (.cons (by decide) (.cons (by decide) (printable_lineEntries (entry :: rest))))
end

end Recalc.Json
