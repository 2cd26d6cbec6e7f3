import Mathlib
import Recalc.Text.Case

/-!
# Case mapped twice

No character becomes a small ASCII letter in upper case or a capital one in lower case. An ASCII
text in upper or lower case is therefore its own upper or lower case. ASCII texts that differ in the
case of letters only have one upper and one lower case.
-/

namespace Recalc.Text

variable {runs : List CaseRun} {sequences : List (Nat × List Nat)} {low high : Nat} {c d : Char}
  {before cs : List Char} {s t : String}

/-- The tables lead from no character beyond ASCII to a code point of the range. -/
def Avoids (low high : Nat) (runs : List CaseRun) (sequences : List (Nat × List Nat)) : Prop :=
  (∀ r ∈ runs, r.last < 0x80 ∨ r.last + r.distance < low ∨ high < r.first + r.distance) ∧
    ∀ entry ∈ sequences, ∀ n ∈ entry.2, n < low ∨ high < n

instance : Decidable (Avoids low high runs sequences) :=
  inferInstanceAs (Decidable (_ ∧ _))

lemma avoids_upper : Avoids 0x61 0x7A upperRuns upperSequences := by
  decide +kernel

lemma avoids_lower : Avoids 0x41 0x5A lowerRuns lowerSequences := by
  decide +kernel

lemma toNat_ofNat_of_avoids {n : Nat} (hlow : 0 < low) (hn : n < low ∨ high < n) :
    (Char.ofNat n).toNat < low ∨ high < (Char.ofNat n).toNat := by
  unfold Char.ofNat
  split
  · exact hn
  · exact .inl hlow

lemma of_mem_mapByTables (h : Avoids low high runs sequences) (hlow : 0 < low) (hhigh : high < 0x80)
    (hc : 0x80 ≤ c.toNat) (hd : d ∈ mapByTables runs sequences c) :
    d.toNat < low ∨ high < d.toNat := by
  unfold mapByTables at hd
  split at hd
  next r hr =>
    obtain rfl := List.mem_singleton.mp hd
    have hcontains := List.find?_some hr
    simp only [CaseRun.contains, Bool.and_eq_true, decide_eq_true_eq] at hcontains
    refine toNat_ofNat_of_avoids hlow ?_
    have hrange := h.1 r (List.mem_of_find?_eq_some hr)
    omega
  next =>
    split at hd
    next codes hcodes =>
      obtain ⟨n, hn, rfl⟩ := List.mem_map.mp hd
      obtain ⟨_, _, hentries, -⟩ := List.lookup_eq_some_iff.mp hcodes
      refine toNat_ofNat_of_avoids hlow (h.2 (c.toNat, codes) ?_ n hn)
      rw [hentries]
      exact List.mem_append_right _ List.mem_cons_self
    next =>
      obtain rfl := List.mem_singleton.mp hd
      omega

/-! ### ASCII characters -/

/-- What holds of the first code points holds of the ASCII characters. -/
lemma of_ascii {P : Char → Prop} (h : ∀ n < 0x80, P (Char.ofNat n)) (hc : c.toNat < 0x80) :
    P c := by
  have hcode := h c.toNat hc
  rwa [Char.ofNat_toNat] at hcode

lemma toUpper_not_small (hc : c.toNat < 0x80) : c.toUpper.toNat < 0x61 ∨ 0x7A < c.toUpper.toNat :=
  of_ascii (P := fun c => c.toUpper.toNat < 0x61 ∨ 0x7A < c.toUpper.toNat) (by decide) hc

lemma toLower_not_capital (hc : c.toNat < 0x80) :
    c.toLower.toNat < 0x41 ∨ 0x5A < c.toLower.toNat :=
  of_ascii (P := fun c => c.toLower.toNat < 0x41 ∨ 0x5A < c.toLower.toNat) (by decide) hc

lemma toUpper_eq_self (hc : c.toNat < 0x80) (hsmall : c.toNat < 0x61 ∨ 0x7A < c.toNat) :
    c.toUpper = c :=
  of_ascii (P := fun c => c.toNat < 0x61 ∨ 0x7A < c.toNat → c.toUpper = c) (by decide) hc hsmall

lemma toLower_eq_self (hc : c.toNat < 0x80) (hcapital : c.toNat < 0x41 ∨ 0x5A < c.toNat) :
    c.toLower = c :=
  of_ascii (P := fun c => c.toNat < 0x41 ∨ 0x5A < c.toNat → c.toLower = c) (by decide) hc hcapital

/-! ### Upper case -/

lemma of_mem_upperChar (hd : d ∈ upperChar c) : d.toNat < 0x61 ∨ 0x7A < d.toNat := by
  unfold upperChar at hd
  split at hd
  next hc =>
    obtain rfl := List.mem_singleton.mp hd
    exact toUpper_not_small hc
  next hc => exact of_mem_mapByTables avoids_upper (by decide) (by decide) (Nat.not_lt.mp hc) hd

/-- An ASCII text in upper case stays as it is. -/
theorem upper_upper (h : ∀ c ∈ (upper s).toList, c.toNat < 0x80) : upper (upper s) = upper s := by
  have hsame : ∀ c ∈ (upper s).toList, upperChar c = [c] := by
    intro c hc
    have hsmall : c.toNat < 0x61 ∨ 0x7A < c.toNat := by
      rw [upper, String.toList_ofList] at hc
      obtain ⟨d, -, hd⟩ := List.mem_flatMap.mp hc
      exact of_mem_upperChar hd
    rw [upperChar, if_pos (h c hc), toUpper_eq_self (h c hc) hsmall]
  have hflat : (upper s).toList.flatMap upperChar = (upper s).toList := by
    rw [List.flatMap_def, List.map_congr_left hsame, ← List.flatMap_def, List.flatMap_singleton']
  rw [upper, hflat, String.ofList_toList]

/-! ### Lower case -/

lemma of_mem_lowerChar (hd : d ∈ lowerChar c) : d.toNat < 0x41 ∨ 0x5A < d.toNat := by
  unfold lowerChar at hd
  split at hd
  next hc =>
    obtain rfl := List.mem_singleton.mp hd
    exact toLower_not_capital hc
  next hc => exact of_mem_mapByTables avoids_lower (by decide) (by decide) (Nat.not_lt.mp hc) hd

lemma of_mem_lowerFrom (hd : d ∈ lowerFrom before cs) : d.toNat < 0x41 ∨ 0x5A < d.toNat := by
  induction cs generalizing before with
  | nil => cases hd
  | cons c cs ih =>
    rcases List.mem_append.mp hd with hd | hd
    · -- Only the two forms of a small sigma are not in the tables.
      split at hd
      next =>
        obtain rfl := List.mem_singleton.mp hd
        split <;> decide
      next => exact of_mem_lowerChar hd
    · exact ih hd

lemma lowerFrom_of_ascii (h : ∀ c ∈ cs, c.toNat < 0x80) :
    lowerFrom before cs = cs.map Char.toLower := by
  induction cs generalizing before with
  | nil => rfl
  | cons c cs ih =>
    obtain ⟨hascii, h⟩ := List.forall_mem_cons.mp h
    have hsigma : c ≠ 'Σ' := by
      rintro rfl
      exact absurd hascii (by decide)
    rw [lowerFrom, if_neg hsigma, ih h, lowerChar, if_pos hascii]
    rfl

lemma lowerFrom_eq_self (h : ∀ c ∈ cs, c.toNat < 0x80 ∧ (c.toNat < 0x41 ∨ 0x5A < c.toNat)) :
    lowerFrom before cs = cs := by
  have hsame : ∀ c ∈ cs, c.toLower = c := fun c hc => toLower_eq_self (h c hc).1 (h c hc).2
  rw [lowerFrom_of_ascii fun c hc => (h c hc).1, List.map_congr_left hsame, List.map_id']

/-- An ASCII text in lower case stays as it is. -/
theorem lower_lower (h : ∀ c ∈ (lower s).toList, c.toNat < 0x80) : lower (lower s) = lower s := by
  have hsame : lowerFrom [] (lower s).toList = (lower s).toList := by
    refine lowerFrom_eq_self fun c hc => ⟨h c hc, ?_⟩
    rw [lower, String.toList_ofList] at hc
    exact of_mem_lowerFrom hc
  rw [lower, hsame, String.ofList_toList]

/-! ### Texts that differ in case -/

/-- The texts are ASCII, and the same but for the case of letters. -/
structure SameButCase (s t : String) : Prop where
  ascii_left : ∀ c ∈ s.toList, c.toNat < 0x80
  ascii_right : ∀ c ∈ t.toList, c.toNat < 0x80
  map_toLower_eq : s.toList.map Char.toLower = t.toList.map Char.toLower

lemma toUpper_toLower (hc : c.toNat < 0x80) : c.toLower.toUpper = c.toUpper :=
  of_ascii (P := fun c => c.toLower.toUpper = c.toUpper) (by decide) hc

lemma upper_of_ascii (h : ∀ c ∈ s.toList, c.toNat < 0x80) :
    upper s = String.ofList ((s.toList.map Char.toLower).map Char.toUpper) := by
  have hchar : ∀ c ∈ s.toList, upperChar c = [c.toLower.toUpper] := by
    intro c hc
    rw [upperChar, if_pos (h c hc), toUpper_toLower (h c hc)]
  rw [upper, List.flatMap_congr hchar, List.map_map, List.map_eq_flatMap]
  rfl

lemma SameButCase.upper_eq (h : SameButCase s t) : upper s = upper t := by
  rw [upper_of_ascii h.ascii_left, upper_of_ascii h.ascii_right, h.map_toLower_eq]

lemma SameButCase.lower_eq (h : SameButCase s t) : lower s = lower t := by
  rw [lower, lower, lowerFrom_of_ascii h.ascii_left, lowerFrom_of_ascii h.ascii_right,
    h.map_toLower_eq]

end Recalc.Text
