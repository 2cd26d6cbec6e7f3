import Mathlib
import Recalc.Storage.Path

/-!
# Texts of paths

The names in a path that is read from a text have no slashes, so that the text of the path is read
as the same path again. Beside slashes and dots, both texts have the same code points.
-/

namespace Recalc.Path

variable {s rest part name : CodePoints} {p : Path} {parts : List CodePoints} {c : CodePoint}

/-! ### Cutting at slashes -/

lemma not_mem_of_mem_splitSlashes (h : part ∈ splitSlashes s) : .char '/' ∉ part := by
  induction s generalizing part with
  | nil =>
    rw [splitSlashes, List.mem_singleton] at h
    simp [h]
  | cons c s ih =>
    unfold splitSlashes at h
    split at h
    next =>
      rcases List.mem_cons.mp h with rfl | h
      · exact List.not_mem_nil
      · exact ih h
    next hc =>
      have hne : .char '/' ≠ c := fun heq => hc heq.symm
      split at h
      next =>
        rw [List.mem_singleton.mp h]
        simpa using hne
      next first parts heq =>
        rcases List.mem_cons.mp h with rfl | h
        · have hfirst : .char '/' ∉ first := ih (heq ▸ List.mem_cons_self)
          simpa [hne] using hfirst
        · exact ih (heq ▸ List.mem_cons_of_mem first h)

lemma splitSlashes_of_not_mem (h : .char '/' ∉ s) : splitSlashes s = [s] := by
  induction s with
  | nil => rfl
  | cons c s ih =>
    rw [List.mem_cons, not_or] at h
    rw [splitSlashes, if_neg (Ne.symm h.1), ih h.2]

lemma splitSlashes_append (h : .char '/' ∉ s) :
    splitSlashes (s ++ .char '/' :: rest) = s :: splitSlashes rest := by
  induction s with
  | nil => rw [List.nil_append, splitSlashes, if_pos rfl]
  | cons c s ih =>
    rw [List.mem_cons, not_or] at h
    rw [List.cons_append, splitSlashes, if_neg (Ne.symm h.1), ih h.2]

/-- A code point other than the slash is in one of the parts. -/
lemma mem_splitSlashes_iff (hslash : c ≠ .char '/') :
    (∃ part ∈ splitSlashes s, c ∈ part) ↔ c ∈ s := by
  induction s with
  | nil => simp [splitSlashes]
  | cons c' s ih =>
    rw [List.mem_cons, ← ih, splitSlashes]
    split
    next heq => simp [heq, hslash]
    next =>
      split
      next heq => simp [heq]
      next heq => simp [heq, or_assoc]

/-! ### Names -/

/-- A name that a text can write as one part of a path. -/
structure IsPart (name : CodePoints) : Prop where
  slash : .char '/' ∉ name
  ne_nil : name ≠ []
  ne_dot : name ≠ [.char '.']

lemma isPart_of_mem_ofText (h : name ∈ (ofText s).parts) : IsPart name := by
  obtain ⟨hmem, hne⟩ := List.mem_filter.mp h
  rw [decide_eq_true_eq] at hne
  exact ⟨not_mem_of_mem_splitSlashes hmem, hne.1, hne.2⟩

lemma getLast?_parts (h : p.name ≠ []) : p.parts.getLast? = some p.name := by
  unfold name at h ⊢
  cases hlast : p.parts.getLast? with
  | none =>
    rw [hlast] at h
    exact absurd rfl h
  | some name => rfl

/-- The last name of a path has no slash. -/
lemma slash_name (s : CodePoints) : .char '/' ∉ (ofText s).name := by
  unfold name
  cases hlast : (ofText s).parts.getLast? with
  | none => exact List.not_mem_nil
  | some name => exact (isPart_of_mem_ofText (List.mem_of_getLast? hlast)).slash

lemma joined_cons_cons (name second : CodePoints) (parts : List CodePoints) :
    joined (name :: second :: parts) = name ++ .char '/' :: joined (second :: parts) := by
  rw [joined, joined, List.intercalate_cons_cons, List.append_assoc, List.singleton_append]

lemma joined_singleton (name : CodePoints) : joined [name] = name :=
  List.intercalate_singleton

lemma text_singleton (name : CodePoints) : text ⟨false, [name]⟩ = name :=
  joined_singleton name

lemma splitSlashes_joined (hne : parts ≠ []) (h : ∀ name ∈ parts, IsPart name) :
    splitSlashes (joined parts) = parts := by
  induction parts with
  | nil => exact absurd rfl hne
  | cons name parts ih =>
    obtain ⟨hname, hparts⟩ := List.forall_mem_cons.mp h
    cases parts with
    | nil => rw [joined_singleton, splitSlashes_of_not_mem hname.slash]
    | cons second parts =>
      rw [joined_cons_cons, splitSlashes_append hname.slash, ih (List.cons_ne_nil _ _) hparts]

/-- The text of a path is read as that path. -/
theorem ofText_text_of_isPart (hparts : ∀ name ∈ p.parts, IsPart name) : ofText p.text = p := by
  obtain ⟨absolute, parts⟩ := p
  dsimp only at hparts
  have hfilter : (parts.filter fun part => part ≠ [] ∧ part ≠ [.char '.']) = parts :=
    List.filter_eq_self.mpr fun name hname =>
      decide_eq_true ⟨(hparts name hname).ne_nil, (hparts name hname).ne_dot⟩
  cases parts with
  | nil => cases absolute <;> rfl
  | cons first parts =>
    have hsplit := splitSlashes_joined (List.cons_ne_nil first parts) hparts
    cases absolute with
    | true =>
      have htext : text ⟨true, first :: parts⟩ = .char '/' :: joined (first :: parts) := rfl
      rw [htext, ofText, splitSlashes, if_pos rfl, List.filter_cons_of_neg (by simp), hsplit,
        hfilter]
      rfl
    | false =>
      have htext : text ⟨false, first :: parts⟩ = joined (first :: parts) := rfl
      obtain ⟨hslash, hne, -⟩ := hparts first List.mem_cons_self
      have hhead : (joined (first :: parts)).head? ≠ some (.char '/') := by
        cases first with
        | nil => exact absurd rfl hne
        | cons c first =>
          have hc : c ≠ .char '/' := by
            rintro rfl
            exact hslash List.mem_cons_self
          cases parts with
          | nil => simpa [joined_singleton] using hc
          | cons second parts => simpa [joined_cons_cons] using hc
      rw [htext, ofText, hsplit, hfilter, beq_eq_false_iff_ne.mpr hhead]

lemma ofText_text (s : CodePoints) : ofText (ofText s).text = ofText s :=
  ofText_text_of_isPart fun _ => isPart_of_mem_ofText

lemma IsPart.ofText_eq (h : IsPart name) : ofText name = ⟨false, [name]⟩ := by
  have htext := ofText_text_of_isPart (p := ⟨false, [name]⟩) (by simpa using h)
  rwa [text_singleton] at htext

/-! ### Code points of paths -/

lemma mem_joined_iff (hslash : c ≠ .char '/') : c ∈ joined parts ↔ ∃ name ∈ parts, c ∈ name := by
  induction parts with
  | nil => simp [joined]
  | cons name parts ih =>
    cases parts with
    | nil => simp [joined_singleton]
    | cons second parts => simp [joined_cons_cons, ih, hslash]

/-- Beside slashes and dots, the text of a path has the code points of its names. -/
lemma mem_text_iff (hslash : c ≠ .char '/') (hdot : c ≠ .char '.') :
    c ∈ p.text ↔ ∃ name ∈ p.parts, c ∈ name := by
  unfold text
  split
  · rw [List.mem_cons, mem_joined_iff hslash]
    exact or_iff_right hslash
  split
  next hparts => simp [List.isEmpty_iff.mp hparts, hdot]
  next => exact mem_joined_iff hslash

lemma mem_parts_ofText_iff (hslash : c ≠ .char '/') (hdot : c ≠ .char '.') :
    (∃ name ∈ (ofText s).parts, c ∈ name) ↔ c ∈ s := by
  rw [← mem_splitSlashes_iff hslash]
  refine exists_congr fun name => and_congr_left fun hc => ?_
  have hkept : name ≠ [] ∧ name ≠ [.char '.'] := by
    refine ⟨List.ne_nil_of_mem hc, ?_⟩
    rintro rfl
    exact hdot (List.mem_singleton.mp hc)
  exact List.mem_filter.trans (and_iff_left (decide_eq_true hkept))

/-- The text of a path has the code points of the text that it is read from. -/
lemma mem_text_ofText_iff (hslash : c ≠ .char '/') (hdot : c ≠ .char '.') :
    c ∈ (ofText s).text ↔ c ∈ s := by
  rw [mem_text_iff hslash hdot, mem_parts_ofText_iff hslash hdot]

end Recalc.Path
