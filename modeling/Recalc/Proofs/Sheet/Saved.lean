import Recalc.Proofs.Sheet.Restored

/-!
# Sheets that are saved alike

A sheet and what is loaded from its file may differ in the sign of a zero, and only in that. They
are saved alike, and whatever is edited in both, the answers are the same and they go on to be saved
alike.
-/

namespace Recalc

variable {cells : Cells} {s t : Sheet} {n k : String} {c : Contents} {order : List String}

/-! ### Contents without signs of zeros -/

namespace Cells

lemma restored?_eq : cells.restored? k = (cells[k]?.map Cell.contents).map Contents.restored := by
  rw [restored?, Option.map_map]
  rfl

lemma restored?_store : (cells.store n c).restored? k =
    if k = n then (if c.isEmpty then none else some c.restored) else cells.restored? k := by
  rw [restored?_eq]
  split
  next hk =>
    rw [hk, map_contents_store_self]
    split <;> rfl
  next hk => rw [getElem?_store_of_ne hk, restored?_eq]

lemma restored?_foldl : Cells.restored? (order.foldl recalculate cells) k = cells.restored? k := by
  rw [restored?_eq, restored?_eq, map_contents_foldl]

lemma references_iff_restored? {t u : String} :
    cells.References t u ↔ ∃ c, cells.restored? t = some c ∧ u ∈ c.variableSet := by
  rw [references_iff, restored?]
  constructor
  · rintro ⟨cell, hcell, hu⟩
    refine ⟨cell.contents.restored, by rw [hcell, Option.map_some], ?_⟩
    rwa [Contents.variableSet_restored]
  · rintro ⟨c, hc, hu⟩
    obtain ⟨cell, hcell, rfl⟩ := Option.map_eq_some_iff.mp hc
    rw [Contents.variableSet_restored] at hu
    exact ⟨cell, hcell, hu⟩

end Cells

namespace Sheet

/-- The contents are the same but for the signs of zeros. -/
structure SavedAlike (s t : Sheet) : Prop where
  consistent : s.Consistent
  consistent' : t.Consistent
  naming_eq : t.naming = s.naming
  version_eq : t.version = s.version
  restored_eq : ∀ k : String, t.cells.restored? k = s.cells.restored? k

lemma SavedAlike.refl (hs : s.Consistent) : SavedAlike s s :=
  ⟨hs, hs, rfl, rfl, fun _ => rfl⟩

/-- What is loaded from a file is saved like the sheet in it. -/
lemma Loaded.savedAlike (h : Loaded s t) (hs : s.Consistent) : SavedAlike s t := by
  refine ⟨hs, h.consistent, h.naming_eq, h.version_eq, fun k => ?_⟩
  rw [Cells.restored?_eq, h.contents_eq, Cells.restored?_eq, Option.map_map]
  congr 1
  exact funext Contents.restored_restored

/-! ### What is saved -/

/-- The texts that are saved are those of the contents without signs of zeros. -/
lemma stored_eq_of_restored (hversion : t.version = s.version)
    (h : ∀ k : String, t.cells.restored? k = s.cells.restored? k) : t.stored = s.stored := by
  have htexts : t.cells.map (fun _ cell => cell.contents.toText) =
      s.cells.map fun _ cell => cell.contents.toText := by
    apply Std.ExtTreeMap.ext_getElem?
    intro k
    have htext := congrArg (Option.map Contents.toText) (h k)
    simp only [Cells.restored?, Option.map_map, Function.comp_def, Contents.toText_restored]
      at htext
    rw [Std.ExtTreeMap.getElem?_map, Std.ExtTreeMap.getElem?_map]
    exact htext
  have hlist := congrArg Std.ExtTreeMap.toList htexts
  rw [Std.ExtTreeMap.toList_map, Std.ExtTreeMap.toList_map] at hlist
  rw [stored, stored, hversion]
  congr 1

lemma SavedAlike.stored_eq (h : SavedAlike s t) : t.stored = s.stored :=
  stored_eq_of_restored h.version_eq h.restored_eq

/-! ### Edits -/

lemma SavedAlike.references_iff (h : SavedAlike s t) (k u : String) :
    s.cells.References k u ↔ t.cells.References k u := by
  rw [Cells.references_iff_restored?, Cells.references_iff_restored?, h.restored_eq]

lemma SavedAlike.commit (h : SavedAlike s t) (n : String) (c : Contents) :
    (s.commit n c).1 = (t.commit n c).1 ∧
      ∀ k : String, (t.commit n c).2.cells.restored? k = (s.commit n c).2.cells.restored? k := by
  have horder := h.consistent.recalculationOrder_rewired_of_references h.consistent'
    h.references_iff n c [n]
  rcases s.commit_cases n c with ⟨cycle, hcycle, hrefused⟩ | ⟨order, hok, hdone⟩ <;>
    rcases t.commit_cases n c with ⟨cycle', hcycle', hrefused'⟩ | ⟨order', hok', hdone'⟩
  · rw [hcycle, hcycle', Except.error.injEq] at horder
    rw [hrefused, hrefused', horder]
    exact ⟨rfl, h.restored_eq⟩
  · rw [hcycle, hok'] at horder
    cases horder
  · rw [hok, hcycle'] at horder
    cases horder
  · rw [hok, hok', Except.ok.injEq] at horder
    rw [hdone, hdone', horder]
    refine ⟨rfl, fun k => ?_⟩
    rw [Cells.restored?_foldl, Cells.restored?_foldl, Cells.restored?_store, Cells.restored?_store,
      h.restored_eq]

lemma version_setContents (s : Sheet) (name contents : Datum) :
    (s.setContents name contents).2.version = s.version := by
  rcases s.setContents_cases name contents with ⟨e, hrefused⟩ | ⟨text, n, c, -, -, hcommit⟩
  · rw [hrefused]
  rw [hcommit]
  rcases s.commit_cases n c with ⟨cycle, -, hrefused⟩ | ⟨order, -, hdone⟩
  · rw [hrefused]
  · rw [hdone]

/-- An edit has one answer on both sheets, and they are saved alike after it. -/
theorem SavedAlike.setContents (h : SavedAlike s t) (name contents : Datum) :
    (s.setContents name contents).1 = (t.setContents name contents).1 ∧
      SavedAlike (s.setContents name contents).2 (t.setContents name contents).2 := by
  suffices hboth : (s.setContents name contents).1 = (t.setContents name contents).1 ∧
      ∀ k : String, (t.setContents name contents).2.cells.restored? k =
        (s.setContents name contents).2.cells.restored? k by
    refine ⟨hboth.1, h.consistent.setContents name contents,
      h.consistent'.setContents name contents, ?_, ?_, hboth.2⟩
    · rw [naming_setContents, naming_setContents, h.naming_eq]
    · rw [version_setContents, version_setContents, h.version_eq]
  have hcheck : t.checkName name = s.checkName name := by
    rw [checkName, checkName, h.naming_eq]
  unfold Sheet.setContents
  rw [hcheck, h.naming_eq]
  split
  next => exact ⟨rfl, h.restored_eq⟩
  next =>
    split
    next => exact ⟨rfl, h.restored_eq⟩
    next =>
      split
      next => exact ⟨rfl, h.restored_eq⟩
      next => exact h.commit _ _

end Sheet

end Recalc
