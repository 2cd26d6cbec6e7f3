import Recalc.Proofs.Dependency.Order
import Recalc.Proofs.Formula.Value
import Recalc.Sheet.Edit

/-!
# Cells that are up to date

A cell is current when its value is that of its contents, given what the cells show now. To
recalculate a cell disturbs only the cells that reference it. When every cell of a list stands
before those that reference it, each of them is current from its turn on.
-/

namespace Recalc

variable {contents : Contents} {cells cells' : Cells} {name k t u : String}

lemma Contents.mem_variableSet_iff :
    u ∈ contents.variableSet ↔ ∃ f, contents = .formula f ∧ u ∈ f.variableSet := by
  cases contents <;> simp [variableSet]

lemma Contents.variableSet_of_isEmpty (h : contents.isEmpty = true) : contents.variableSet = ∅ := by
  cases contents with
  | text s => rfl
  | number x => rfl
  | formula f => cases h

lemma Contents.value_congr {lookup lookup' : String → Except EvaluationError Float}
    (h : ∀ u ∈ contents.variableSet, lookup u = lookup' u) :
    contents.value lookup = contents.value lookup' := by
  cases contents with
  | text s => rfl
  | number x => rfl
  | formula f => rw [value, value, Formula.evaluate_congr h]

namespace Cells

/-- The formula of the cell `t` mentions `u`. -/
def References (cells : Cells) (t u : String) : Prop :=
  ∃ f, cells[t]?.map Cell.contents = some (.formula f) ∧ u ∈ f.variableSet

/-- The value of a cell is that of its contents, given what the cells show now. -/
def Current (cells : Cells) (k : String) : Prop :=
  ∀ cell, cells[k]? = some cell → cell.value = cell.contents.value cells.number

lemma references_iff :
    cells.References t u ↔ ∃ cell, cells[t]? = some cell ∧ u ∈ cell.contents.variableSet := by
  simp only [References, Option.map_eq_some_iff, Contents.mem_variableSet_iff]
  grind

lemma references_congr (h : cells'[t]?.map Cell.contents = cells[t]?.map Cell.contents) :
    cells'.References t u ↔ cells.References t u := by
  rw [References, References, h]

lemma number_congr (h : cells'[u]? = cells[u]?) : cells'.number u = cells.number u := by
  rw [number, number, h]

/-- A cell stays current while it and the cells it references stay as they are. -/
lemma Current.congr (hk : cells.Current k) (hself : cells'[k]? = cells[k]?)
    (hother : ∀ u, cells.References k u → cells'[u]? = cells[u]?) : cells'.Current k := by
  intro cell hcell
  rw [hself] at hcell
  rw [hk cell hcell]
  refine Contents.value_congr fun u hu => (number_congr (hother u ?_)).symm
  exact references_iff.mpr ⟨cell, hcell, hu⟩

/-! ### Storing contents -/

lemma getElem?_store_of_ne (h : k ≠ name) : (cells.store name contents)[k]? = cells[k]? := by
  unfold store
  split
  · rw [Std.ExtTreeMap.getElem?_erase, if_neg]
    simpa using h.symm
  · rw [Std.ExtTreeMap.getElem?_insert, if_neg]
    simpa using h.symm

lemma map_contents_store_self :
    (cells.store name contents)[name]?.map Cell.contents =
      if contents.isEmpty then none else some contents := by
  unfold store
  split <;> simp

lemma mem_store (h : k ∈ cells.store name contents) : k = name ∨ k ∈ cells := by
  by_cases hk : k = name
  · exact .inl hk
  · rw [Std.ExtTreeMap.mem_iff_isSome_getElem?, getElem?_store_of_ne hk] at h
    exact .inr (Std.ExtTreeMap.mem_iff_isSome_getElem?.mpr h)

/-- No empty cell comes to be stored. -/
lemma isEmpty_of_store {cell : Cell}
    (hcells : ∀ (k : String) (cell : Cell), cells[k]? = some cell → cell.contents.isEmpty = false)
    (h : (cells.store name contents)[k]? = some cell) : cell.contents.isEmpty = false := by
  by_cases hk : k = name
  · subst hk
    have hstored : (if contents.isEmpty then none else some contents) = some cell.contents := by
      rw [← map_contents_store_self, h, Option.map_some]
    split at hstored
    next => cases hstored
    next hempty =>
      cases hstored
      simpa using hempty
  · rw [getElem?_store_of_ne hk] at h
    exact hcells k cell h

lemma references_store : (cells.store name contents).References t u ↔
    (t = name ∧ u ∈ contents.variableSet) ∨ (t ≠ name ∧ cells.References t u) := by
  by_cases ht : t = name
  · subst ht
    rw [References, map_contents_store_self]
    split
    next h => simp [Contents.variableSet_of_isEmpty h]
    next h => simp [Contents.mem_variableSet_iff]
  · have hsame : (cells.store name contents).References t u ↔ cells.References t u :=
      references_congr (by rw [getElem?_store_of_ne ht])
    simp [hsame, ht]

/-! ### Recalculating -/

lemma getElem?_recalculate_of_ne (h : k ≠ name) : (cells.recalculate name)[k]? = cells[k]? := by
  unfold recalculate
  split
  · rw [Std.ExtTreeMap.getElem?_insert, if_neg]
    simpa using h.symm
  · rfl

lemma getElem?_recalculate_self : (cells.recalculate name)[name]? =
    cells[name]?.map fun cell => { cell with value := cell.contents.value cells.number } := by
  unfold recalculate
  split
  next cell h => simp [h]
  next h => simp [h]

lemma map_contents_recalculate :
    (cells.recalculate name)[k]?.map Cell.contents = cells[k]?.map Cell.contents := by
  by_cases hk : k = name
  · subst hk
    rw [getElem?_recalculate_self]
    cases cells[k]? <;> rfl
  · rw [getElem?_recalculate_of_ne hk]

lemma map_contents_foldl {order : List String} :
    (order.foldl recalculate cells)[k]?.map Cell.contents = cells[k]?.map Cell.contents := by
  induction order generalizing cells with
  | nil => rfl
  | cons name order ih => rw [List.foldl_cons, ih, map_contents_recalculate]

lemma references_foldl {order : List String} :
    (order.foldl recalculate cells).References = cells.References := by
  funext t u
  exact propext (references_congr map_contents_foldl)

/-- What is not in the list stays as it is. -/
lemma getElem?_foldl_of_not_mem {order : List String} (hk : k ∉ order) :
    (order.foldl recalculate cells)[k]? = cells[k]? := by
  induction order generalizing cells with
  | nil => rfl
  | cons name order ih =>
    obtain ⟨hne, hk⟩ := List.ne_and_not_mem_of_not_mem_cons hk
    rw [List.foldl_cons, ih hk, getElem?_recalculate_of_ne hne]

lemma exists_of_foldl {order : List String} {cell : Cell}
    (h : (order.foldl recalculate cells)[k]? = some cell) :
    ∃ before, cells[k]? = some before ∧ before.contents = cell.contents := by
  rw [← Option.map_eq_some_iff, ← map_contents_foldl, h, Option.map_some]

lemma mem_of_foldl {order : List String} (h : k ∈ order.foldl recalculate cells) : k ∈ cells := by
  obtain ⟨cell, hcell⟩ := Option.isSome_iff_exists.mp (Std.ExtTreeMap.mem_iff_isSome_getElem?.mp h)
  obtain ⟨before, hbefore, -⟩ := exists_of_foldl hcell
  rw [Std.ExtTreeMap.mem_iff_isSome_getElem?, hbefore, Option.isSome_some]

lemma current_recalculate_self (h : ¬cells.References name name) :
    (cells.recalculate name).Current name := by
  intro cell hcell
  rw [getElem?_recalculate_self] at hcell
  obtain ⟨before, hbefore, rfl⟩ := Option.map_eq_some_iff.mp hcell
  refine Contents.value_congr fun u hu => (number_congr (getElem?_recalculate_of_ne ?_)).symm
  rintro rfl
  exact h (references_iff.mpr ⟨before, hbefore, hu⟩)

lemma Current.recalculate (hk : cells.Current k) (hne : k ≠ name)
    (href : ¬cells.References k name) : (cells.recalculate name).Current k := by
  refine hk.congr (getElem?_recalculate_of_ne hne) fun u hu => getElem?_recalculate_of_ne ?_
  rintro rfl
  exact href hu

/-- Recalculated in order, all cells are current when those outside of the order were. -/
theorem current_foldl {g : DependencyGraph} {order : List String} (hord : g.Ordered order)
    (hnd : order.Nodup) (hedge : ∀ t u, cells.References t u → g.Edge u t)
    (hcur : ∀ k ∉ order, cells.Current k) (k : String) :
    (order.foldl recalculate cells).Current k := by
  -- From its turn on, no cell that a cell of the order references comes any more.
  induction order generalizing cells with
  | nil => exact hcur k List.not_mem_nil
  | cons name order ih =>
    obtain ⟨hname, hnd⟩ := List.nodup_cons.mp hnd
    refine ih hord.2 hnd (fun t u h => hedge t u ?_) (fun j hj => ?_)
    · exact (references_congr map_contents_recalculate).mp h
    · have href : ¬cells.References j name := fun h => hj (hord.1 j (hedge j name h))
      by_cases hjn : j = name
      · subst hjn
        exact current_recalculate_self href
      · exact (hcur j (by simp [hj, hjn])).recalculate hjn href

end Cells

end Recalc
