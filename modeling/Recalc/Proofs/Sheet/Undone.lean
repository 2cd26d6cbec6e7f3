import Recalc.Proofs.Sheet.Extent
import Recalc.Proofs.Sheet.History
import Recalc.Proofs.Sheet.Reentered

/-!
# Edits that are taken back

The text of the contents that a cell had before an edit is accepted after it, since it enters these
contents again and then the cells reference as they did. The sheet is then what it was, with all
values, although they were recalculated in other orders. Only zero loses its sign.
-/

namespace Recalc

open Relation

namespace Sheet

variable {s t : Sheet} {name entered : Datum} {n text : String} {c : Contents}
  {order : List String}

/-- The contents of the cell `n`, which is named in normal form. -/
def contentsOf (s : Sheet) (n : String) : Contents :=
  (s.cells[n]?.map Cell.contents).getD (.text "")

lemma contents_of_checkName (hn : s.checkName name = .ok n) :
    s.contents name = .ok (s.contentsOf n) := by
  rw [contents, hn]
  rfl

/-- What a cell holds was entered, even when it is empty. -/
lemma Entered.exists_ofText_contentsOf (hs : s.Entered) (n : String) :
    ∃ text, Contents.ofText s.naming text = .ok (s.contentsOf n) := by
  rw [contentsOf]
  cases hcell : s.cells[n]? with
  | none => exact ⟨"", Contents.ofText_empty s.naming⟩
  | some cell => exact hs.contents n cell hcell

/-- With the former contents in the edited cell, all contents are the former ones. -/
lemma Touches.map_contents_store (h : Touches s t n text c order) (hs : s.Consistent)
    (k : String) : (t.cells.store n (s.contentsOf n))[k]?.map Cell.contents =
      s.cells[k]?.map Cell.contents := by
  by_cases hk : k = n
  · subst hk
    rw [Cells.map_contents_store_self, contentsOf]
    cases hcell : s.cells[k]? with
    | none => rfl
    | some cell =>
      simp only [Option.map_some, Option.getD_some, hs.not_isEmpty k cell hcell,
        Bool.false_eq_true, if_false]
  · rw [Cells.getElem?_store_of_ne hk, h.contents_of_ne k hk]

/-- The former contents are accepted after an edit, and with them the cells are the former ones. -/
lemma Touches.exists_commit (h : Touches s t n text c order) (hs : s.Consistent)
    (ht : t.Consistent) :
    ∃ order undone, t.commit n (s.contentsOf n) = (.ok order, undone) ∧
      undone.naming = t.naming ∧ undone.version = t.version ∧
      ∀ k : String, undone.cells[k]?.map Cell.contents = s.cells[k]?.map Cell.contents := by
  have hsame := h.map_contents_store hs
  obtain ⟨order, hdone⟩ := ht.exists_commit fun k hloop => hs.not_transGen_references k
    (TransGen.mono (fun v u href => (Cells.references_congr (hsame v)).mp href) _ _ hloop)
  exact ⟨order, _, hdone, rfl, rfl, fun k => Cells.map_contents_foldl.trans (hsame k)⟩

/-- Nothing that a sheet tells of its cells is other than in the first one. -/
structure TakenBack (s s' : Sheet) : Prop where
  naming_eq : s'.naming = s.naming
  version_eq : s'.version = s.version
  names_eq : s'.names = s.names
  contents_eq : ∀ name, s'.contents name = s.contents name
  value_eq : ∀ name, s'.value name = s.value name
  directDependents_eq : ∀ name, s'.directDependents name = s.directDependents name

lemma Twins.takenBack (h : Twins s t) (hversion : t.version = s.version) : TakenBack s t where
  naming_eq := h.naming_eq.symm
  version_eq := hversion
  names_eq := by rw [names, names, h.cells_eq]
  contents_eq name := by rw [contents, contents, h.checkName_eq, h.cells_eq]
  value_eq name := by rw [value, value, h.checkName_eq, h.cells_eq]
  directDependents_eq name := (h.agree.directDependents_eq name).symm

/-- After an edit that is accepted, the text of what the cell held before is accepted as well and
takes the edit back, unless this was zero with a sign. -/
theorem Reachable.exists_takenBack (hs : s.Reachable) (hnaming : s.naming.Idempotent)
    (hedit : (s.setContents name entered).1 = .ok order) :
    ∃ former, s.contents name = .ok former ∧ (former ≠ .number Number.negativeZero →
      ∃ again undone,
        (s.setContents name entered).2.setContents name (.text former.toText) =
          (.ok again, undone) ∧
        TakenBack s undone) := by
  obtain ⟨text, n, c, -, hn, -, htouches⟩ := hs.touches_of_accepted hedit
  refine ⟨s.contentsOf n, contents_of_checkName hn, fun hzero => ?_⟩
  have ht := hs.consistent.setContents name entered
  obtain ⟨again, undone, hcommit, hnaming', hversion, hcontents⟩ :=
    htouches.exists_commit hs.consistent ht
  have hset : (s.setContents name entered).2.setContents name
      (.text (s.contentsOf n).toText) = (.ok again, undone) := by
    obtain ⟨former, hformer⟩ := hs.entered.exists_ofText_contentsOf n
    have hread := Contents.ofText_toText hnaming hformer
    rw [Contents.restored_eq_self hzero, ← htouches.naming_eq] at hread
    rw [setContents_eq_commit ?_ hread, hcommit]
    rwa [checkName, htouches.naming_eq]
  have hundone := ht.setContents name (.text (s.contentsOf n).toText)
  rw [hset] at hundone
  have htwins : Twins s undone :=
    ⟨hs.consistent, hundone, htouches.naming_eq.symm.trans hnaming'.symm,
      hs.consistent.cells_eq hundone fun k => (hcontents k).symm⟩
  exact ⟨again, undone, hset, htwins.takenBack (hversion.trans htouches.version_eq)⟩

theorem exists_takenBack_diamond :
    diamond.Reachable ∧ diamond.naming.Idempotent ∧
    (diamond.setContents (.text "c") (.text "=d/b2")).1 = .ok ["c", "a"] ∧
    ∃ again undone,
      (diamond.setContents (.text "c") (.text "=d/b2")).2.setContents (.text "c") (.text "=b") =
        (.ok again, undone) ∧
      TakenBack diamond undone := by
  have hfree : diamond.naming = .free := by
    rw [diamond, naming_setContents, naming_setContents, empty]
  have hnaming : diamond.naming.Idempotent := by
    rw [hfree]
    exact fun _ _ _ => rfl
  have hedit : (diamond.setContents (.text "c") (.text "=d/b2")).1 = .ok ["c", "a"] := by cbv
  obtain ⟨former, hformer, htakenBack⟩ := reachable_diamond.exists_takenBack hnaming hedit
  have hc : diamond.contents (.text "c") = .ok (.formula ⟨[.variable "b"]⟩) := by cbv
  rw [hc] at hformer
  cases hformer
  exact ⟨reachable_diamond, hnaming, hedit, htakenBack Contents.noConfusion⟩

end Sheet

end Recalc
