import Recalc.Proofs.Sheet.Consistent
import Recalc.Sheet.File

/-!
# Reachable sheets

However a sheet came about, its graph is that of its formulas and none of its values is stale. An
edit that is refused leaves the sheet as it was, for whatever reason it is refused.
-/

namespace Recalc.Sheet

open DependencyGraph Relation

/-- The sheets that come about from the empty one by edits, accepted or refused, and from files. -/
inductive Reachable : Sheet → Prop where
  | empty (naming : Naming) (version : CodePoints) : Reachable (empty naming version)
  | setContents {s : Sheet} (h : Reachable s) (name contents : Datum) :
      Reachable (s.setContents name contents).2
  | load {disk : Disk} {path : CodePoints} {naming : Naming} {version : CodePoints} {s : Sheet}
      (h : load disk path naming version = .ok s) : Reachable s
  | save {s : Sheet} (h : Reachable s) (path : CodePoints) (disk : Disk) :
      Reachable (s.save path disk).2.1

variable {s s' : Sheet} {name contents : Datum} {e : EditError}

/-! ### Every reachable sheet is consistent -/

lemma consistent_empty (naming : Naming) (version : CodePoints) :
    (empty naming version).Consistent where
  not_isEmpty k cell h := by simp [empty] at h
  admits_cell k h := absurd h Std.ExtTreeMap.not_mem_empty
  admits_key k h := by
    obtain ⟨p, hp, -⟩ := (holds_empty.mem_keys k).mp h
    exact absurd hp (Finset.notMem_empty p)
  holds := ⟨∅, holds_empty, fun u t => by simp [Cells.References, empty]⟩
  acyclic k h := by
    obtain ⟨t, ht, -⟩ := TransGen.head'_iff.mp h
    exact absurd (holds_empty.edge_iff.mp ht) (Finset.notMem_empty _)
  current k cell h := by simp [empty] at h

/-- The mark of changes has no part in it. -/
lemma Consistent.mark (hs : s.Consistent) (changed : Bool) :
    { s with changed := changed }.Consistent :=
  ⟨hs.not_isEmpty, hs.admits_cell, hs.admits_key, hs.holds, hs.acyclic, hs.current⟩

lemma Consistent.enterAll (hs : s.Consistent) {stored : List (String × String)}
    (h : s.enterAll stored = .ok s') : s'.Consistent := by
  induction stored generalizing s with
  | nil =>
    cases h
    exact hs
  | cons entry rest ih =>
    obtain ⟨name, text⟩ := entry
    have hnext := hs.setContents (.text name) (.text text)
    rw [Sheet.enterAll] at h
    split at h
    next hset =>
      rw [hset] at hnext
      exact ih hnext h
    next => cases h

lemma consistent_of_load {disk : Disk} {path : CodePoints} {version : CodePoints} {naming : Naming}
    (h : load disk path naming version = .ok s) : s.Consistent := by
  unfold load at h
  cases hread : StoredSheet.read disk path with
  | error e =>
    rw [hread] at h
    cases h
  | ok stored =>
    rw [hread] at h
    simp only [bind, Except.bind] at h
    split at h
    next => cases h
    next =>
      simp only [pure, Except.pure] at h
      split at h
      next hentered =>
        cases h
        exact ((consistent_empty naming version).enterAll hentered).mark false
      next => cases h
      next => cases h

/-- A save, whether or not it succeeds, changes nothing in a sheet but the mark. -/
lemma exists_save_eq_mark (s : Sheet) (path : CodePoints) (disk : Disk) :
    ∃ changed, (s.save path disk).2.1 = { s with changed := changed } := by
  unfold Sheet.save
  split
  next => exact ⟨false, rfl⟩
  next => exact ⟨s.changed, rfl⟩

lemma Consistent.save (hs : s.Consistent) (path : CodePoints) (disk : Disk) :
    (s.save path disk).2.1.Consistent := by
  obtain ⟨changed, hmark⟩ := s.exists_save_eq_mark path disk
  rw [hmark]
  exact hs.mark changed

lemma Reachable.consistent (hs : s.Reachable) : s.Consistent := by
  induction hs with
  | empty naming version => exact consistent_empty naming version
  | setContents _ name contents ih => exact ih.setContents name contents
  | load h => exact consistent_of_load h
  | save _ path disk ih => exact ih.save path disk

/-! ### Nothing is stale -/

/-- What can be seen of a sheet that is consistent. -/
structure Sound (s : Sheet) : Prop where
  cell : ∀ (k : String) (cell : Cell), s.cells[k]? = some cell →
    cell.contents ≠ .text "" ∧ s.naming.Admits k
  key : ∀ k ∈ s.graph.keys, s.naming.Admits k
  mem_dependentsOf : ∀ u t, t ∈ s.graph.dependentsOf u ↔ s.cells.References t u
  mem_dependeesOf : ∀ u t, u ∈ s.graph.dependeesOf t ↔ s.cells.References t u
  acyclic : s.graph.Acyclic
  value_eq : ∀ (k : String) (cell : Cell), s.cells[k]? = some cell →
    cell.value = cell.contents.value s.cells.number

/-- In no sheet that comes about is a dependency or a value stale. -/
theorem Reachable.sound (hs : s.Reachable) : s.Sound := by
  have hcons := hs.consistent
  obtain ⟨pairs, hpairs, hrefs⟩ := hcons.holds
  constructor
  · intro k cell hcell
    constructor
    · intro hempty
      have hfull := hcons.not_isEmpty k cell hcell
      rw [hempty] at hfull
      cases hfull
    · refine hcons.admits_cell k (Std.ExtTreeMap.mem_iff_isSome_getElem?.mpr ?_)
      rw [hcell, Option.isSome_some]
  · exact hcons.admits_key
  · intro u t
    rw [hpairs.mem_dependentsOf, hrefs]
  · intro u t
    rw [hpairs.mem_dependeesOf, hrefs]
  · exact hcons.acyclic
  · exact hcons.current

/-- The cell `a` mentions `b` and `c`, and `c` mentions `b`. -/
def diamond : Sheet :=
  let first := ((empty .free defaultVersion).setContents (.text "a") (.text "=b*c")).2
  (first.setContents (.text "c") (.text "=b")).2

lemma reachable_diamond : diamond.Reachable :=
  ((Reachable.empty .free defaultVersion).setContents _ _).setContents _ _

theorem sound_after_refusal :
    (diamond.setContents (.text "b") (.text "=c")).2.Reachable ∧
    (diamond.setContents (.text "b") (.text "=c")).2.Sound := by
  have hreach := reachable_diamond.setContents (.text "b") (.text "=c")
  exact ⟨hreach, hreach.sound⟩

/-! ### Refused edits -/

/-- No question about cells, the version, the mark of changes or dependencies tells the second
sheet from the first. -/
structure Untouched (s s' : Sheet) : Prop where
  naming_eq : s'.naming = s.naming
  version_eq : s'.version = s.version
  cells_eq : s'.cells = s.cells
  changed_eq : s'.changed = s.changed
  graph_alike : s'.graph.Alike s.graph

/-- A refused edit changes nothing. -/
theorem Reachable.untouched_of_refused (hs : s.Reachable)
    (h : (s.setContents name contents).1 = .error e) :
    Untouched s (s.setContents name contents).2 := by
  obtain ⟨pairs, hpairs, -⟩ := hs.consistent.holds
  rcases s.setContents_cases name contents with ⟨e', hrefused⟩ | ⟨text, n, c, -, -, hcommit⟩
  · rw [hrefused]
    exact ⟨rfl, rfl, rfl, rfl, hpairs.alike hpairs⟩
  rw [hcommit] at h ⊢
  rcases s.commit_cases n c with ⟨cycle, -, hrefused⟩ | ⟨order, -, hdone⟩
  · rw [hrefused]
    exact ⟨rfl, rfl, rfl, rfl, (restore_holds hpairs).alike hpairs⟩
  · rw [hdone] at h
    cases h

theorem untouched_diamond :
    diamond.Reachable ∧
    (diamond.setContents (.text "b") (.text "=c")).1 = .error (.circular ["b", "c", "b"]) ∧
    Untouched diamond (diamond.setContents (.text "b") (.text "=c")).2 := by
  have hrefused : (diamond.setContents (.text "b") (.text "=c")).1 =
      .error (.circular ["b", "c", "b"]) := by cbv
  exact ⟨reachable_diamond, hrefused, reachable_diamond.untouched_of_refused hrefused⟩

end Recalc.Sheet
