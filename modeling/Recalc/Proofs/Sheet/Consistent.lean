import Recalc.Proofs.Dependency.Rewiring
import Recalc.Proofs.Sheet.Cells

/-!
# Consistent sheets

The graph of a consistent sheet consists of the references in its formulas and has no cycle, and
every cell is current. An edit that is accepted keeps this, since all cells that depend on the
edited one are recalculated in order. An edit that closes a cycle puts the graph back.
-/

namespace Recalc

open DependencyGraph Relation

/-- The name has the form of a name and is accepted. -/
def Naming.Admits (naming : Naming) (name : String) : Prop :=
  isName name = true ∧ naming.accepts name = true

lemma Contents.admits_of_ofOtherText {naming : Naming} {text u : String} {contents : Contents}
    (h : ofOtherText naming text = .ok contents) (hu : u ∈ contents.variableSet) :
    naming.Admits u := by
  unfold ofOtherText at h
  split at h
  next =>
    split at h
    next hf =>
      cases h
      exact Formula.variable_of_parse hf hu
    next => cases h
  next =>
    cases h
    exact absurd hu Std.ExtTreeSet.not_mem_empty

/-- The names that entered contents mention are accepted. -/
lemma Contents.admits_of_ofText {naming : Naming} {text u : String} {contents : Contents}
    (h : ofText naming text = .ok contents) (hu : u ∈ contents.variableSet) :
    naming.Admits u := by
  unfold ofText at h
  split at h
  next =>
    split at h
    next => cases h
    split at h
    next =>
      cases h
      exact absurd hu Std.ExtTreeSet.not_mem_empty
    next => exact admits_of_ofOtherText h hu
  next => exact admits_of_ofOtherText h hu

namespace Sheet

structure Consistent (s : Sheet) : Prop where
  not_isEmpty : ∀ (k : String) (cell : Cell), s.cells[k]? = some cell →
    cell.contents.isEmpty = false
  admits_cell : ∀ k ∈ s.cells, s.naming.Admits k
  admits_key : ∀ k ∈ s.graph.keys, s.naming.Admits k
  /-- The pairs of the graph are the mentioned names, each with the cells that mention it. -/
  holds : ∃ pairs, s.graph.Holds pairs ∧ ∀ u t, (u, t) ∈ pairs ↔ s.cells.References t u
  acyclic : s.graph.Acyclic
  current : ∀ k, s.cells.Current k

variable {s : Sheet} {name : Datum} {n text : String} {c : Contents} {order : List String}
  {graph : DependencyGraph} {pairs : Finset (String × String)}

/-! ### What an edit does -/

lemma admits_of_checkName (h : s.checkName name = .ok n) : s.naming.Admits n := by
  unfold checkName at h
  split at h
  next => cases h
  next =>
    split at h
    next hnormal =>
      cases h
      simp only [Naming.canonical?, Option.ite_none_right_eq_some, Option.some.injEq,
        Bool.and_eq_true] at hnormal
      obtain ⟨hadmits, rfl⟩ := hnormal
      exact hadmits
    next => cases h

lemma setContents_eq_commit (hn : s.checkName name = .ok n)
    (hc : Contents.ofText s.naming text = .ok c) :
    s.setContents name (.text text) = s.commit n c := by
  simp only [setContents, Datum.text?, hn, hc]

/-- An edit is refused at once, or it puts contents into a cell. -/
lemma setContents_cases (s : Sheet) (name contents : Datum) :
    (∃ e, s.setContents name contents = (.error e, s)) ∨
      ∃ text n c, s.checkName name = .ok n ∧ Contents.ofText s.naming text = .ok c ∧
        s.setContents name contents = s.commit n c := by
  unfold setContents
  split
  next => exact .inl ⟨_, rfl⟩
  next text _ =>
    split
    next => exact .inl ⟨_, rfl⟩
    next n hn =>
      split
      next => exact .inl ⟨_, rfl⟩
      next c hc => exact .inr ⟨text, n, c, hn, hc, rfl⟩

/-- The graph when the dependencies of the contents are put in place. -/
def rewired (s : Sheet) (n : String) (c : Contents) : DependencyGraph :=
  s.graph.replaceDependees n c.variableSet.toList

lemma commit_cases (s : Sheet) (n : String) (c : Contents) :
    (∃ cycle, (s.rewired n c).recalculationOrder [n] = .error cycle ∧
      s.commit n c = (.error (.circular cycle), { s with
        graph := (s.rewired n c).replaceDependees n (s.graph.dependeesOf n).toList })) ∨
    ∃ order, (s.rewired n c).recalculationOrder [n] = .ok order ∧
      s.commit n c = (.ok order, { s with
        graph := s.rewired n c
        cells := order.foldl Cells.recalculate (s.cells.store n c)
        changed := true }) := by
  unfold commit rewired
  cases h : (s.graph.replaceDependees n c.variableSet.toList).recalculationOrder [n] with
  | error cycle => exact .inl ⟨cycle, rfl, by simp only [h]⟩
  | ok order => exact .inr ⟨order, rfl, by simp only [h]⟩

/-! ### Refused edits -/

lemma restore_holds (hg : s.graph.Holds pairs) :
    ((s.rewired n c).replaceDependees n (s.graph.dependeesOf n).toList).Holds pairs :=
  hg.restoreDependees n c.variableSet.toList

/-- A graph that holds the same pairs may take the place of that of a consistent sheet. -/
lemma Consistent.withGraph (hs : s.Consistent)
    (hgraph : ∀ pairs, s.graph.Holds pairs → graph.Holds pairs) :
    { s with graph := graph }.Consistent := by
  obtain ⟨pairs, hpairs, hrefs⟩ := hs.holds
  have hedge : graph.Edge = s.graph.Edge := by
    funext u t
    exact propext ((hgraph pairs hpairs).edge_iff.trans hpairs.edge_iff.symm)
  constructor
  · exact hs.not_isEmpty
  · exact hs.admits_cell
  · intro k hk
    exact hs.admits_key k ((hpairs.mem_keys k).mpr (((hgraph pairs hpairs).mem_keys k).mp hk))
  · exact ⟨pairs, hgraph pairs hpairs, hrefs⟩
  · intro k hloop
    rw [hedge] at hloop
    exact hs.acyclic k hloop
  · exact hs.current

/-! ### Accepted edits -/

lemma Consistent.admits_of_references {t u : String} (hs : s.Consistent)
    (h : s.cells.References t u) : s.naming.Admits t ∧ s.naming.Admits u := by
  obtain ⟨pairs, hpairs, hrefs⟩ := hs.holds
  have hp : (u, t) ∈ pairs := (hrefs u t).mpr h
  exact ⟨hs.admits_key t ((hpairs.mem_keys t).mpr ⟨(u, t), hp, .inr rfl⟩),
    hs.admits_key u ((hpairs.mem_keys u).mpr ⟨(u, t), hp, .inl rfl⟩)⟩

/-- No cell references itself, directly or through other cells. -/
lemma Consistent.not_transGen_references (hs : s.Consistent) (k : String) :
    ¬TransGen s.cells.References k k := by
  obtain ⟨pairs, hpairs, hrefs⟩ := hs.holds
  have hedge : s.graph.Edge = Function.swap s.cells.References := by
    funext u t
    exact propext (hpairs.edge_iff.trans (hrefs u t))
  have hloop := hs.acyclic k
  rwa [hedge, transGen_swap] at hloop

/-- The graph is rewired as the contents are stored. -/
lemma Consistent.holds_rewired (hs : s.Consistent) (n : String) (c : Contents) :
    ∃ pairs, (s.rewired n c).Holds pairs ∧
      ∀ u t, (u, t) ∈ pairs ↔ (s.cells.store n c).References t u := by
  obtain ⟨pairs, hpairs, hrefs⟩ := hs.holds
  refine ⟨_, hpairs.replaceDependees n c.variableSet.toList, fun u t => ?_⟩
  rw [mem_rewire, hrefs, Cells.references_store, Std.ExtTreeSet.mem_toList]

lemma Consistent.edge_rewired {t u : String} (hs : s.Consistent) :
    (s.rewired n c).Edge u t ↔ (s.cells.store n c).References t u := by
  obtain ⟨pairs, hpairs, hrefs⟩ := hs.holds_rewired n c
  rw [hpairs.edge_iff, hrefs]

/-- In the rewired graph the ways lead as the references lead back. -/
lemma Consistent.transGen_rewired_iff {t u : String} (hs : s.Consistent) :
    TransGen (s.rewired n c).Edge u t ↔ TransGen (s.cells.store n c).References t u := by
  have hedge : (s.rewired n c).Edge = Function.swap (s.cells.store n c).References := by
    funext u t
    exact propext hs.edge_rewired
  rw [hedge, transGen_swap]

/-- The cells that are not recalculated do not reference the edited one, nor were they stale. -/
lemma Consistent.current_of_not_mem (hs : s.Consistent)
    (hord : (s.rewired n c).IsOrder [n] order) {k : String} (hk : k ∉ order) :
    (s.cells.store n c).Current k := by
  have hn : n ∈ order := (hord.mem_iff n).mpr ⟨n, List.mem_singleton_self n, .refl⟩
  have hkn : k ≠ n := fun h => hk (h ▸ hn)
  refine (hs.current k).congr (Cells.getElem?_store_of_ne hkn) fun u hu => ?_
  refine Cells.getElem?_store_of_ne ?_
  rintro rfl
  have hedge : (s.rewired u c).Edge u k :=
    hs.edge_rewired.mpr (Cells.references_store.mpr (.inr ⟨hkn, hu⟩))
  exact hk (hord.ordered.mem_of_edge hn hedge)

lemma Consistent.commit_ok (hs : s.Consistent) (hn : s.naming.Admits n)
    (hc : ∀ u ∈ c.variableSet, s.naming.Admits u)
    (horder : (s.rewired n c).recalculationOrder [n] = .ok order) :
    { s with
      graph := s.rewired n c
      cells := order.foldl Cells.recalculate (s.cells.store n c)
      changed := true }.Consistent := by
  obtain ⟨former, hformer, -⟩ := hs.holds
  obtain ⟨pairs, hpairs, hrefs⟩ := hs.holds_rewired n c
  have hord := recalculationOrder_ok hpairs.indexed horder
  constructor
  · intro k cell hcell
    obtain ⟨before, hbefore, hsame⟩ := Cells.exists_of_foldl hcell
    rw [← hsame]
    exact Cells.isEmpty_of_store hs.not_isEmpty hbefore
  · intro k hk
    rcases Cells.mem_store (Cells.mem_of_foldl hk) with rfl | hk
    · exact hn
    · exact hs.admits_cell k hk
  · intro k hk
    obtain ⟨⟨u, t⟩, hp, hside⟩ := (hpairs.mem_keys k).mp hk
    have hboth : s.naming.Admits t ∧ s.naming.Admits u := by
      rcases Cells.references_store.mp ((hrefs u t).mp hp) with ⟨rfl, hu⟩ | ⟨-, hold⟩
      · exact ⟨hn, hc u hu⟩
      · exact hs.admits_of_references hold
    rcases hside with rfl | rfl
    · exact hboth.2
    · exact hboth.1
  · refine ⟨pairs, hpairs, fun u t => (hrefs u t).trans ?_⟩
    exact (Cells.references_congr Cells.map_contents_foldl).symm
  · exact hformer.acyclic_of_order hs.acyclic horder
  · exact Cells.current_foldl hord.ordered hord.nodup (fun t u => hs.edge_rewired.mpr)
      fun k hk => hs.current_of_not_mem hord hk

lemma Consistent.setContents (hs : s.Consistent) (name contents : Datum) :
    (s.setContents name contents).2.Consistent := by
  rcases s.setContents_cases name contents with ⟨e, hrefused⟩ | ⟨text, n, c, hn, hc, hcommit⟩
  · rw [hrefused]
    exact hs
  rw [hcommit]
  rcases s.commit_cases n c with ⟨cycle, -, hrefused⟩ | ⟨order, horder, hdone⟩
  · rw [hrefused]
    exact hs.withGraph fun pairs => restore_holds
  · rw [hdone]
    exact hs.commit_ok (admits_of_checkName hn) (fun u hu => Contents.admits_of_ofText hc hu) horder

end Sheet

end Recalc
