import Recalc.Proofs.Dependency.Agreement
import Recalc.Proofs.Formula.Canonical
import Recalc.Proofs.Sheet.Entered

/-!
# Sheets without history

What a sheet shows and answers depends on the stored contents alone. The values are the only ones
that the formulas allow, since no cell references itself, and the dependencies are those of the
formulas, so nothing that an edit asks for can differ between sheets with the same contents.
-/

namespace Recalc

open DependencyGraph

/-- The contents are the same: numbers in all bits, formulas when they are equal. -/
def Contents.Same : Contents → Contents → Prop
  | .text a, .text b => a = b
  | .number x, .number y => x.toBits = y.toBits
  | .formula f, .formula g => (f == g) = true
  | _, _ => False

/-- Entered contents that are the same cannot be told apart. -/
lemma Contents.Same.eq {c c' : Contents} {naming naming' : Naming} {text text' : String}
    (h : Same c c') (hc : ofText naming text = .ok c) (hc' : ofText naming' text' = .ok c') :
    c = c' := by
  cases c with
  | text a =>
    cases c' with
    | text b => exact congrArg _ h
    | _ => cases h
  | number x =>
    cases c' with
    | number y => rw [Number.toBits_injective h]
    | _ => cases h
  | formula f =>
    cases c' with
    | formula g =>
      obtain ⟨rest, hf⟩ := exists_parse hc
      obtain ⟨rest', hg⟩ := exists_parse hc'
      rw [Formula.eq_of_beq_of_parse hf hg h]
    | _ => cases h

lemma Contents.Same.refl (c : Contents) : Same c c := by
  cases c with
  | text a => rfl
  | number x => rfl
  | formula f => exact beq_self_eq_true f.text

namespace Sheet

/-- Two sheets under one policy hold the same contents in the same cells. -/
structure SameContents (s s' : Sheet) : Prop where
  naming_eq : s.naming = s'.naming
  contents : ∀ k : String, Option.Rel Contents.Same (s.cells[k]?.map Cell.contents)
    (s'.cells[k]?.map Cell.contents)

/-- The sheet after edits, accepted or refused, one after another. -/
def edited (s : Sheet) (edits : List (Datum × Datum)) : Sheet :=
  edits.foldl (fun s edit => (s.setContents edit.1 edit.2).2) s

/-- Nothing that is asked of the sheets tells them apart. -/
structure Agree (s s' : Sheet) : Prop where
  value_eq : ∀ k : String, s.cells[k]?.map Cell.value = s'.cells[k]?.map Cell.value
  directDependents_eq : ∀ name, s.directDependents name = s'.directDependents name
  recalculationOrder_eq : ∀ names, s.recalculationOrder names = s'.recalculationOrder names
  setContents_eq : ∀ name contents,
    (s.setContents name contents).1 = (s'.setContents name contents).1

variable {s s' : Sheet} {g h : DependencyGraph} {pairs pairs' : Finset (String × String)}
  {name : Datum} {n : String} {c : Contents}

/-! ### Values and dependencies -/

lemma cell_eq {cell cell' : Cell} (hcontents : cell.contents = cell'.contents)
    (hvalue : cell.value = cell'.value) : cell = cell' := by
  cases cell
  cases cell'
  cases hcontents
  cases hvalue
  rfl

/-- The cells of consistent sheets are the same when their contents are. -/
theorem Consistent.cells_eq (hs : s.Consistent) (hs' : s'.Consistent)
    (h : ∀ k : String, s.cells[k]?.map Cell.contents = s'.cells[k]?.map Cell.contents) :
    s.cells = s'.cells := by
  obtain ⟨pairs, hpairs, hrefs⟩ := hs.holds
  obtain ⟨order, horder⟩ := hs.acyclic.exists_order hpairs.indexed s.cells.keys
  have hstored (k : String) (hk : k ∉ order) : s.cells[k]? = none := by
    by_contra hsome
    refine hk ((horder.mem_iff k).mpr ⟨k, ?_, .refl⟩)
    rw [Std.ExtTreeMap.mem_keys, Std.ExtTreeMap.mem_iff_isSome_getElem?]
    exact Option.isSome_iff_ne_none.mpr hsome
  have hnone (k : String) (hk : s.cells[k]? = none) : s.cells[k]? = s'.cells[k]? := by
    have hmap := h k
    rw [hk, Option.map_none, eq_comm, Option.map_eq_none_iff] at hmap
    rw [hk, hmap]
  -- Along the order, the cells that a cell references have their values before it.
  have hordered : ∀ k ∈ order, s.cells[k]? = s'.cells[k]? := by
    refine horder.ordered.induction horder.nodup fun t _ hbefore => ?_
    cases hcell : s.cells[t]? with
    | none => exact hcell ▸ hnone t hcell
    | some cell =>
      have hmap := h t
      rw [hcell, Option.map_some, eq_comm, Option.map_eq_some_iff] at hmap
      obtain ⟨cell', hcell', hcontents⟩ := hmap
      rw [hcell', cell_eq hcontents.symm]
      rw [hs.current t cell hcell, hs'.current t cell' hcell', hcontents]
      refine Contents.value_congr fun u hu => Cells.number_congr ?_
      by_cases hmem : u ∈ order
      · refine hbefore u hmem (hpairs.edge_iff.mpr ((hrefs u t).mpr ?_))
        exact Cells.references_iff.mpr ⟨cell, hcell, hu⟩
      · exact hnone u (hstored u hmem)
  apply Std.ExtTreeMap.ext_getElem?
  intro k
  by_cases hk : k ∈ order
  · exact hordered k hk
  · exact hnone k (hstored k hk)

lemma alike_of_holds (hg : g.Holds pairs) (hh : h.Holds pairs')
    (hiff : ∀ u t, (u, t) ∈ pairs ↔ (u, t) ∈ pairs') : g.Alike h := by
  obtain rfl : pairs = pairs' := Finset.ext fun p => hiff p.1 p.2
  exact hg.alike hh

/-- The graphs of consistent sheets answer alike when the cells reference alike. -/
lemma Consistent.alike (hs : s.Consistent) (hs' : s'.Consistent) (hcells : s.cells = s'.cells) :
    s.graph.Alike s'.graph := by
  obtain ⟨pairs, hpairs, hrefs⟩ := hs.holds
  obtain ⟨pairs', hpairs', hrefs'⟩ := hs'.holds
  exact alike_of_holds hpairs hpairs' fun u t => by rw [hrefs, hrefs', hcells]

lemma Consistent.indexed (hs : s.Consistent) : s.graph.Indexed := by
  obtain ⟨pairs, hpairs, -⟩ := hs.holds
  exact hpairs.indexed

/-- Rewired for the same contents, the graphs have the same orders and cycles when the cells
reference alike. -/
lemma Consistent.recalculationOrder_rewired_of_references (hs : s.Consistent) (hs' : s'.Consistent)
    (hrefs : ∀ t u, s.cells.References t u ↔ s'.cells.References t u) (n : String) (c : Contents)
    (roots : List String) :
    (s.rewired n c).recalculationOrder roots = (s'.rewired n c).recalculationOrder roots := by
  obtain ⟨pairs, hpairs, hmem⟩ := hs.holds_rewired n c
  obtain ⟨pairs', hpairs', hmem'⟩ := hs'.holds_rewired n c
  have halike := alike_of_holds hpairs hpairs' fun u t => by
    rw [hmem, hmem', Cells.references_store, Cells.references_store, hrefs]
  exact recalculationOrder_congr hpairs.indexed hpairs'.indexed halike.dependentsOf_eq roots

lemma Consistent.recalculationOrder_rewired (hs : s.Consistent) (hs' : s'.Consistent)
    (hcells : s.cells = s'.cells) (n : String) (c : Contents) (roots : List String) :
    (s.rewired n c).recalculationOrder roots = (s'.rewired n c).recalculationOrder roots :=
  hs.recalculationOrder_rewired_of_references hs' (fun t u => by rw [hcells]) n c roots

/-- Contents that close no cycle of references are accepted. -/
lemma Consistent.exists_commit (hs : s.Consistent)
    (hacyclic : ∀ k, ¬Relation.TransGen (s.cells.store n c).References k k) :
    ∃ order, s.commit n c = (.ok order, { s with
      graph := s.rewired n c
      cells := order.foldl Cells.recalculate (s.cells.store n c)
      changed := true }) := by
  obtain ⟨pairs, hpairs, -⟩ := hs.holds_rewired n c
  have hrewired : (s.rewired n c).Acyclic :=
    fun k hloop => hacyclic k (hs.transGen_rewired_iff.mp hloop)
  obtain ⟨order, horder⟩ := hrewired.exists_recalculationOrder hpairs.indexed [n]
  rcases s.commit_cases n c with ⟨cycle, hcycle, -⟩ | ⟨told, -, hdone⟩
  · rw [horder] at hcycle
    cases hcycle
  · exact ⟨told, hdone⟩

/-! ### Twins -/

/-- Two consistent sheets with the same cells under one policy. -/
structure Twins (s s' : Sheet) : Prop where
  consistent : s.Consistent
  consistent' : s'.Consistent
  naming_eq : s.naming = s'.naming
  cells_eq : s.cells = s'.cells

lemma Twins.checkName_eq (h : Twins s s') (name : Datum) :
    s.checkName name = s'.checkName name := by
  rw [checkName, checkName, h.naming_eq]

lemma Twins.commit (h : Twins s s') (n : String) (c : Contents) :
    (s.commit n c).1 = (s'.commit n c).1 ∧ (s.commit n c).2.cells = (s'.commit n c).2.cells := by
  have horder := h.consistent.recalculationOrder_rewired h.consistent' h.cells_eq n c [n]
  rcases s.commit_cases n c with ⟨cycle, hcycle, hrefused⟩ | ⟨order, hok, hdone⟩ <;>
    rcases s'.commit_cases n c with ⟨cycle', hcycle', hrefused'⟩ | ⟨order', hok', hdone'⟩
  · rw [hcycle, hcycle', Except.error.injEq] at horder
    rw [hrefused, hrefused', horder]
    exact ⟨rfl, h.cells_eq⟩
  · rw [hcycle, hok'] at horder
    cases horder
  · rw [hok, hcycle'] at horder
    cases horder
  · rw [hok, hok', Except.ok.injEq] at horder
    rw [hdone, hdone', horder]
    exact ⟨rfl, by simp only [h.cells_eq]⟩

lemma naming_setContents (s : Sheet) (name contents : Datum) :
    (s.setContents name contents).2.naming = s.naming := by
  rcases s.setContents_cases name contents with ⟨e, hrefused⟩ | ⟨text, n, c, -, -, hcommit⟩
  · rw [hrefused]
  rw [hcommit]
  rcases s.commit_cases n c with ⟨cycle, -, hrefused⟩ | ⟨order, -, hdone⟩
  · rw [hrefused]
  · rw [hdone]

lemma naming_edited (s : Sheet) (edits : List (Datum × Datum)) :
    (s.edited edits).naming = s.naming := by
  induction edits generalizing s with
  | nil => rfl
  | cons edit edits ih => rw [edited, List.foldl_cons, ← edited, ih, naming_setContents]

/-- An edit has one answer on twins and leaves twins. -/
lemma Twins.setContents (h : Twins s s') (name contents : Datum) :
    (s.setContents name contents).1 = (s'.setContents name contents).1 ∧
      Twins (s.setContents name contents).2 (s'.setContents name contents).2 := by
  suffices hboth : (s.setContents name contents).1 = (s'.setContents name contents).1 ∧
      (s.setContents name contents).2.cells = (s'.setContents name contents).2.cells by
    refine ⟨hboth.1, h.consistent.setContents name contents,
      h.consistent'.setContents name contents, ?_, hboth.2⟩
    rw [naming_setContents, naming_setContents, h.naming_eq]
  unfold Sheet.setContents
  rw [h.checkName_eq, h.naming_eq]
  split
  next => exact ⟨rfl, h.cells_eq⟩
  next =>
    split
    next => exact ⟨rfl, h.cells_eq⟩
    next =>
      split
      next => exact ⟨rfl, h.cells_eq⟩
      next => exact h.commit _ _

lemma Twins.edited (h : Twins s s') (edits : List (Datum × Datum)) :
    Twins (s.edited edits) (s'.edited edits) := by
  induction edits generalizing s s' with
  | nil => exact h
  | cons edit edits ih => exact ih (h.setContents edit.1 edit.2).2

/-- Nothing tells twins apart. -/
lemma Twins.agree (h : Twins s s') : Agree s s' := by
  have halike := h.consistent.alike h.consistent' h.cells_eq
  constructor
  · intro k
    rw [h.cells_eq]
  · intro name
    rw [directDependents, directDependents, h.checkName_eq, funext halike.dependentsOf_eq]
  · intro names
    have hcheck : s.checkName = s'.checkName := funext h.checkName_eq
    have horder := recalculationOrder_congr h.consistent.indexed h.consistent'.indexed
      halike.dependentsOf_eq
    rw [Sheet.recalculationOrder, Sheet.recalculationOrder, hcheck]
    simp only [horder]
  · intro name contents
    exact (h.setContents name contents).1

lemma SameContents.twins (h : SameContents s s') (hs : s.Reachable) (hs' : s'.Reachable) :
    Twins s s' := by
  refine ⟨hs.consistent, hs'.consistent, h.naming_eq, ?_⟩
  refine hs.consistent.cells_eq hs'.consistent fun k => ?_
  have hsame := h.contents k
  cases hcell : s.cells[k]? with
  | none =>
    cases hcell' : s'.cells[k]? with
    | none => rfl
    | some cell' =>
      rw [hcell, hcell'] at hsame
      cases hsame
  | some cell =>
    cases hcell' : s'.cells[k]? with
    | none =>
      rw [hcell, hcell'] at hsame
      cases hsame
    | some cell' =>
      rw [hcell, hcell'] at hsame
      cases hsame with
      | some hsame =>
        obtain ⟨text, hc⟩ := hs.entered.contents k cell hcell
        obtain ⟨text', hc'⟩ := hs'.entered.contents k cell' hcell'
        rw [Option.map_some, Option.map_some, hsame.eq hc hc']

/-! ### Sheets with the same contents -/

/-- However they came about, reachable sheets with the same contents agree, and they go on to do so
whatever is edited in both. -/
theorem Reachable.agree_of_sameContents (hs : s.Reachable) (hs' : s'.Reachable)
    (h : SameContents s s') (edits : List (Datum × Datum)) :
    Agree (s.edited edits) (s'.edited edits) :=
  ((h.twins hs hs').edited edits).agree

/-- The names of the cells in order, each with the contents. -/
def contentsList (s : Sheet) : List (String × Contents) :=
  s.cells.toList.map fun entry => (entry.1, entry.2.contents)

lemma mem_contentsList {k : String} :
    (k, c) ∈ s.contentsList ↔ s.cells[k]?.map Cell.contents = some c := by
  simp [contentsList, Std.ExtTreeMap.mem_toList_iff_getElem?_eq_some]

lemma SameContents.of_contentsList (hnaming : s.naming = s'.naming)
    (h : s.contentsList = s'.contentsList) : SameContents s s' := by
  refine ⟨hnaming, fun k => ?_⟩
  have hsame : s.cells[k]?.map Cell.contents = s'.cells[k]?.map Cell.contents := by
    ext c
    rw [← mem_contentsList, ← mem_contentsList, h]
  rw [hsame]
  cases s'.cells[k]?.map Cell.contents with
  | none => exact .none
  | some c => exact .some (Contents.Same.refl c)

lemma Reachable.edited (hs : s.Reachable) (edits : List (Datum × Datum)) :
    (s.edited edits).Reachable := by
  induction edits generalizing s with
  | nil => exact hs
  | cons edit edits ih => exact ih (hs.setContents edit.1 edit.2)

/-- The contents of `diamond`, after a reference that closed a cycle, other formulas and a text. -/
def detour : Sheet :=
  (empty .free defaultVersion).edited [(.text "c", .text "=a"), (.text "a", .text "=b*c"),
    (.text "c", .text "= b"), (.text "d", .text "x"), (.text "a", .text "=(b*c)"),
    (.text "a", .text "=b * c"), (.text "d", .text "")]

theorem agree_detour : diamond.Reachable ∧ detour.Reachable ∧ SameContents diamond detour ∧
    Agree (diamond.edited [(.text "b", .text "=a")]) (detour.edited [(.text "b", .text "=a")]) := by
  have hcontents : diamond.contentsList = detour.contentsList := by
    have hlist : diamond.contentsList = [("a", .formula ⟨[.variable "b", .operator .times,
        .variable "c"]⟩), ("c", .formula ⟨[.variable "b"]⟩)] := by cbv
    rw [hlist]
    cbv
  have hnaming : diamond.naming = detour.naming := by
    rw [detour, naming_edited, diamond, naming_setContents, naming_setContents]
  have hsame : SameContents diamond detour := .of_contentsList hnaming hcontents
  have hdetour : detour.Reachable := (Reachable.empty .free defaultVersion).edited _
  exact ⟨reachable_diamond, hdetour, hsame,
    reachable_diamond.agree_of_sameContents hdetour hsame _⟩

end Sheet

end Recalc
