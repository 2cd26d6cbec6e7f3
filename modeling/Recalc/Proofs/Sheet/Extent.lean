import Recalc.Proofs.Dependency.Agreement
import Recalc.Proofs.Sheet.Entered

/-!
# The extent of an edit

An edit that is accepted tells the cells that it touches: the edited cell, and after it every
formula that references it, directly or through other formulas. Each of them stands after the told
cells that it references. Contents change in the edited cell only, and values in told cells only.
-/

namespace Recalc

open DependencyGraph Relation

variable {naming : Naming} {text : String} {contents : Contents}

lemma Contents.ofText_empty (naming : Naming) : ofText naming "" = .ok (.text "") := by
  simp [ofText, ofOtherText, readNumber?, Number.readSign, Number.Numeral.read?,
    Number.Numeral.readPlaces, Number.Numeral.readPoint]

/-- Only the empty text enters empty contents. -/
lemma Contents.isEmpty_iff_of_ofText (h : ofText naming text = .ok contents) :
    contents.isEmpty = true ↔ text = "" := by
  constructor
  · intro hempty
    rcases ofText_cases h with rfl | ⟨x, rfl, -⟩ | ⟨f, rest, rfl, -⟩
    · simpa [isEmpty] using hempty
    · cases hempty
    · cases hempty
  · rintro rfl
    rw [ofText_empty] at h
    cases h
    rfl

namespace Sheet

variable {s s' : Sheet} {name entered : Datum} {n : String} {c : Contents} {order : List String}

/-- The second sheet is the first one with the given contents in the cell `n`, where the text was
entered, and with new values in the cells of the order. -/
structure Touches (s s' : Sheet) (n text : String) (c : Contents) (order : List String) :
    Prop where
  /-- After the edited cell come the formulas that reference it, directly or not. -/
  exists_rest : ∃ rest, order = n :: rest ∧ ∀ k, k ∈ rest ↔ TransGen s'.cells.References k n
  nodup : order.Nodup
  /-- Among the cells of the order, a formula comes after all that it references. -/
  mem_before : ∀ before k after, order = before ++ k :: after →
    ∀ u ∈ order, s'.cells.References k u → u ∈ before
  contents_self : s'.cells[n]?.map Cell.contents = if text = "" then none else some c
  contents_of_ne : ∀ k : String, k ≠ n →
    s'.cells[k]?.map Cell.contents = s.cells[k]?.map Cell.contents
  value_of_not_mem : ∀ k : String, k ∉ order →
    s'.cells[k]?.map Cell.value = s.cells[k]?.map Cell.value
  changed_eq : s'.changed = true
  naming_eq : s'.naming = s.naming
  version_eq : s'.version = s.version

/-- An edit that is accepted puts the contents of a text into a cell. -/
lemma exists_of_setContents_ok (h : (s.setContents name entered).1 = .ok order) :
    ∃ text n c, entered.text? = some text ∧ s.checkName name = .ok n ∧
      Contents.ofText s.naming text = .ok c ∧ s.setContents name entered = s.commit n c := by
  unfold setContents at h ⊢
  split at h
  next => cases h
  next text htext =>
    split at h
    next => cases h
    next n hn =>
      split at h
      next => cases h
      next c hc => exact ⟨text, n, c, htext, hn, hc, rfl⟩

lemma Consistent.touches_of_order (hs : s.Consistent)
    (hc : Contents.ofText s.naming text = .ok c)
    (horder : (s.rewired n c).recalculationOrder [n] = .ok order) :
    Touches s { s with
      graph := s.rewired n c
      cells := order.foldl Cells.recalculate (s.cells.store n c)
      changed := true } n text c order := by
  obtain ⟨pairs, hpairs, -⟩ := hs.holds_rewired n c
  have hord := recalculationOrder_ok hpairs.indexed horder
  have hrefs : (order.foldl Cells.recalculate (s.cells.store n c)).References =
      (s.cells.store n c).References := Cells.references_foldl
  obtain ⟨rest, rfl⟩ := hord.exists_eq_cons
  constructor
  · refine ⟨rest, rfl, fun k => ?_⟩
    rw [hrefs, hord.mem_tail_iff, hs.transGen_rewired_iff]
  · exact hord.nodup
  · intro before k after heq u hu href
    rw [hrefs] at href
    rw [heq] at hu hord
    exact hord.ordered.mem_before hord.nodup hu (hs.edge_rewired.mpr href)
  · rw [Cells.map_contents_foldl, Cells.map_contents_store_self]
    simp only [Contents.isEmpty_iff_of_ofText hc]
  · intro k hk
    rw [Cells.map_contents_foldl, Cells.getElem?_store_of_ne hk]
  · intro k hk
    have hkn : k ≠ n := fun h => hk (h ▸ List.mem_cons_self)
    rw [Cells.getElem?_foldl_of_not_mem hk, Cells.getElem?_store_of_ne hkn]
  · rfl
  · rfl
  · rfl

lemma Consistent.touches (hs : s.Consistent) (h : (s.setContents name entered).1 = .ok order) :
    ∃ text n c, entered.text? = some text ∧ s.checkName name = .ok n ∧
      Contents.ofText s.naming text = .ok c ∧
      Touches s (s.setContents name entered).2 n text c order := by
  obtain ⟨text, n, c, htext, hn, hc, hcommit⟩ := exists_of_setContents_ok h
  refine ⟨text, n, c, htext, hn, hc, ?_⟩
  rw [hcommit] at h ⊢
  rcases s.commit_cases n c with ⟨cycle, -, hrefused⟩ | ⟨told, horder, hdone⟩
  · rw [hrefused] at h
    cases h
  · rw [hdone] at h ⊢
    cases h
    exact hs.touches_of_order hc horder

/-- An edit that is accepted touches what it tells, and nothing else. -/
theorem Reachable.touches_of_accepted (hs : s.Reachable)
    (h : (s.setContents name entered).1 = .ok order) :
    ∃ text n c, entered.text? = some text ∧ s.checkName name = .ok n ∧
      Contents.ofText s.naming text = .ok c ∧
      Touches s (s.setContents name entered).2 n text c order :=
  hs.consistent.touches h

theorem touches_diamond :
    diamond.Reachable ∧
    (diamond.setContents (.text "b") (.text "=d/b2")).1 = .ok ["b", "c", "a"] ∧
    ∃ text n c, (Datum.text "=d/b2").text? = some text ∧ diamond.checkName (.text "b") = .ok n ∧
      Contents.ofText diamond.naming text = .ok c ∧
      Touches diamond (diamond.setContents (.text "b") (.text "=d/b2")).2 n text c
        ["b", "c", "a"] := by
  have haccepted : (diamond.setContents (.text "b") (.text "=d/b2")).1 =
      .ok ["b", "c", "a"] := by cbv
  exact ⟨reachable_diamond, haccepted, reachable_diamond.touches_of_accepted haccepted⟩

end Sheet

end Recalc
