import Recalc.Proofs.Sheet.Entered

/-!
# Errors go along references

A formula shows a number only when every cell that it references is stored and shows one, and the
same holds of what those cells reference in turn. So a cell that is not stored, or shows a text or
an error, makes errors of all formulas that depend on it.
-/

namespace Recalc

open Relation

variable {cells : Cells} {t u : String} {x : Float}

namespace Cells

/-- The cell is stored and shows a number. -/
def ShowsNumber (cells : Cells) (u : String) : Prop :=
  ∃ cell x, cells[u]? = some cell ∧ cell.value = .number x

/-- The cell is not stored, or it shows a text or an error. -/
def LacksNumber (cells : Cells) (u : String) : Prop :=
  cells[u]? = none ∨ ∃ cell, cells[u]? = some cell ∧
    ((∃ text, cell.value = .text text) ∨ ∃ e, cell.value = .error e)

lemma LacksNumber.not_showsNumber (h : cells.LacksNumber u) : ¬cells.ShowsNumber u := by
  rintro ⟨cell, x, hcell, hx⟩
  rcases h with hnone | ⟨cell', hcell', htext | herror⟩
  · rw [hnone] at hcell
    cases hcell
  · rw [hcell, Option.some.injEq] at hcell'
    obtain ⟨text, htext⟩ := htext
    rw [← hcell', hx] at htext
    cases htext
  · rw [hcell, Option.some.injEq] at hcell'
    obtain ⟨e, he⟩ := herror
    rw [← hcell', hx] at he
    cases he

/-- The number of a cell is asked for with success just when it shows one. -/
lemma showsNumber_of_number (h : cells.number u = .ok x) : cells.ShowsNumber u := by
  unfold number at h
  split at h
  next y hy =>
    obtain ⟨cell, hcell, hvalue⟩ := Option.bind_eq_some_iff.mp hy
    refine ⟨cell, y, hcell, ?_⟩
    unfold Value.number? at hvalue
    split at hvalue
    next z hz =>
      cases hvalue
      exact hz
    next => cases hvalue
  next => cases h

end Cells

namespace Sheet

variable {s : Sheet} {f : Formula} {cell : Cell}

/-- The value of a stored formula is that of evaluating it now. -/
lemma Reachable.value_formula (hs : s.Reachable) (hcell : s.cells[t]? = some cell)
    (hf : cell.contents = .formula f) :
    (∃ x, f.evaluate s.cells.number = .ok x ∧ cell.value = .number x) ∨
      ∃ e, f.evaluate s.cells.number = .error e ∧ cell.value = .error e := by
  have hvalue := hs.consistent.current t cell hcell
  rw [hf, Contents.value] at hvalue
  split at hvalue
  next x hx => exact .inl ⟨x, hx, hvalue⟩
  next e he => exact .inr ⟨e, he, hvalue⟩

/-- One step along the references: a formula with a number references cells with numbers. -/
lemma Reachable.showsNumber_of_references (hs : s.Reachable) (href : s.cells.References t u)
    (ht : s.cells.ShowsNumber t) : s.cells.ShowsNumber u := by
  obtain ⟨cell, x, hcell, hx⟩ := ht
  obtain ⟨f, hcontents, hu⟩ := href
  rw [hcell, Option.map_some, Option.some.injEq] at hcontents
  obtain ⟨text, htext⟩ := hs.entered.contents t cell hcell
  rw [hcontents] at htext
  obtain ⟨rest, hparse⟩ := Contents.exists_parse htext
  rcases hs.value_formula hcell hcontents with ⟨y, hy, -⟩ | ⟨e, -, he⟩
  · obtain ⟨z, hz⟩ := Formula.exists_number_of_evaluate hparse hy hu
    exact Cells.showsNumber_of_number hz
  · rw [hx] at he
    cases he

lemma Reachable.showsNumber_of_transGen (hs : s.Reachable)
    (href : TransGen s.cells.References t u) (ht : s.cells.ShowsNumber t) :
    s.cells.ShowsNumber u := by
  induction href with
  | single href => exact hs.showsNumber_of_references href ht
  | tail _ href ih => exact hs.showsNumber_of_references href ih

/-- A formula shows an error when it references, directly or through other formulas, a cell without
a number. So when it shows a number, all that it references in this way show numbers. -/
theorem Reachable.error_of_lacksNumber (hs : s.Reachable) (hcell : s.cells[t]? = some cell)
    (hf : cell.contents = .formula f) :
    (∀ u, TransGen s.cells.References t u → s.cells.LacksNumber u → ∃ e, cell.value = .error e) ∧
      ∀ x, cell.value = .number x →
        ∀ u, TransGen s.cells.References t u → s.cells.ShowsNumber u := by
  constructor
  · intro u href hu
    rcases hs.value_formula hcell hf with ⟨x, -, hx⟩ | ⟨e, -, he⟩
    · exact absurd (hs.showsNumber_of_transGen href ⟨cell, x, hcell, hx⟩) hu.not_showsNumber
    · exact ⟨e, he⟩
  · intro x hx u href
    exact hs.showsNumber_of_transGen href ⟨cell, x, hcell, hx⟩

/-- The formula of `a` references `c`, which mentions `b`, and nothing is in `b`. -/
theorem error_of_lacksNumber_diamond : ∃ cell,
    diamond.Reachable ∧ diamond.cells["a"]? = some cell ∧
    cell.contents = .formula ⟨[.variable "b", .operator .times, .variable "c"]⟩ ∧
    TransGen diamond.cells.References "a" "b" ∧ diamond.cells.LacksNumber "b" ∧
    ∃ e, cell.value = .error e := by
  have ha : diamond.cells["a"]?.map Cell.contents =
      some (.formula ⟨[.variable "b", .operator .times, .variable "c"]⟩) := by cbv
  have hc : diamond.cells["c"]?.map Cell.contents = some (.formula ⟨[.variable "b"]⟩) := by cbv
  have hb : diamond.cells["b"]? = none := by cbv
  obtain ⟨cell, hcell, hf⟩ := Option.map_eq_some_iff.mp ha
  have hfirst : diamond.cells.References "a" "c" := ⟨_, ha, by decide⟩
  have hsecond : diamond.cells.References "c" "b" := ⟨_, hc, by decide⟩
  have href : TransGen diamond.cells.References "a" "b" := .tail (.single hfirst) hsecond
  exact ⟨cell, reachable_diamond, hcell, hf, href, .inl hb,
    (reachable_diamond.error_of_lacksNumber hcell hf).1 "b" href (.inl hb)⟩

end Sheet

end Recalc
