import Recalc.Proofs.Sheet.Reachable

/-!
# Circular edits

An edit is refused as circular exactly when the new formula mentions the edited cell, or a cell
that leads back to it through the formulas of the others. The old contents of the edited cell play
no part in this. The path that is told begins and ends at the edited cell.
-/

namespace Recalc

open DependencyGraph Relation

/-- The cell `t` references `u`, itself or through the formulas of cells, none of which is `n`. -/
def Cells.ReferencesBeside (cells : Cells) (n t u : String) : Prop :=
  TransGen (fun t u => t ≠ n ∧ cells.References t u) t u

namespace Sheet

variable {s : Sheet} {name : Datum} {n text v : String} {c : Contents} {path : List String}

lemma commit_circular_iff : (s.commit n c).1 = .error (.circular path) ↔
    (s.rewired n c).recalculationOrder [n] = .error path := by
  rcases s.commit_cases n c with ⟨cycle, hcycle, hrefused⟩ | ⟨order, horder, hdone⟩
  · rw [hrefused, hcycle, Except.error.injEq, Except.error.injEq, EditError.circular.injEq]
  · rw [hdone, horder]
    exact iff_of_false nofun nofun

/-- Beside a key, the graph leads from it as the references lead back. -/
lemma Consistent.transGen_beside_iff (hs : s.Consistent) :
    TransGen (s.graph.EdgeBeside n) n v ↔ s.cells.ReferencesBeside n v n := by
  obtain ⟨pairs, hpairs, hrefs⟩ := hs.holds
  have hedge : s.graph.EdgeBeside n =
      Function.swap fun t u => t ≠ n ∧ s.cells.References t u := by
    funext u t
    rw [EdgeBeside, hpairs.edge_iff, hrefs]
  rw [hedge, transGen_swap, Cells.ReferencesBeside]

/-- An edit is refused as circular exactly when it is, and the path that is told shows it. -/
theorem Reachable.circular_iff (hs : s.Reachable) (hn : s.checkName name = .ok n)
    (hc : Contents.ofText s.naming text = .ok c) :
    ((∃ path, (s.setContents name (.text text)).1 = .error (.circular path)) ↔
      ∃ f, c = .formula f ∧ ∃ v ∈ f.variableSet, v = n ∨ s.cells.ReferencesBeside n v n) ∧
    ∀ path, (s.setContents name (.text text)).1 = .error (.circular path) →
      (∃ inner, path = n :: inner ++ [n] ∧ (n :: inner).Nodup) ∧
        path.IsChain fun u t => (s.cells.store n c).References t u := by
  have hcons := hs.consistent
  obtain ⟨pairs, hpairs, -⟩ := hcons.holds
  rw [setContents_eq_commit hn hc]
  constructor
  · have hexists : (∃ path, (s.commit n c).1 = .error (.circular path)) ↔
        ∃ v ∈ c.variableSet, v = n ∨ s.cells.ReferencesBeside n v n := by
      simp only [commit_circular_iff, rewired, hpairs.exists_cycle_iff hcons.acyclic,
        Std.ExtTreeSet.mem_toList, hcons.transGen_beside_iff]
    rw [hexists]
    constructor
    · rintro ⟨v, hv, hback⟩
      obtain ⟨f, rfl, hv⟩ := Contents.mem_variableSet_iff.mp hv
      exact ⟨f, rfl, v, hv, hback⟩
    · rintro ⟨f, rfl, v, hv, hback⟩
      exact ⟨v, hv, hback⟩
  · intro path hpath
    obtain ⟨hclosed, hchain⟩ :=
      hpairs.cycle_of_error hcons.acyclic (commit_circular_iff.mp hpath)
    exact ⟨hclosed, hchain.imp fun u t => hcons.edge_rewired.mp⟩

theorem circular_iff_diamond :
    diamond.Reachable ∧ diamond.checkName (.text "b") = .ok "b" ∧
    Contents.ofText diamond.naming "=c" = .ok (.formula ⟨[.variable "c"]⟩) ∧
    ((∃ path, (diamond.setContents (.text "b") (.text "=c")).1 = .error (.circular path)) ↔
      ∃ f, Contents.formula ⟨[.variable "c"]⟩ = .formula f ∧
        ∃ v ∈ f.variableSet, v = "b" ∨ diamond.cells.ReferencesBeside "b" v "b") ∧
    ∀ path, (diamond.setContents (.text "b") (.text "=c")).1 = .error (.circular path) →
      (∃ inner, path = "b" :: inner ++ ["b"] ∧ ("b" :: inner).Nodup) ∧
        path.IsChain fun u t =>
          (diamond.cells.store "b" (.formula ⟨[.variable "c"]⟩)).References t u := by
  have hname : diamond.checkName (.text "b") = .ok "b" := by cbv
  have htext : Contents.ofText diamond.naming "=c" = .ok (.formula ⟨[.variable "c"]⟩) := by cbv
  exact ⟨reachable_diamond, hname, htext, reachable_diamond.circular_iff hname htext⟩

end Sheet

end Recalc
