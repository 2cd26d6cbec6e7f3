import Mathlib
import Recalc.Proofs.Dependency.Agreement
import Recalc.Proofs.Dependency.Rewiring
import Recalc.Proofs.Dependency.Traversal
import Recalc.Sheet.Edit

/-!
# Recalculation on any graph

A sheet can be asked for the recalculation order of cells whatever pairs are in its graph. The loop
over the stack comes to an end; it tells a cycle just when one can be reached, and otherwise the
cells with all that depends on them, in an order that every pair of the graph agrees with.
-/

namespace Recalc

open DependencyGraph Relation

namespace DependencyGraph

variable {g : DependencyGraph} {pairs : Finset (String × String)} {roots order cycle : List String}
  {s t root : String}

/-- The key `t` depends on the key `s` in a set of pairs. -/
def Paired (pairs : Finset (String × String)) (s t : String) : Prop :=
  (s, t) ∈ pairs

/-- What comes of the traversal of the pairs of a graph from some roots. -/
structure Traverses (g : DependencyGraph) (pairs : Finset (String × String))
    (roots : List String) : Prop where
  ends : (Traversal.start roots).Ends g (g.recalculationOrder roots)
  error_iff : (∃ cycle, g.recalculationOrder roots = .error cycle) ↔
    ∃ r ∈ roots, ∃ k, ReflTransGen (Paired pairs) r k ∧ TransGen (Paired pairs) k k
  /-- The cycle begins and ends with the same key, and repeats no other. -/
  closed : ∀ cycle, g.recalculationOrder roots = .error cycle →
    ∃ k inner, cycle = k :: inner ++ [k] ∧ (k :: inner).Nodup
  isChain : ∀ cycle, g.recalculationOrder roots = .error cycle → cycle.IsChain (Paired pairs)
  reachable : ∀ cycle, g.recalculationOrder roots = .error cycle →
    ∀ k ∈ cycle, ∃ r ∈ roots, ReflTransGen (Paired pairs) r k
  nodup : ∀ order, g.recalculationOrder roots = .ok order → order.Nodup
  mem_iff : ∀ order, g.recalculationOrder roots = .ok order →
    ∀ k, k ∈ order ↔ ∃ r ∈ roots, ReflTransGen (Paired pairs) r k
  idxOf_lt : ∀ order, g.recalculationOrder roots = .ok order →
    ∀ s t, (s, t) ∈ pairs → s ∈ order → t ∈ order → order.idxOf s < order.idxOf t

/-! ### Orders and cycles -/

/-- In an order, a key comes before all that depends on it. -/
lemma IsOrder.idxOf_lt (h : g.IsOrder roots order) (hs : s ∈ order) (hst : g.Edge s t) :
    order.idxOf s < order.idxOf t := by
  obtain ⟨before, after, rfl⟩ := List.append_of_mem (h.ordered.mem_of_edge hs hst)
  have hbefore : s ∈ before := h.ordered.mem_before h.nodup hs hst
  have ht : t ∉ before := fun ht =>
    (List.nodup_append'.mp h.nodup).2.2 ht List.mem_cons_self
  rw [List.idxOf_append_of_mem hbefore, List.idxOf_append_of_notMem ht, List.idxOf_cons_self,
    Nat.add_zero]
  exact List.idxOf_lt_length_of_mem hbefore

/-- A walk leads from its first key to all of its keys. -/
lemma reaches_of_isChain {keys : List String} (h : keys.IsChain g.Edge)
    (hhead : keys.head? = some root) (hs : s ∈ keys) : ReflTransGen g.Edge root s := by
  induction keys generalizing root with
  | nil => cases hs
  | cons k keys ih =>
    cases hhead
    rcases List.mem_cons.mp hs with rfl | hs
    · exact .refl
    cases keys with
    | nil => cases hs
    | cons next keys =>
      obtain ⟨hedge, hchain⟩ := List.isChain_cons_cons.mp h
      exact .head hedge (ih hchain rfl hs)

/-- All keys of the cycle of a lasso can be reached from its root. -/
lemma Lasso.reaches (h : g.Lasso root cycle) (hs : s ∈ cycle) : ReflTransGen g.Edge root s := by
  obtain ⟨approach, k, inner, rfl, -, hchain, hhead⟩ := h
  refine reaches_of_isChain hchain ?_ ?_
  · rw [List.head?_append, hhead]
    rfl
  · rw [List.append_assoc]
    exact List.mem_append_right approach hs

lemma Lasso.isChain (h : g.Lasso root cycle) : cycle.IsChain g.Edge := by
  obtain ⟨approach, k, inner, rfl, -, hchain, -⟩ := h
  exact hchain.suffix ⟨approach, by simp⟩

lemma Lasso.exists_closed (h : g.Lasso root cycle) :
    ∃ k inner, cycle = k :: inner ++ [k] ∧ (k :: inner).Nodup := by
  obtain ⟨approach, k, inner, rfl, hnodup, -, -⟩ := h
  exact ⟨k, inner, rfl, hnodup.of_append_right⟩

/-- Every finite set of pairs makes up a graph. -/
lemma exists_holds (pairs : Finset (String × String)) : ∃ g : DependencyGraph, g.Holds pairs := by
  induction pairs using Finset.induction_on with
  | empty => exact ⟨∅, holds_empty⟩
  | insert p pairs _ ih =>
    obtain ⟨g, hg⟩ := ih
    exact ⟨g.add p.1 p.2, hg.add p.1 p.2⟩

lemma Holds.traverses (hg : g.Holds pairs) (roots : List String) : g.Traverses pairs roots := by
  have hedge : Paired pairs = g.Edge := by
    funext s t
    exact propext hg.edge_iff.symm
  constructor
  · exact Traversal.ends_recalculationOrder hg.indexed roots
  · rw [hedge]
    exact recalculationOrder_error_iff hg.indexed
  · intro cycle h
    obtain ⟨r, -, hlasso⟩ := recalculationOrder_error hg.indexed h
    exact hlasso.exists_closed
  · intro cycle h
    obtain ⟨r, -, hlasso⟩ := recalculationOrder_error hg.indexed h
    rw [hedge]
    exact hlasso.isChain
  · intro cycle h k hk
    obtain ⟨r, hr, hlasso⟩ := recalculationOrder_error hg.indexed h
    rw [hedge]
    exact ⟨r, hr, hlasso.reaches hk⟩
  · exact fun order h => (recalculationOrder_ok hg.indexed h).nodup
  · intro order h
    rw [hedge]
    exact (recalculationOrder_ok hg.indexed h).mem_iff
  · intro order h s t hst hs _
    exact (recalculationOrder_ok hg.indexed h).idxOf_lt hs (hg.edge_iff.mpr hst)

end DependencyGraph

namespace Sheet

/-- Every finite set of pairs may be the graph of a sheet, and then the recalculation order of valid
names is what a traversal of the pairs from their normal forms comes to. -/
theorem traverses_of_pairs (pairs : Finset (String × String)) :
    (∃ g : DependencyGraph, g.Holds pairs) ∧
    ∀ (s : Sheet) (names : List Datum) (roots : List String), s.graph.Holds pairs →
      names.mapM s.checkName = .ok roots →
      s.recalculationOrder names = (s.graph.recalculationOrder roots).mapError .circular ∧
        s.graph.Traverses pairs roots := by
  refine ⟨exists_holds pairs, fun s names roots hg hnames => ⟨?_, hg.traverses roots⟩⟩
  rw [recalculationOrder, hnames]

/-- A cycle beside a key that depends on itself, which no formula stands for. -/
def tangled : Sheet :=
  { empty .free defaultVersion with
    graph := ((((∅ : DependencyGraph).add "a" "b").add "b" "c").add "c" "b").add "d" "d" }

/-- The pairs of `tangled`. -/
def tangledPairs : Finset (String × String) :=
  insert ("d", "d") (insert ("c", "b") (insert ("b", "c") (insert ("a", "b") ∅)))

theorem traverses_tangled :
    tangled.graph.Holds tangledPairs ∧
    [.text "e", .text "a", .text "e"].mapM tangled.checkName = .ok ["e", "a", "e"] ∧
    tangled.recalculationOrder [.text "e", .text "a", .text "e"] =
      (tangled.graph.recalculationOrder ["e", "a", "e"]).mapError .circular ∧
    tangled.graph.Traverses tangledPairs ["e", "a", "e"] := by
  have hg : tangled.graph.Holds tangledPairs :=
    (((holds_empty.add "a" "b").add "b" "c").add "c" "b").add "d" "d"
  have hnames : [.text "e", .text "a", .text "e"].mapM tangled.checkName =
      .ok ["e", "a", "e"] := by cbv
  exact ⟨hg, hnames, (traverses_of_pairs tangledPairs).2 tangled _ _ hg hnames⟩

end Sheet

end Recalc
