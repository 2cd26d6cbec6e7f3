import Recalc.Proofs.Dependency.Search

/-!
# Recalculation orders

The answer of the search on any graph: an order of the roots and all that depends on them, in which
every key stands before its dependents, or a cycle that is reachable from a root. The cycle is
found exactly when there is one.
-/

namespace Recalc.DependencyGraph

open Relation

variable {g : DependencyGraph} {roots order cycle keys : List String} {k s t root : String}

/-- The roots and all that depends on them, each once, and before its dependents. -/
structure IsOrder (g : DependencyGraph) (roots order : List String) : Prop where
  nodup : order.Nodup
  mem_iff : ∀ k, k ∈ order ↔ ∃ r ∈ roots, ReflTransGen g.Edge r k
  ordered : g.Ordered order

/-! ### Lists in which keys stand before their dependents -/

lemma Ordered.mem_of_edge (h : g.Ordered keys) (hs : s ∈ keys) (hst : g.Edge s t) : t ∈ keys := by
  induction keys with
  | nil => simp at hs
  | cons k rest ih =>
    rcases List.mem_cons.mp hs with rfl | hs
    · exact List.mem_cons_of_mem _ (h.1 t hst)
    · exact List.mem_cons_of_mem _ (ih h.2 hs)

lemma Ordered.mem_of_reaches (h : g.Ordered keys) (hs : s ∈ keys) (hst : ReflTransGen g.Edge s t) :
    t ∈ keys := by
  induction hst with
  | refl => exact hs
  | tail _ hedge ih => exact h.mem_of_edge ih hedge

/-- A key that depends on itself has no place in such a list. -/
lemma Ordered.not_transGen (h : g.Ordered keys) (hnd : keys.Nodup) (hk : k ∈ keys) :
    ¬TransGen g.Edge k k := by
  induction keys with
  | nil => simp at hk
  | cons x rest ih =>
    obtain ⟨hx, hnd⟩ := List.nodup_cons.mp hnd
    rcases List.mem_cons.mp hk with rfl | hk
    · intro hloop
      obtain ⟨t, hkt, htk⟩ := TransGen.head'_iff.mp hloop
      exact hx (h.2.mem_of_reaches (h.1 t hkt) htk)
    · exact ih h.2 hnd hk

/-! ### The order from one root -/

/-- The root itself comes first. -/
lemma IsOrder.exists_eq_cons (h : g.IsOrder [root] order) : ∃ rest, order = root :: rest := by
  have hroot : root ∈ order := (h.mem_iff root).mpr ⟨root, List.mem_singleton_self root, .refl⟩
  cases order with
  | nil => simp at hroot
  | cons k rest =>
    rcases List.mem_cons.mp hroot with rfl | hrest
    · exact ⟨rest, rfl⟩
    · -- The first key depends on the root, which comes after it.
      obtain ⟨r, hr, hway⟩ := (h.mem_iff k).mp List.mem_cons_self
      obtain rfl := List.mem_singleton.mp hr
      exact absurd (h.ordered.2.mem_of_reaches hrest hway) (List.nodup_cons.mp h.nodup).1

lemma IsOrder.mem_tail_iff {rest : List String} (h : g.IsOrder [root] (root :: rest)) :
    k ∈ rest ↔ TransGen g.Edge root k := by
  constructor
  · intro hk
    obtain ⟨r, hr, hway⟩ := (h.mem_iff k).mp (List.mem_cons_of_mem root hk)
    obtain rfl := List.mem_singleton.mp hr
    refine (reflTransGen_iff_eq_or_transGen.mp hway).resolve_left ?_
    rintro rfl
    exact (List.nodup_cons.mp h.nodup).1 hk
  · intro hway
    obtain ⟨t, hedge, htk⟩ := TransGen.head'_iff.mp hway
    exact h.ordered.2.mem_of_reaches (h.ordered.1 t hedge) htk

/-! ### Cycles -/

lemma transGen_of_isChain {a b : String} {l : List String} (h : (a :: l ++ [b]).IsChain g.Edge) :
    TransGen g.Edge a b := by
  induction l generalizing a with
  | nil => exact .single (List.isChain_pair.mp h)
  | cons x l ih =>
    obtain ⟨hax, hrest⟩ := List.isChain_cons_cons.mp h
    exact .head hax (ih hrest)

/-- The cycle of a lasso can be reached from its root. -/
lemma Lasso.exists_loop (h : g.Lasso root cycle) :
    ∃ k, ReflTransGen g.Edge root k ∧ TransGen g.Edge k k := by
  obtain ⟨approach, k, inner, -, -, hchain, hhead⟩ := h
  have hloop : (k :: inner ++ [k]).IsChain g.Edge := hchain.suffix ⟨approach, by simp⟩
  refine ⟨k, ?_, transGen_of_isChain hloop⟩
  cases approach with
  | nil =>
    cases hhead
    exact .refl
  | cons a approach =>
    cases hhead
    have hway : (root :: approach ++ [k]).IsChain g.Edge := hchain.prefix ⟨inner ++ [k], by simp⟩
    exact (transGen_of_isChain hway).to_reflTransGen

/-! ### The answer of the search -/

theorem recalculationOrder_ok (hg : g.Indexed) (h : g.recalculationOrder roots = .ok order) :
    g.IsOrder roots order := by
  obtain ⟨all, hend, -, hroots⟩ := searching_nil.of_searchAll_ok hg (List.Subset.refl roots) h
  have hall : ∀ k, k ∈ all ↔ k ∈ order := by simpa using hend.mem_entered
  refine ⟨hend.nodup, fun k => ⟨fun hk => hend.reachable k ((hall k).mpr hk), ?_⟩, hend.ordered⟩
  rintro ⟨r, hr, hrk⟩
  exact hend.ordered.mem_of_reaches ((hall r).mp (hroots r hr)) hrk

theorem recalculationOrder_error (hg : g.Indexed)
    (h : g.recalculationOrder roots = .error cycle) : ∃ r ∈ roots, g.Lasso r cycle :=
  searching_nil.of_searchAll_error hg (List.Subset.refl roots) h

/-- The search fails exactly when some key that depends on itself can be reached. -/
theorem recalculationOrder_error_iff (hg : g.Indexed) :
    (∃ cycle, g.recalculationOrder roots = .error cycle) ↔
      ∃ r ∈ roots, ∃ k, ReflTransGen g.Edge r k ∧ TransGen g.Edge k k := by
  constructor
  · rintro ⟨cycle, hcycle⟩
    obtain ⟨r, hr, hlasso⟩ := recalculationOrder_error hg hcycle
    exact ⟨r, hr, hlasso.exists_loop⟩
  · rintro ⟨r, hr, k, hrk, hloop⟩
    cases horder : g.recalculationOrder roots with
    | error cycle => exact ⟨cycle, rfl⟩
    | ok order =>
      have hord := recalculationOrder_ok hg horder
      have hk : k ∈ order := (hord.mem_iff k).mpr ⟨r, hr, hrk⟩
      exact absurd hloop (hord.ordered.not_transGen hord.nodup hk)

end Recalc.DependencyGraph
