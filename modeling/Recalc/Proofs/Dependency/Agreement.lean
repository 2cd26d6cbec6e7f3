import Recalc.Proofs.Dependency.Order

/-!
# Graphs that agree

The search looks at the dependents of keys only, so graphs with the same dependents have the same
recalculation orders and the same cycles, however their indexes came about. In a recalculation order
a property passes on from the dependees of a key to the key.
-/

namespace Recalc.DependencyGraph

variable {g h : DependencyGraph} {roots order keys finished : List String} {entered : Names}
  {path : List Frame} {pairs : Finset (String × String)} {k : String} {P : String → Prop}

/-! ### Induction along an order -/

/-- In an ordered list without repetitions no key comes before one that it depends on. -/
lemma Ordered.mem_before {before : List String} {s t : String}
    (hord : g.Ordered (before ++ t :: keys)) (hnd : (before ++ t :: keys).Nodup)
    (hs : s ∈ before ++ t :: keys) (hst : g.Edge s t) : s ∈ before := by
  induction before with
  | nil =>
    obtain ⟨ht, -⟩ := List.nodup_cons.mp hnd
    rcases List.mem_cons.mp hs with rfl | hs
    · exact absurd (hord.1 s hst) ht
    · exact absurd (hord.2.mem_of_edge hs hst) ht
  | cons b before ih =>
    obtain ⟨-, hnd⟩ := List.nodup_cons.mp hnd
    rcases List.mem_cons.mp hs with rfl | hs
    · exact List.mem_cons_self
    · exact List.mem_cons_of_mem _ (ih hord.2 hnd hs)

/-- What passes on to a key from those it depends on holds along the whole order. -/
theorem Ordered.induction (hord : g.Ordered order) (hnd : order.Nodup)
    (hstep : ∀ t ∈ order, (∀ s ∈ order, g.Edge s t → P s) → P t) : ∀ t ∈ order, P t := by
  suffices hall : ∀ before keys, before ++ keys = order → (∀ s ∈ before, P s) → ∀ t ∈ keys, P t from
    hall [] order rfl (by simp)
  intro before keys
  induction keys generalizing before with
  | nil => simp
  | cons k keys ih =>
    intro horder hbefore
    have hk : P k := by
      subst horder
      exact hstep k (by simp) fun s hs hedge => hbefore s (hord.mem_before hnd hs hedge)
    refine List.forall_mem_cons.mpr ⟨hk, ih (before ++ [k]) (by simpa using horder) fun s hs => ?_⟩
    rcases List.mem_append.mp hs with hs | hs
    · exact hbefore s hs
    · rwa [List.mem_singleton.mp hs]

/-- In a graph without cycles, the search does not fail. -/
lemma Acyclic.exists_recalculationOrder (hac : g.Acyclic) (hg : g.Indexed) (roots : List String) :
    ∃ order, g.recalculationOrder roots = .ok order := by
  cases horder : g.recalculationOrder roots with
  | ok order => exact ⟨order, rfl⟩
  | error cycle =>
    obtain ⟨r, -, k, -, hloop⟩ := (recalculationOrder_error_iff hg).mp ⟨cycle, horder⟩
    exact absurd hloop (hac k)

/-- In a graph without cycles, every list of keys is part of an order. -/
lemma Acyclic.exists_order (hac : g.Acyclic) (hg : g.Indexed) (roots : List String) :
    ∃ order, g.IsOrder roots order := by
  obtain ⟨order, horder⟩ := hac.exists_recalculationOrder hg roots
  exact ⟨order, recalculationOrder_ok hg horder⟩

/-! ### Graphs with the same dependents -/

lemma frame_congr (hsame : ∀ k, g.dependentsOf k = h.dependentsOf k) (k : String) :
    g.frame k = h.frame k := by
  rw [frame, frame, hsame]

/-- What is pending on a path are dependents, which stand in the indexes of both graphs. -/
lemma search_congr (hg : g.Indexed) (hh : h.Indexed)
    (hsame : ∀ k, g.dependentsOf k = h.dependentsOf k)
    (hpending : ∀ f ∈ path, ∀ t ∈ f.pending, g.Edge f.key t) :
    g.search entered path finished = h.search entered path finished := by
  fun_induction search g entered path finished with
  | case1 entered finished => rw [search]
  | case2 entered finished key rest ih =>
    rw [ih (List.forall_mem_cons.mp hpending).2]
    conv_rhs => rw [search]
  | case3 entered finished key next pending rest hentered hpath =>
    rw [search, if_pos hentered, if_pos hpath]
  | case4 entered finished key next pending rest hentered hpath ih =>
    obtain ⟨hkey, hrest⟩ := List.forall_mem_cons.mp hpending
    rw [ih (List.forall_mem_cons.mpr ⟨(List.forall_mem_cons.mp hkey).2, hrest⟩)]
    conv_rhs => rw [search, if_pos hentered, if_neg hpath]
  | case5 entered finished key next pending rest hentered hindexed ih =>
    obtain ⟨hkey, hrest⟩ := List.forall_mem_cons.mp hpending
    obtain ⟨hnext, hkey⟩ := List.forall_mem_cons.mp hkey
    have hnext' : next ∈ h.dependees := hh key next (by rwa [Edge, ← hsame])
    rw [ih, frame_congr hsame]
    · conv_rhs => rw [search, if_neg hentered, if_pos hnext']
    · exact List.forall_mem_cons.mpr
        ⟨fun t => mem_pending_frame.mp, List.forall_mem_cons.mpr ⟨hkey, hrest⟩⟩
  | case6 entered finished key next pending rest hentered hindexed ih =>
    have hnext : g.Edge key next := hpending _ List.mem_cons_self next List.mem_cons_self
    exact absurd (hg key next hnext) hindexed

lemma searchAll_congr (hg : g.Indexed) (hh : h.Indexed)
    (hsame : ∀ k, g.dependentsOf k = h.dependentsOf k) :
    g.searchAll entered finished roots = h.searchAll entered finished roots := by
  induction roots generalizing entered finished with
  | nil => rfl
  | cons root roots ih =>
    have hpending : ∀ f ∈ [g.frame root], ∀ t ∈ f.pending, g.Edge f.key t := by
      intro f hf t ht
      rw [List.mem_singleton.mp hf] at ht ⊢
      exact mem_pending_frame.mp ht
    rw [searchAll, searchAll, search_congr hg hh hsame hpending, frame_congr hsame]
    simp only [ih]

/-- Graphs with the same dependents have the same recalculation orders and cycles. -/
theorem recalculationOrder_congr (hg : g.Indexed) (hh : h.Indexed)
    (hsame : ∀ k, g.dependentsOf k = h.dependentsOf k) (roots : List String) :
    g.recalculationOrder roots = h.recalculationOrder roots :=
  searchAll_congr hg hh hsame

end Recalc.DependencyGraph
