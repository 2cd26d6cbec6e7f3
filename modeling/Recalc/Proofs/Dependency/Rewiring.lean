import Recalc.Proofs.Dependency.Order

/-!
# Cycles through one key

When the dependees of a key are replaced in a graph without cycles, a new cycle can only pass
through that key. It is there exactly when the key is among the new dependees, or one of them
depends on the key without it. The search from the key then finds a cycle from the key to itself.
-/

namespace Recalc.DependencyGraph

open Relation

variable {g : DependencyGraph} {pairs : Finset (String × String)} {n s t a b : String}
  {ss cycle : List String}

/-- An edge to another key than `n`. -/
def EdgeBeside (g : DependencyGraph) (n s t : String) : Prop :=
  t ≠ n ∧ g.Edge s t

lemma transGen_of_beside (h : TransGen (g.EdgeBeside n) a b) : TransGen g.Edge a b :=
  TransGen.mono (fun _ _ hedge => hedge.2) _ _ h

/-- A way leads through `n` or keeps beside it. -/
lemma through_or_beside (h : TransGen g.Edge a b) :
    (ReflTransGen g.Edge a n ∧ ReflTransGen g.Edge n b) ∨ TransGen (g.EdgeBeside n) a b := by
  induction h with
  | @single b hab =>
    by_cases hb : b = n
    · subst hb
      exact .inl ⟨.single hab, .refl⟩
    · exact .inr (.single ⟨hb, hab⟩)
  | @tail c b hac hcb ih =>
    by_cases hb : b = n
    · subst hb
      exact .inl ⟨hac.to_reflTransGen.tail hcb, .refl⟩
    · rcases ih with ⟨han, hnc⟩ | hbeside
      · exact .inl ⟨han, hnc.tail hcb⟩
      · exact .inr (hbeside.tail ⟨hb, hcb⟩)

/-- What depends on itself does so beside `n`, or `n` depends on itself as well. -/
lemma loop_or_beside (h : TransGen g.Edge a a) :
    TransGen g.Edge n n ∨ TransGen (g.EdgeBeside n) a a := by
  rcases through_or_beside (n := n) h with ⟨han, hna⟩ | hbeside
  · exact .inl (TransGen.trans_right hna (TransGen.trans_left h han))
  · exact .inr hbeside

/-- A way to `n` has a first arrival there. -/
lemma exists_arrival (h : TransGen g.Edge a n) :
    ∃ v, g.Edge v n ∧ (v = a ∨ TransGen (g.EdgeBeside n) a v) := by
  induction h using TransGen.head_induction_on with
  | @single a han => exact ⟨a, han, .inl rfl⟩
  | @head a c hac hcn ih =>
    by_cases hc : c = n
    · subst hc
      exact ⟨a, hac, .inl rfl⟩
    · obtain ⟨v, hvn, rfl | hcv⟩ := ih
      · exact ⟨v, hvn, .inr (.single ⟨hc, hac⟩)⟩
      · exact ⟨v, hvn, .inr (.head ⟨hc, hac⟩ hcv)⟩

/-! ### Replacing the dependees -/

lemma Holds.edge_iff (hg : g.Holds pairs) : g.Edge s t ↔ (s, t) ∈ pairs :=
  hg.mem_dependentsOf s t

lemma Holds.edge_replaceDependees (hg : g.Holds pairs) :
    (g.replaceDependees n ss).Edge s t ↔ (t = n ∧ s ∈ ss) ∨ (t ≠ n ∧ g.Edge s t) := by
  rw [(hg.replaceDependees n ss).edge_iff, mem_rewire, hg.edge_iff]

/-- Beside the key nothing is changed. -/
lemma Holds.edgeBeside_replaceDependees (hg : g.Holds pairs) :
    (g.replaceDependees n ss).EdgeBeside n = g.EdgeBeside n := by
  funext s t
  rw [EdgeBeside, EdgeBeside, hg.edge_replaceDependees]
  exact propext (by tauto)

/-- In a graph without cycles, a new cycle passes through the key. -/
lemma Holds.loop_of_loop (hg : g.Holds pairs) (hac : g.Acyclic)
    (h : TransGen (g.replaceDependees n ss).Edge a a) :
    TransGen (g.replaceDependees n ss).Edge n n := by
  refine (loop_or_beside h).resolve_right fun hbeside => ?_
  rw [hg.edgeBeside_replaceDependees] at hbeside
  exact hac a (transGen_of_beside hbeside)

lemma Holds.loop_iff (hg : g.Holds pairs) : TransGen (g.replaceDependees n ss).Edge n n ↔
    ∃ v ∈ ss, v = n ∨ TransGen (g.EdgeBeside n) n v := by
  constructor
  · intro h
    obtain ⟨v, hvn, hv⟩ := exists_arrival h
    rw [hg.edgeBeside_replaceDependees] at hv
    rcases hg.edge_replaceDependees.mp hvn with ⟨-, hmem⟩ | ⟨hne, -⟩
    · exact ⟨v, hmem, hv⟩
    · exact absurd rfl hne
  · rintro ⟨v, hmem, hv⟩
    have hvn : (g.replaceDependees n ss).Edge v n := hg.edge_replaceDependees.mpr (.inl ⟨rfl, hmem⟩)
    rcases hv with rfl | hnv
    · exact .single hvn
    · have hsame : (g.replaceDependees n ss).EdgeBeside n = g.EdgeBeside n :=
        hg.edgeBeside_replaceDependees
      rw [← hsame] at hnv
      exact (transGen_of_beside hnv).tail hvn

/-! ### The search from the key -/

theorem Holds.acyclic_of_order (hg : g.Holds pairs) (hac : g.Acyclic) {order : List String}
    (h : (g.replaceDependees n ss).recalculationOrder [n] = .ok order) :
    (g.replaceDependees n ss).Acyclic := by
  intro k hloop
  have hord := recalculationOrder_ok (hg.replaceDependees n ss).indexed h
  have hn : n ∈ order := (hord.mem_iff n).mpr ⟨n, List.mem_singleton_self n, .refl⟩
  exact hord.ordered.not_transGen hord.nodup hn (hg.loop_of_loop hac hloop)

theorem Holds.exists_cycle_iff (hg : g.Holds pairs) (hac : g.Acyclic) :
    (∃ cycle, (g.replaceDependees n ss).recalculationOrder [n] = .error cycle) ↔
      ∃ v ∈ ss, v = n ∨ TransGen (g.EdgeBeside n) n v := by
  rw [recalculationOrder_error_iff (hg.replaceDependees n ss).indexed, ← hg.loop_iff]
  constructor
  · rintro ⟨r, -, k, -, hloop⟩
    exact hg.loop_of_loop hac hloop
  · intro hloop
    exact ⟨n, List.mem_singleton_self n, n, .refl, hloop⟩

/-- The cycle that is found leads from the key to itself, through different keys. -/
theorem Holds.cycle_of_error (hg : g.Holds pairs) (hac : g.Acyclic)
    (h : (g.replaceDependees n ss).recalculationOrder [n] = .error cycle) :
    (∃ inner, cycle = n :: inner ++ [n] ∧ (n :: inner).Nodup) ∧
      cycle.IsChain (g.replaceDependees n ss).Edge := by
  obtain ⟨r, hr, approach, k, inner, rfl, hnodup, hchain, hhead⟩ :=
    recalculationOrder_error (hg.replaceDependees n ss).indexed h
  obtain rfl := List.mem_singleton.mp hr
  have hcycle : (k :: inner ++ [k]).IsChain (g.replaceDependees r ss).Edge :=
    hchain.suffix ⟨approach, by simp⟩
  refine ⟨?_, hcycle⟩
  cases approach with
  | nil =>
    obtain rfl : k = r := by simpa using hhead
    exact ⟨inner, rfl, hnodup⟩
  | cons x approach =>
    -- The root comes before the cycle, which therefore keeps beside it, but no old cycle does.
    obtain rfl : x = r := by simpa using hhead
    have hnot : x ∉ k :: inner ++ [k] := by
      have hfresh : x ∉ approach ++ k :: inner := (List.nodup_cons.mp hnodup).1
      grind
    have hbeside : (k :: inner ++ [k]).IsChain g.Edge := by
      refine hcycle.imp_of_mem_imp fun s t _ ht hedge => ?_
      have hne : t ≠ x := fun htx => hnot (htx ▸ ht)
      exact (hg.edge_replaceDependees.mp hedge).elim (fun h => absurd h.1 hne) And.right
    exact absurd (transGen_of_isChain hbeside) (hac k)

end Recalc.DependencyGraph
