import Recalc.Proofs.Dependency.Pairs

/-!
# Runs of changes

Whatever changes a graph goes through from the empty one on, it answers every question as the set
of pairs that goes through the same changes. A pair that one index has is in the other one as well,
so that the removal of a pair never misses the key that it looks up.
-/

namespace Recalc.DependencyGraph

/-- A change of a graph, for any keys. -/
inductive Change where
  | add (s t : String)
  | remove (s t : String)
  | replaceDependents (s : String) (ts : List String)
  | replaceDependees (t : String) (ss : List String)

/-- The graph after a change. -/
def Change.run (g : DependencyGraph) : Change → DependencyGraph
  | .add s t => g.add s t
  | .remove s t => g.remove s t
  | .replaceDependents s ts => g.replaceDependents s ts
  | .replaceDependees t ss => g.replaceDependees t ss

/-- The set of pairs after a change. To replace the keys on one side of a key is to remove all
pairs with it and to add the new ones. -/
def Change.runPairs (pairs : Finset (String × String)) : Change → Finset (String × String)
  | .add s t => insert (s, t) pairs
  | .remove s t => pairs.erase (s, t)
  | .replaceDependents s ts => rewireDependents pairs s ts
  | .replaceDependees t ss => rewire pairs t ss

/-! ### Changes that may fail -/

/-- Removes a pair; fails when the key is missing where its dependees are looked up. -/
def remove? (g : DependencyGraph) (s t : String) : Option DependencyGraph :=
  if t ∈ g.dependentsOf s then do
    let ss ← g.dependees[t]?
    let g : DependencyGraph :=
      { dependents := g.dependents.insert s ((g.dependentsOf s).erase t)
        dependees := g.dependees.insert t (ss.erase s)
        size := g.size - 1 }
    return (g.forgetIfIsolated s).forgetIfIsolated t
  else some g

/-- The graph after a change in which no look-up fails. -/
def Change.run? (g : DependencyGraph) : Change → Option DependencyGraph
  | .add s t => some (g.add s t)
  | .remove s t => g.remove? s t
  | .replaceDependents s ts => do
    let cleared ← (g.dependentsOf s).toList.foldlM (fun g t => g.remove? s t) g
    return ts.foldl (fun g t => g.add s t) cleared
  | .replaceDependees t ss => do
    let cleared ← (g.dependeesOf t).toList.foldlM (fun g s => g.remove? s t) g
    return ss.foldl (fun g s => g.add s t) cleared

variable {g : DependencyGraph} {pairs : Finset (String × String)} {s t : String}

theorem Holds.remove?_eq (hg : g.Holds pairs) (s t : String) :
    g.remove? s t = some (g.remove s t) := by
  unfold remove? DependencyGraph.remove
  split
  next hst =>
    have ht : t ∈ g.dependees := mem_dependees_of_mem_dependeesOf <|
      (hg.mem_dependeesOf s t).mpr ((hg.mem_dependentsOf s t).mp hst)
    rw [Std.ExtTreeMap.getElem?_eq_some_getD ht]
    rfl
  next => rfl

lemma Holds.removeAll?_eq (hg : g.Holds pairs) (pair : String → String × String)
    (ks : List String) : ks.foldlM (fun g k => g.remove? (pair k).1 (pair k).2) g =
      some (ks.foldl (fun g k => g.remove (pair k).1 (pair k).2) g) := by
  induction ks generalizing g pairs with
  | nil => rfl
  | cons k rest ih =>
    rw [List.foldlM_cons, hg.remove?_eq, List.foldl_cons]
    exact ih (hg.remove (pair k).1 (pair k).2)

/-! ### One change -/

theorem Holds.run (hg : g.Holds pairs) (c : Change) : (c.run g).Holds (c.runPairs pairs) := by
  cases c with
  | add s t => exact hg.add s t
  | remove s t => exact hg.remove s t
  | replaceDependents s ts => exact hg.replaceDependents s ts
  | replaceDependees t ss => exact hg.replaceDependees t ss

theorem Holds.run?_eq (hg : g.Holds pairs) (c : Change) : c.run? g = some (c.run g) := by
  cases c with
  | add s t => rfl
  | remove s t => exact hg.remove?_eq s t
  | replaceDependents s ts =>
    have hcleared := hg.removeAll?_eq (s, ·) (g.dependentsOf s).toList
    rw [Change.run?, hcleared]
    rfl
  | replaceDependees t ss =>
    have hcleared := hg.removeAll?_eq (·, t) (g.dependeesOf t).toList
    rw [Change.run?, hcleared]
    rfl

/-! ### What a graph answers -/

/-- Every question about the graph has the answer that the set of pairs gives. -/
structure Mirrors (g : DependencyGraph) (pairs : Finset (String × String)) : Prop
    extends g.Holds pairs where
  hasDependents : ∀ s, g.hasDependents s = true ↔ ∃ t, (s, t) ∈ pairs
  hasDependees : ∀ t, g.hasDependees t = true ↔ ∃ s, (s, t) ∈ pairs
  dependeeCount_eq : ∀ t, g.dependeeCount t = (pairs.filter (·.2 = t)).card

lemma card_eq_size {names : Names} {keys : Finset String} (h : ∀ k, k ∈ names ↔ k ∈ keys) :
    keys.card = names.size := by
  have hkeys : keys = names.toList.toFinset := by
    ext k
    rw [List.mem_toFinset, Std.ExtTreeSet.mem_toList, h]
  have hnodup : names.toList.Nodup :=
    Std.ExtTreeSet.distinct_toList.imp fun hne heq => hne (by rw [heq]; simp)
  rw [hkeys, List.toFinset_card_of_nodup hnodup, Std.ExtTreeSet.length_toList]

theorem Holds.mirrors (hg : g.Holds pairs) : g.Mirrors pairs := by
  refine ⟨hg, fun s => ?_, fun t => ?_, fun t => ?_⟩
  · simp only [hasDependents_iff, hg.mem_dependentsOf]
  · simp only [hasDependees_iff, hg.mem_dependeesOf]
  · have hmem : ∀ s, s ∈ g.dependeesOf t ↔ s ∈ (pairs.filter (·.2 = t)).image Prod.fst := by
      intro s
      simp [hg.mem_dependeesOf]
    have hinj : Set.InjOn Prod.fst (pairs.filter (·.2 = t) : Set (String × String)) := by
      intro p hp q hq hfst
      have hsnd : p.2 = q.2 := (Finset.mem_filter.mp hp).2.trans (Finset.mem_filter.mp hq).2.symm
      exact Prod.ext hfst hsnd
    rw [dependeeCount, ← card_eq_size hmem, Finset.card_image_of_injOn hinj]

/-! ### Runs -/

/-- After any changes of the empty graph, none of which fails, the graph answers as the set of
pairs after the same changes. -/
theorem run_mirrors (changes : List Change) :
    changes.foldlM Change.run? ∅ = some (changes.foldl Change.run ∅) ∧
      (changes.foldl Change.run ∅).Mirrors (changes.foldl Change.runPairs ∅) := by
  suffices hall : ∀ (g : DependencyGraph) pairs, g.Holds pairs →
      changes.foldlM Change.run? g = some (changes.foldl Change.run g) ∧
        (changes.foldl Change.run g).Holds (changes.foldl Change.runPairs pairs) by
    obtain ⟨hrun, hholds⟩ := hall ∅ ∅ holds_empty
    exact ⟨hrun, hholds.mirrors⟩
  induction changes with
  | nil =>
    intro g pairs hg
    exact ⟨rfl, hg⟩
  | cons c rest ih =>
    intro g pairs hg
    rw [List.foldlM_cons, hg.run?_eq c]
    exact ih (c.run g) (c.runPairs pairs) (hg.run c)

end Recalc.DependencyGraph
