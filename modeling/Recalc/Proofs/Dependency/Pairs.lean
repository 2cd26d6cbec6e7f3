import Mathlib.Data.Finset.Card
import Mathlib.Data.Finset.Image
import Recalc.Dependency.Graph

/-!
# Dependency graphs as sets of pairs

A graph holds a finite set of pairs when both of its indexes answer as the set does, its counter is
the size of the set, and its keys are those that occur in the set. Every change of a graph changes
the set that it holds in the expected way, so what a graph answers is determined by that set alone.
-/

namespace Recalc.DependencyGraph

variable {g h : DependencyGraph} {pairs : Finset (String × String)} {s t k : String}

/-- Some pair has the key on either side. -/
def Occurs (pairs : Finset (String × String)) (k : String) : Prop :=
  ∃ p ∈ pairs, p.1 = k ∨ p.2 = k

/-- The graph consists of the given pairs. -/
structure Holds (g : DependencyGraph) (pairs : Finset (String × String)) : Prop where
  mem_dependentsOf : ∀ s t, t ∈ g.dependentsOf s ↔ (s, t) ∈ pairs
  mem_dependeesOf : ∀ s t, s ∈ g.dependeesOf t ↔ (s, t) ∈ pairs
  size_eq : g.size = pairs.card
  mem_keys : ∀ k, k ∈ g.keys ↔ Occurs pairs k

/-- Two graphs that answer alike. -/
structure Alike (g h : DependencyGraph) : Prop where
  dependentsOf_eq : ∀ k, g.dependentsOf k = h.dependentsOf k
  dependeesOf_eq : ∀ k, g.dependeesOf k = h.dependeesOf k
  size_eq : g.size = h.size

/-- Graphs that hold the same pairs answer alike. -/
theorem Holds.alike (hg : g.Holds pairs) (hh : h.Holds pairs) : g.Alike h where
  dependentsOf_eq k := Std.ExtTreeSet.ext_mem fun t => by
    rw [hg.mem_dependentsOf, hh.mem_dependentsOf]
  dependeesOf_eq k := Std.ExtTreeSet.ext_mem fun s => by
    rw [hg.mem_dependeesOf, hh.mem_dependeesOf]
  size_eq := by rw [hg.size_eq, hh.size_eq]

/-! ### One index -/

section Index

variable {index : Std.ExtTreeMap String Names} {a b x y : String}

lemma mem_getD_insert_insert :
    y ∈ (index.insert a ((index.getD a ∅).insert b)).getD x ∅ ↔
      (x = a ∧ y = b) ∨ y ∈ index.getD x ∅ := by
  simp only [Std.ExtTreeMap.getD_insert, Std.LawfulEqCmp.compare_eq_iff_eq]
  split
  next h => subst h; simp [@eq_comm _ y b]
  next h => simp [Ne.symm h]

lemma mem_getD_insert_erase :
    y ∈ (index.insert a ((index.getD a ∅).erase b)).getD x ∅ ↔
      ¬(x = a ∧ y = b) ∧ y ∈ index.getD x ∅ := by
  simp only [Std.ExtTreeMap.getD_insert, Std.LawfulEqCmp.compare_eq_iff_eq]
  split
  next h => subst h; simp [@eq_comm _ y b]
  next h => simp [Ne.symm h]

/-- Dropping a key without names changes no answer. -/
lemma getD_erase_of_isEmpty (h : (index.getD a ∅).isEmpty = true) :
    (index.erase a).getD x ∅ = index.getD x ∅ := by
  simp only [Std.ExtTreeMap.getD_erase, Std.LawfulEqCmp.compare_eq_iff_eq]
  split
  next hax => rw [← hax]; exact (Std.ExtTreeSet.isEmpty_iff.mp h).symm
  next => rfl

lemma isEmpty_eq_false_iff_exists {names : Names} : names.isEmpty = false ↔ ∃ k, k ∈ names := by
  rw [Std.ExtTreeSet.isEmpty_eq_false_iff]
  constructor
  · intro hne
    by_contra hnone
    push Not at hnone
    exact hne (Std.ExtTreeSet.ext_mem fun k => by simp [hnone k])
  · rintro ⟨k, hk⟩ rfl
    exact Std.ExtTreeSet.not_mem_empty hk

end Index

/-! ### Keys -/

lemma mem_keys_iff : k ∈ g.keys ↔ k ∈ g.dependents ∨ k ∈ g.dependees := by
  simp [keys]

lemma mem_dependees_of_mem_dependeesOf (h : s ∈ g.dependeesOf t) : t ∈ g.dependees := by
  by_contra ht
  rw [dependeesOf, Std.ExtTreeMap.getD_eq_fallback ht] at h
  exact Std.ExtTreeSet.not_mem_empty h

lemma hasDependents_iff : g.hasDependents s = true ↔ ∃ t, t ∈ g.dependentsOf s := by
  rw [hasDependents, Bool.not_eq_true', isEmpty_eq_false_iff_exists]

lemma hasDependees_iff : g.hasDependees t = true ↔ ∃ s, s ∈ g.dependeesOf t := by
  rw [hasDependees, Bool.not_eq_true', isEmpty_eq_false_iff_exists]

/-! ### The empty graph and adding a pair -/

theorem holds_empty : (∅ : DependencyGraph).Holds ∅ where
  mem_dependentsOf s t := by
    show t ∈ (∅ : Std.ExtTreeMap String Names).getD s ∅ ↔ _
    simp
  mem_dependeesOf s t := by
    show s ∈ (∅ : Std.ExtTreeMap String Names).getD t ∅ ↔ _
    simp
  size_eq := rfl
  mem_keys k := by
    show k ∈ (∅ : Std.ExtTreeMap String Names).keys ++ (∅ : Std.ExtTreeMap String Names).keys ↔ _
    simp [Occurs]

theorem Holds.add (hg : g.Holds pairs) (s t : String) :
    (g.add s t).Holds (insert (s, t) pairs) := by
  by_cases hst : t ∈ g.dependentsOf s
  · have hmem : (s, t) ∈ pairs := (hg.mem_dependentsOf s t).mp hst
    rw [DependencyGraph.add, if_pos hst, Finset.insert_eq_of_mem hmem]
    exact hg
  · have hnew : (s, t) ∉ pairs := fun hmem => hst ((hg.mem_dependentsOf s t).mpr hmem)
    rw [DependencyGraph.add, if_neg hst]
    constructor
    · intro a b
      rw [Finset.mem_insert, Prod.mk.injEq, ← hg.mem_dependentsOf]
      exact mem_getD_insert_insert
    · intro a b
      rw [Finset.mem_insert, Prod.mk.injEq, ← hg.mem_dependeesOf, and_comm]
      exact mem_getD_insert_insert
    · rw [Finset.card_insert_of_notMem hnew, hg.size_eq]
    · intro k
      have hk := hg.mem_keys k
      rw [mem_keys_iff] at hk ⊢
      simp only [Std.ExtTreeMap.mem_insert, Std.LawfulEqCmp.compare_eq_iff_eq, Occurs,
        Finset.mem_insert, exists_eq_or_imp] at hk ⊢
      rw [← hk]
      tauto

/-! ### Removing a pair -/

lemma dependentsOf_forgetIfIsolated :
    (g.forgetIfIsolated k).dependentsOf s = g.dependentsOf s := by
  unfold forgetIfIsolated
  split
  next => rfl
  next h =>
    simp only [Bool.not_eq_true, Bool.or_eq_false_iff, hasDependents, Bool.not_eq_false'] at h
    exact getD_erase_of_isEmpty h.1

lemma dependeesOf_forgetIfIsolated :
    (g.forgetIfIsolated k).dependeesOf t = g.dependeesOf t := by
  unfold forgetIfIsolated
  split
  next => rfl
  next h =>
    simp only [Bool.not_eq_true, Bool.or_eq_false_iff, hasDependees, Bool.not_eq_false'] at h
    exact getD_erase_of_isEmpty h.2

lemma size_forgetIfIsolated : (g.forgetIfIsolated k).size = g.size := by
  unfold forgetIfIsolated
  split <;> rfl

/-- Whether a key has a dependent or a dependee. -/
def InUse (g : DependencyGraph) (k : String) : Prop :=
  (∃ t, t ∈ g.dependentsOf k) ∨ ∃ s, s ∈ g.dependeesOf k

lemma inUse_forgetIfIsolated {j : String} : (g.forgetIfIsolated j).InUse k ↔ g.InUse k := by
  simp only [InUse, dependentsOf_forgetIfIsolated, dependeesOf_forgetIfIsolated]

lemma mem_keys_forgetIfIsolated {j : String} :
    k ∈ (g.forgetIfIsolated j).keys ↔ k ∈ g.keys ∧ (k = j → g.InUse k) := by
  unfold forgetIfIsolated
  split
  next h =>
    rw [Bool.or_eq_true, hasDependents_iff, hasDependees_iff] at h
    exact ⟨fun hk => ⟨hk, fun hkj => hkj ▸ h⟩, And.left⟩
  next h =>
    rw [Bool.or_eq_true, hasDependents_iff, hasDependees_iff] at h
    simp only [mem_keys_iff, Std.ExtTreeMap.mem_erase, ne_eq, Std.LawfulEqCmp.compare_eq_iff_eq]
    have hj : k = j → ¬ g.InUse k := fun hkj => hkj ▸ h
    grind

/-- In a graph that holds pairs, the keys in use are those that occur in one of them. -/
lemma inUse_iff_occurs (hout : ∀ s t, t ∈ g.dependentsOf s ↔ (s, t) ∈ pairs)
    (hin : ∀ s t, s ∈ g.dependeesOf t ↔ (s, t) ∈ pairs) : g.InUse k ↔ Occurs pairs k := by
  constructor
  · rintro (⟨t, ht⟩ | ⟨s, hs⟩)
    · exact ⟨(k, t), (hout k t).mp ht, .inl rfl⟩
    · exact ⟨(s, k), (hin s k).mp hs, .inr rfl⟩
  · rintro ⟨⟨s, t⟩, hp, rfl | rfl⟩
    · exact .inl ⟨t, (hout s t).mpr hp⟩
    · exact .inr ⟨s, (hin s t).mpr hp⟩

/-- A pair is taken out when both indexes lack it and its keys are dropped where isolated. -/
lemma holds_forgetIfIsolated (hout : ∀ a b, b ∈ g.dependentsOf a ↔ (a, b) ∈ pairs.erase (s, t))
    (hin : ∀ a b, a ∈ g.dependeesOf b ↔ (a, b) ∈ pairs.erase (s, t))
    (hsize : g.size = (pairs.erase (s, t)).card) (hkeys : ∀ k, k ∈ g.keys ↔ Occurs pairs k) :
    ((g.forgetIfIsolated s).forgetIfIsolated t).Holds (pairs.erase (s, t)) := by
  constructor
  · intro a b
    rw [dependentsOf_forgetIfIsolated, dependentsOf_forgetIfIsolated, hout]
  · intro a b
    rw [dependeesOf_forgetIfIsolated, dependeesOf_forgetIfIsolated, hin]
  · rw [size_forgetIfIsolated, size_forgetIfIsolated, hsize]
  · intro k
    rw [mem_keys_forgetIfIsolated, mem_keys_forgetIfIsolated, inUse_forgetIfIsolated, hkeys,
      inUse_iff_occurs hout hin]
    constructor
    · rintro ⟨⟨⟨p, hp, hpk⟩, hks⟩, hkt⟩
      by_cases heq : p = (s, t)
      · subst heq
        exact hpk.elim (fun h => hks h.symm) (fun h => hkt h.symm)
      · exact ⟨p, Finset.mem_erase.mpr ⟨heq, hp⟩, hpk⟩
    · rintro ⟨p, hp, hpk⟩
      have hk : Occurs (pairs.erase (s, t)) k := ⟨p, hp, hpk⟩
      exact ⟨⟨⟨p, Finset.mem_of_mem_erase hp, hpk⟩, fun _ => hk⟩, fun _ => hk⟩

theorem Holds.remove (hg : g.Holds pairs) (s t : String) :
    (g.remove s t).Holds (pairs.erase (s, t)) := by
  by_cases hst : t ∈ g.dependentsOf s
  · have hmem : (s, t) ∈ pairs := (hg.mem_dependentsOf s t).mp hst
    rw [DependencyGraph.remove, if_pos hst]
    apply holds_forgetIfIsolated
    · intro a b
      rw [Finset.mem_erase, Ne, Prod.mk.injEq, ← hg.mem_dependentsOf]
      exact mem_getD_insert_erase
    · intro a b
      rw [Finset.mem_erase, Ne, Prod.mk.injEq, ← hg.mem_dependeesOf, and_comm (a := a = s)]
      exact mem_getD_insert_erase
    · rw [Finset.card_erase_of_mem hmem, hg.size_eq]
    · intro k
      have hs : Occurs pairs s := ⟨(s, t), hmem, .inl rfl⟩
      have ht : Occurs pairs t := ⟨(s, t), hmem, .inr rfl⟩
      have hk := hg.mem_keys k
      rw [mem_keys_iff] at hk ⊢
      simp only [Std.ExtTreeMap.mem_insert, Std.LawfulEqCmp.compare_eq_iff_eq]
      grind
  · have hnew : (s, t) ∉ pairs := fun hmem => hst ((hg.mem_dependentsOf s t).mpr hmem)
    rw [DependencyGraph.remove, if_neg hst, Finset.erase_eq_of_notMem hnew]
    exact hg

/-! ### Adding and removing one pair for each key of a list -/

theorem Holds.addAll (hg : g.Holds pairs) (pair : String → String × String) (ks : List String) :
    (ks.foldl (fun g k => g.add (pair k).1 (pair k).2) g).Holds
      (ks.toFinset.image pair ∪ pairs) := by
  induction ks generalizing g pairs with
  | nil => simpa using hg
  | cons k rest ih =>
    have hrest := ih (hg.add (pair k).1 (pair k).2)
    rw [Finset.union_insert, ← Finset.insert_union] at hrest
    rw [List.toFinset_cons, Finset.image_insert]
    exact hrest

theorem Holds.removeAll (hg : g.Holds pairs) (pair : String → String × String)
    (ks : List String) : (ks.foldl (fun g k => g.remove (pair k).1 (pair k).2) g).Holds
      (pairs \ ks.toFinset.image pair) := by
  induction ks generalizing g pairs with
  | nil => simpa using hg
  | cons k rest ih =>
    have hrest := ih (hg.remove (pair k).1 (pair k).2)
    rw [← Finset.sdiff_singleton_eq_erase, sdiff_sdiff_left, Finset.sup_eq_union,
      ← Finset.insert_eq] at hrest
    rw [List.toFinset_cons, Finset.image_insert]
    exact hrest

/-! ### Replacing the dependees of a key -/

/-- The pairs with other second sides, and those of the new dependees. -/
def rewire (pairs : Finset (String × String)) (t : String) (ss : List String) :
    Finset (String × String) :=
  ss.toFinset.image (·, t) ∪ pairs.filter (·.2 ≠ t)

lemma mem_rewire {ss : List String} {u : String} :
    (s, u) ∈ rewire pairs t ss ↔ (u = t ∧ s ∈ ss) ∨ (u ≠ t ∧ (s, u) ∈ pairs) := by
  simp only [rewire, Finset.mem_union, Finset.mem_image, List.mem_toFinset, Prod.mk.injEq,
    Finset.mem_filter]
  grind

theorem Holds.replaceDependees (hg : g.Holds pairs) (t : String) (ss : List String) :
    (g.replaceDependees t ss).Holds (rewire pairs t ss) := by
  have hcleared := hg.removeAll (·, t) (g.dependeesOf t).toList
  have hothers : pairs \ (g.dependeesOf t).toList.toFinset.image (·, t) =
      pairs.filter (·.2 ≠ t) := by
    ext ⟨s, u⟩
    simp only [Finset.mem_sdiff, Finset.mem_image, List.mem_toFinset, Std.ExtTreeSet.mem_toList,
      hg.mem_dependeesOf, Prod.mk.injEq, Finset.mem_filter]
    grind
  rw [hothers] at hcleared
  exact hcleared.addAll (·, t) ss

/-- Putting the former dependees back undoes a replacement. -/
theorem Holds.restoreDependees (hg : g.Holds pairs) (t : String) (ss : List String) :
    ((g.replaceDependees t ss).replaceDependees t (g.dependeesOf t).toList).Holds pairs := by
  have hback : rewire (rewire pairs t ss) t (g.dependeesOf t).toList = pairs := by
    ext ⟨s, u⟩
    rw [mem_rewire, mem_rewire, Std.ExtTreeSet.mem_toList, hg.mem_dependeesOf]
    grind
  rw [← hback]
  exact (hg.replaceDependees t ss).replaceDependees t (g.dependeesOf t).toList

/-! ### Replacing the dependents of a key -/

/-- The pairs with other first sides, and those of the new dependents. -/
def rewireDependents (pairs : Finset (String × String)) (s : String) (ts : List String) :
    Finset (String × String) :=
  ts.toFinset.image (s, ·) ∪ pairs.filter (·.1 ≠ s)

theorem Holds.replaceDependents (hg : g.Holds pairs) (s : String) (ts : List String) :
    (g.replaceDependents s ts).Holds (rewireDependents pairs s ts) := by
  have hcleared := hg.removeAll (s, ·) (g.dependentsOf s).toList
  have hothers : pairs \ (g.dependentsOf s).toList.toFinset.image (s, ·) =
      pairs.filter (·.1 ≠ s) := by
    ext ⟨u, t⟩
    simp only [Finset.mem_sdiff, Finset.mem_image, List.mem_toFinset, Std.ExtTreeSet.mem_toList,
      hg.mem_dependentsOf, Prod.mk.injEq, Finset.mem_filter]
    grind
  rw [hothers] at hcleared
  exact hcleared.addAll (s, ·) ts

end Recalc.DependencyGraph
