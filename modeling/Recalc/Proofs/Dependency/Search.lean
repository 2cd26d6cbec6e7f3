import Mathlib.Data.List.Chain
import Mathlib.Logic.Relation
import Recalc.Dependency.Order
import Recalc.Proofs.Dependency.Pairs

/-!
# The search for a recalculation order

One invariant holds at every step of the search: the path is a walk, the dependents of its keys are
still to be looked at unless they are finished or next on the path, and the finished keys stand
before all of their dependents. The order at the end is therefore topological and complete, and a
dependent that is met again on the path closes a cycle.
-/

namespace Recalc.DependencyGraph

open Relation

/-- The key `t` depends on the key `s`. -/
def Edge (g : DependencyGraph) (s t : String) : Prop :=
  t ∈ g.dependentsOf s

/-- No key depends on itself, directly or indirectly. -/
def Acyclic (g : DependencyGraph) : Prop :=
  ∀ k, ¬TransGen g.Edge k k

/-- Every dependent is in the index of dependees. -/
def Indexed (g : DependencyGraph) : Prop :=
  ∀ s t, g.Edge s t → t ∈ g.dependees

/-- Every key is followed by all of its dependents. -/
def Ordered (g : DependencyGraph) : List String → Prop
  | [] => True
  | k :: rest => (∀ t, g.Edge k t → t ∈ rest) ∧ g.Ordered rest

/-- Every dependent of a key on the path is pending there, or it is among `done` or further in. -/
def Explored (g : DependencyGraph) : List String → List Frame → Prop
  | _, [] => True
  | done, f :: rest =>
    (∀ t, g.Edge f.key t → t ∈ f.pending ∨ t ∈ done) ∧ g.Explored (f.key :: done) rest

/-- A walk from the root to a key without repetition, and on from there back to the key, which
makes the cycle. -/
def Lasso (g : DependencyGraph) (root : String) (cycle : List String) : Prop :=
  ∃ approach k inner, cycle = k :: inner ++ [k] ∧ (approach ++ k :: inner).Nodup ∧
    (approach ++ k :: inner ++ [k]).IsChain g.Edge ∧ (approach ++ k :: inner).head? = some root

/-- What holds at every step of a search from the given roots. -/
structure Searching (g : DependencyGraph) (roots : List String) (entered : Names)
    (path : List Frame) (finished : List String) : Prop where
  mem_entered : ∀ k, k ∈ entered ↔ k ∈ path.map Frame.key ∨ k ∈ finished
  nodup : (path.map Frame.key ++ finished).Nodup
  walk : (path.map Frame.key).IsChain fun inner outer => g.Edge outer inner
  bottom : ∀ k ∈ (path.map Frame.key).getLast?, k ∈ roots
  pending : ∀ f ∈ path, ∀ t ∈ f.pending, g.Edge f.key t
  explored : g.Explored finished path
  ordered : g.Ordered finished
  reachable : ∀ k ∈ entered, ∃ r ∈ roots, ReflTransGen g.Edge r k

variable {g : DependencyGraph} {roots : List String} {entered : Names} {path rest : List Frame}
  {finished : List String} {key next root : String} {pending : List String}

theorem Holds.indexed {pairs : Finset (String × String)} (hg : g.Holds pairs) : g.Indexed :=
  fun s t hst => mem_dependees_of_mem_dependeesOf <|
    (hg.mem_dependeesOf s t).mpr ((hg.mem_dependentsOf s t).mp hst)

lemma mem_pending_frame {t : String} : t ∈ (g.frame key).pending ↔ g.Edge key t := by
  simp [frame, Edge]

/-! ### One step -/

lemma Explored.mono {done more : List String} (h : g.Explored done path) (hsub : done ⊆ more) :
    g.Explored more path := by
  induction path generalizing done more with
  | nil => trivial
  | cons f rest ih =>
    refine ⟨fun t ht => (h.1 t ht).imp_right fun hd => hsub hd, ih h.2 ?_⟩
    exact List.cons_subset_cons f.key hsub

/-- The innermost key is finished when no dependent is pending. -/
lemma Searching.pop (h : g.Searching roots entered (⟨key, []⟩ :: rest) finished) :
    g.Searching roots entered rest (key :: finished) where
  mem_entered k := by
    rw [h.mem_entered]
    simp only [List.map_cons, List.mem_cons]
    tauto
  nodup := by
    have hnd := h.nodup
    simp only [List.map_cons, List.cons_append] at hnd
    exact (List.perm_middle.nodup_iff).mpr hnd
  walk := h.walk.tail
  bottom k hk := by
    apply h.bottom
    cases rest with
    | nil => simp at hk
    | cons f rest => simpa using hk
  pending f hf := h.pending f (List.mem_cons_of_mem _ hf)
  explored := h.explored.2
  ordered := ⟨fun t ht => (h.explored.1 t ht).resolve_left (List.not_mem_nil), h.ordered⟩
  reachable := h.reachable

/-- A dependent that is finished is passed over. -/
lemma Searching.skip (h : g.Searching roots entered (⟨key, next :: pending⟩ :: rest) finished)
    (hnext : next ∈ finished) : g.Searching roots entered (⟨key, pending⟩ :: rest) finished where
  mem_entered := h.mem_entered
  nodup := h.nodup
  walk := h.walk
  bottom := h.bottom
  pending f hf t ht := by
    rcases List.mem_cons.mp hf with rfl | hf
    · exact h.pending _ List.mem_cons_self t (List.mem_cons_of_mem next ht)
    · exact h.pending f (List.mem_cons_of_mem _ hf) t ht
  explored := by
    refine ⟨fun t ht => ?_, h.explored.2⟩
    rcases h.explored.1 t ht with hp | hd
    · rcases List.mem_cons.mp hp with rfl | hp
      · exact .inr hnext
      · exact .inl hp
    · exact .inr hd
  ordered := h.ordered
  reachable := h.reachable

/-- A dependent that was not entered yet becomes the innermost key. -/
lemma Searching.enter (h : g.Searching roots entered (⟨key, next :: pending⟩ :: rest) finished)
    (hnext : next ∉ entered) :
    g.Searching roots (entered.insert next) (g.frame next :: ⟨key, pending⟩ :: rest) finished where
  mem_entered k := by
    have hk := h.mem_entered k
    simp only [Std.ExtTreeSet.mem_insert, Std.LawfulEqCmp.compare_eq_iff_eq, List.map_cons,
      List.mem_cons, frame] at hk ⊢
    rw [hk]
    tauto
  nodup := by
    rw [h.mem_entered, ← List.mem_append] at hnext
    exact List.nodup_cons.mpr ⟨hnext, h.nodup⟩
  walk := by
    have hedge : g.Edge key next := h.pending _ List.mem_cons_self next List.mem_cons_self
    exact List.isChain_cons_cons.mpr ⟨hedge, h.walk⟩
  bottom := by simpa using h.bottom
  pending f hf t ht := by
    rcases List.mem_cons.mp hf with rfl | hf
    · exact mem_pending_frame.mp ht
    rcases List.mem_cons.mp hf with rfl | hf
    · exact h.pending _ List.mem_cons_self t (List.mem_cons_of_mem next ht)
    · exact h.pending f (List.mem_cons_of_mem _ hf) t ht
  explored := by
    refine ⟨fun t ht => .inl (mem_pending_frame.mpr ht), fun t ht => ?_, ?_⟩
    · rcases h.explored.1 t ht with hp | hd
      · rcases List.mem_cons.mp hp with rfl | hp
        · exact .inr List.mem_cons_self
        · exact .inl hp
      · exact .inr (List.mem_cons_of_mem _ hd)
    · exact h.explored.2.mono (List.cons_subset_cons key (List.subset_cons_self _ _))
  ordered := h.ordered
  reachable k hk := by
    rw [Std.ExtTreeSet.mem_insert, Std.LawfulEqCmp.compare_eq_iff_eq] at hk
    rcases hk with rfl | hk
    · have hkey : key ∈ entered := (h.mem_entered key).mpr (.inl List.mem_cons_self)
      obtain ⟨r, hr, hrk⟩ := h.reachable key hkey
      exact ⟨r, hr, hrk.tail (h.pending _ List.mem_cons_self _ List.mem_cons_self)⟩
    · exact h.reachable k hk

lemma exists_dropWhile_ne_eq_cons {keys : List String} (h : key ∈ keys) :
    ∃ rest, keys.dropWhile (· ≠ key) = key :: rest := by
  induction keys with
  | nil => simp at h
  | cons k keys ih =>
    by_cases hk : k = key
    · exact ⟨keys, by simp [hk]⟩
    · obtain ⟨rest, hrest⟩ := ih ((List.mem_cons.mp h).resolve_left (Ne.symm hk))
      exact ⟨rest, by rw [List.dropWhile_cons_of_pos (by simpa using hk), hrest]⟩

/-- A dependent on the path closes a cycle, to which the walk from a root leads. -/
lemma Searching.lasso (h : g.Searching roots entered (⟨key, next :: pending⟩ :: rest) finished)
    (hnext : next ∈ key :: rest.map Frame.key) :
    ∃ r ∈ roots, g.Lasso r (cycleFrom next (key :: rest.map Frame.key)) := by
  have hwalk := h.walk
  have hnodup := h.nodup
  have hbottom := h.bottom
  have hclose : g.Edge key next := h.pending _ List.mem_cons_self next List.mem_cons_self
  simp only [List.map_cons] at hwalk hnodup hbottom
  generalize hkeys : key :: rest.map Frame.key = keys at *
  have hhead : keys.head? = some key := by rw [← hkeys]; rfl
  rw [← List.mem_reverse] at hnext
  obtain ⟨inner, hinner⟩ := exists_dropWhile_ne_eq_cons hnext
  have hsplit : keys.reverse.takeWhile (· ≠ next) ++ next :: inner = keys.reverse := by
    rw [← hinner, List.takeWhile_append_dropWhile]
  obtain ⟨r, hr⟩ : ∃ r, keys.getLast? = some r := by
    rw [← hkeys]
    exact ⟨_, List.getLast?_eq_some_getLast (List.cons_ne_nil _ _)⟩
  refine ⟨r, hbottom r hr, keys.reverse.takeWhile (· ≠ next), next, inner, ?_, ?_, ?_, ?_⟩
  · rw [cycleFrom, hinner]
  · rw [hsplit, List.nodup_reverse]
    exact hnodup.of_append_left
  · rw [hsplit, List.isChain_append]
    refine ⟨List.isChain_reverse.mpr hwalk, List.isChain_singleton _, ?_⟩
    simp [hhead, hclose]
  · rw [hsplit, List.head?_reverse, hr]

/-! ### The whole search -/

theorem Searching.of_search_ok (hg : g.Indexed) (h : g.Searching roots entered path finished)
    {entered' : Names} {finished' : List String}
    (hs : g.search entered path finished = .ok (entered', finished')) :
    g.Searching roots entered' [] finished' ∧ ∀ k ∈ entered, k ∈ entered' := by
  fun_induction search g entered path finished with
  | case1 entered finished =>
    cases hs
    exact ⟨h, fun _ hk => hk⟩
  | case2 entered finished key rest ih => exact ih h.pop hs
  | case3 entered finished key next pending rest hentered hpath => cases hs
  | case4 entered finished key next pending rest hentered hpath ih =>
    have hfinished : next ∈ finished :=
      ((h.mem_entered next).mp hentered).resolve_left (by simpa using hpath)
    exact ih (h.skip hfinished) hs
  | case5 entered finished key next pending rest hentered hindexed ih =>
    obtain ⟨hend, hkept⟩ := ih (h.enter hentered) hs
    exact ⟨hend, fun k hk => hkept k (by simp [hk])⟩
  | case6 entered finished key next pending rest hentered hindexed ih =>
    have hedge : g.Edge key next := h.pending _ List.mem_cons_self next List.mem_cons_self
    exact absurd (hg key next hedge) hindexed

theorem Searching.of_search_error (hg : g.Indexed) (h : g.Searching roots entered path finished)
    {cycle : List String} (hs : g.search entered path finished = .error cycle) :
    ∃ r ∈ roots, g.Lasso r cycle := by
  fun_induction search g entered path finished with
  | case1 entered finished => cases hs
  | case2 entered finished key rest ih => exact ih h.pop hs
  | case3 entered finished key next pending rest hentered hpath =>
    cases hs
    exact h.lasso (List.mem_cons.mpr hpath)
  | case4 entered finished key next pending rest hentered hpath ih =>
    have hfinished : next ∈ finished :=
      ((h.mem_entered next).mp hentered).resolve_left (by simpa using hpath)
    exact ih (h.skip hfinished) hs
  | case5 entered finished key next pending rest hentered hindexed ih =>
    exact ih (h.enter hentered) hs
  | case6 entered finished key next pending rest hentered hindexed ih =>
    have hedge : g.Edge key next := h.pending _ List.mem_cons_self next List.mem_cons_self
    exact absurd (hg key next hedge) hindexed

/-- Between roots, the next root that was not entered yet starts a path. -/
lemma Searching.start (h : g.Searching roots entered [] finished) (hroot : root ∈ roots)
    (hnew : root ∉ entered) :
    g.Searching roots (entered.insert root) [g.frame root] finished where
  mem_entered k := by
    rw [Std.ExtTreeSet.mem_insert, Std.LawfulEqCmp.compare_eq_iff_eq, h.mem_entered]
    simp [frame, eq_comm]
  nodup := by
    rw [h.mem_entered, List.map_nil] at hnew
    exact List.nodup_cons.mpr ⟨fun hmem => hnew (.inr hmem), h.nodup⟩
  walk := List.isChain_singleton _
  bottom := by simpa [frame] using hroot
  pending f hf t ht := by
    rw [List.mem_singleton.mp hf] at ht ⊢
    exact mem_pending_frame.mp ht
  explored := ⟨fun t ht => .inl (mem_pending_frame.mpr ht), trivial⟩
  ordered := h.ordered
  reachable k hk := by
    rw [Std.ExtTreeSet.mem_insert, Std.LawfulEqCmp.compare_eq_iff_eq] at hk
    rcases hk with rfl | hk
    · exact ⟨root, hroot, .refl⟩
    · exact h.reachable k hk

lemma searching_nil : g.Searching roots ∅ [] [] where
  mem_entered := by simp
  nodup := List.nodup_nil
  walk := List.isChain_nil
  bottom := by simp
  pending := by simp
  explored := trivial
  ordered := trivial
  reachable := by simp

lemma Searching.of_searchAll_ok (hg : g.Indexed) (h : g.Searching roots entered [] finished)
    {todo order : List String} (htodo : todo ⊆ roots)
    (hs : g.searchAll entered finished todo = .ok order) :
    ∃ all, g.Searching roots all [] order ∧ (∀ k ∈ entered, k ∈ all) ∧ ∀ r ∈ todo, r ∈ all := by
  induction todo generalizing entered finished with
  | nil =>
    cases hs
    exact ⟨entered, h, fun _ hk => hk, by simp⟩
  | cons r todo ih =>
    obtain ⟨hr, htodo⟩ := List.cons_subset.mp htodo
    rw [searchAll] at hs
    split at hs
    next hold =>
      obtain ⟨all, hall, hkept, hmem⟩ := ih h htodo hs
      exact ⟨all, hall, hkept, by simpa using ⟨hkept r hold, hmem⟩⟩
    next hnew =>
      split at hs
      next entered' finished' hsearch =>
        obtain ⟨hend, hgrown⟩ := (h.start hr hnew).of_search_ok hg hsearch
        obtain ⟨all, hall, hkept, hmem⟩ := ih hend htodo hs
        have hrall : r ∈ all := hkept r (hgrown r Std.ExtTreeSet.mem_insert_self)
        refine ⟨all, hall, fun k hk => hkept k (hgrown k ?_), by simpa using ⟨hrall, hmem⟩⟩
        exact Std.ExtTreeSet.mem_insert.mpr (.inr hk)
      next => cases hs

lemma Searching.of_searchAll_error (hg : g.Indexed) (h : g.Searching roots entered [] finished)
    {todo cycle : List String} (htodo : todo ⊆ roots)
    (hs : g.searchAll entered finished todo = .error cycle) :
    ∃ r ∈ roots, g.Lasso r cycle := by
  induction todo generalizing entered finished with
  | nil => cases hs
  | cons r todo ih =>
    obtain ⟨hr, htodo⟩ := List.cons_subset.mp htodo
    rw [searchAll] at hs
    split at hs
    next hold => exact ih h htodo hs
    next hnew =>
      split at hs
      next entered' finished' hsearch =>
        exact ih ((h.start hr hnew).of_search_ok hg hsearch).1 htodo hs
      next path hsearch =>
        cases hs
        exact (h.start hr hnew).of_search_error hg hsearch

end Recalc.DependencyGraph
