import Recalc.Proofs.Dependency.Order

/-!
# The traversal turn by turn

The search is a loop over a stack of keys, each with the dependents that are still to be looked at.
A key is in progress while it is on the stack and visited when it leaves it; beside the stack, the
path is kept for the cycle that may be told. The loop comes to an end on every graph, whatever its
cycles, and its answer is the one of the search by recursion.
-/

namespace Recalc.DependencyGraph

/-- Where the loop stands. The innermost key of the path is the top of the stack. -/
structure Traversal where
  visited : Names
  inProgress : Names
  path : List String
  /-- The visited keys in the order in which they left the stack. -/
  postorder : List String
  stack : List Frame
  /-- The roots that are still to be looked at. -/
  roots : List String

/-- What one turn of the loop leads to. -/
inductive Turn where
  | next (t : Traversal)
  | done (answer : Except (List String) (List String))

namespace Traversal

def start (roots : List String) : Traversal :=
  ⟨∅, ∅, [], [], [], roots⟩

/-- Puts a key on the stack. -/
def enter (g : DependencyGraph) (key : String) (t : Traversal) : Traversal :=
  { t with
    inProgress := t.inProgress.insert key
    path := t.path ++ [key]
    stack := g.frame key :: t.stack }

/-- Takes the key on top from the stack. -/
def leave (key : String) (stack : List Frame) (t : Traversal) : Traversal :=
  { t with
    visited := t.visited.insert key
    inProgress := t.inProgress.erase key
    path := t.path.dropLast
    postorder := t.postorder ++ [key]
    stack := stack }

/-- One turn: a root is looked at, or the next dependent of the key on top, or that key leaves the
stack. -/
def turn (g : DependencyGraph) (t : Traversal) : Turn :=
  match t.stack with
  | [] =>
    match t.roots with
    | [] => .done (.ok t.postorder.reverse)
    | root :: roots =>
      if root ∈ t.visited then .next { t with roots := roots }
      else .next ({ t with roots := roots }.enter g root)
  | ⟨key, []⟩ :: stack => .next (t.leave key stack)
  | ⟨key, dependent :: pending⟩ :: stack =>
    let t := { t with stack := ⟨key, pending⟩ :: stack }
    if dependent ∈ t.inProgress then
      .done (.error (t.path.dropWhile (· ≠ dependent) ++ [dependent]))
    else if dependent ∈ t.visited then .next t
    else .next (t.enter g dependent)

/-- The answer of the loop if it comes within so many turns. -/
def run (g : DependencyGraph) : Nat → Traversal → Option (Except (List String) (List String))
  | 0, _ => none
  | n + 1, t =>
    match t.turn g with
    | .next t => run g n t
    | .done answer => some answer

/-- The loop comes to an end with the answer. -/
def Ends (g : DependencyGraph) (t : Traversal) (answer : Except (List String) (List String)) :
    Prop :=
  ∃ n, t.run g n = some answer

/-- The loop stands where the search by recursion has this path and these finished keys. -/
structure Stands (t : Traversal) (path : List Frame) (finished : List String) : Prop where
  mem_visited : ∀ k, k ∈ t.visited ↔ k ∈ finished
  mem_inProgress : ∀ k, k ∈ t.inProgress ↔ k ∈ path.map Frame.key
  path_eq : t.path = (path.map Frame.key).reverse
  postorder_eq : t.postorder = finished.reverse
  stack_eq : t.stack = path

variable {g : DependencyGraph} {t t' : Traversal} {roots todo finished : List String}
  {entered : Names} {path rest : List Frame} {key next root : String} {pending : List String}
  {answer : Except (List String) (List String)}

lemma Ends.of_next (h : t.turn g = .next t') (ht' : t'.Ends g answer) : t.Ends g answer := by
  obtain ⟨n, hn⟩ := ht'
  exact ⟨n + 1, by rw [run, h]; exact hn⟩

lemma Ends.of_done (h : t.turn g = .done answer) : t.Ends g answer :=
  ⟨1, by rw [run, h]⟩

/-! ### One turn -/

lemma Stands.leave (ht : t.Stands (⟨key, []⟩ :: rest) finished)
    (hnodup : key ∉ rest.map Frame.key) :
    (t.leave key rest).Stands rest (key :: finished) where
  mem_visited k := by
    simp only [Traversal.leave, Std.ExtTreeSet.mem_insert, Std.LawfulEqCmp.compare_eq_iff_eq,
      ht.mem_visited, List.mem_cons, @eq_comm _ key]
  mem_inProgress k := by
    simp only [Traversal.leave, Std.ExtTreeSet.mem_erase, ht.mem_inProgress, List.map_cons,
      List.mem_cons, ne_eq, Std.LawfulEqCmp.compare_eq_iff_eq]
    constructor
    · rintro ⟨hne, rfl | hk⟩
      · exact absurd rfl hne
      · exact hk
    · intro hk
      exact ⟨fun heq => hnodup (heq ▸ hk), .inr hk⟩
  path_eq := by simp [Traversal.leave, ht.path_eq]
  postorder_eq := by simp [Traversal.leave, ht.postorder_eq]
  stack_eq := rfl

/-- A pending dependent is looked at and passed over. -/
lemma Stands.skip (ht : t.Stands (⟨key, next :: pending⟩ :: rest) finished) :
    { t with stack := ⟨key, pending⟩ :: rest }.Stands (⟨key, pending⟩ :: rest) finished :=
  ⟨ht.mem_visited, ht.mem_inProgress, ht.path_eq, ht.postorder_eq, rfl⟩

lemma Stands.enter (ht : t.Stands path finished) (key : String) :
    (t.enter g key).Stands (g.frame key :: path) finished where
  mem_visited := ht.mem_visited
  mem_inProgress k := by
    simp only [Traversal.enter, Std.ExtTreeSet.mem_insert, Std.LawfulEqCmp.compare_eq_iff_eq,
      ht.mem_inProgress, List.map_cons, List.mem_cons, frame, @eq_comm _ key]
  path_eq := by simp [Traversal.enter, ht.path_eq, frame]
  postorder_eq := ht.postorder_eq
  stack_eq := by rw [Traversal.enter, ht.stack_eq]

lemma Stands.reroot (ht : t.Stands path finished) (todo : List String) :
    { t with roots := todo }.Stands path finished :=
  ⟨ht.mem_visited, ht.mem_inProgress, ht.path_eq, ht.postorder_eq, ht.stack_eq⟩

/-! ### The whole loop -/

/-- From any place in the search, the loop ends as the search does, if it does so from where the
search leaves off. -/
lemma Stands.ends_of_search (hg : g.Indexed) (hs : g.Searching roots entered path finished)
    (ht : t.Stands path finished)
    (hrest : ∀ (entered' : Names) (finished' : List String) (t' : Traversal),
      g.Searching roots entered' [] finished' → t'.Stands [] finished' → t'.roots = t.roots →
      t'.Ends g (g.searchAll entered' finished' t.roots)) :
    t.Ends g (g.search entered path finished >>= fun found =>
      g.searchAll found.1 found.2 t.roots) := by
  fun_induction search g entered path finished generalizing t with
  | case1 entered finished => exact hrest entered finished t hs ht rfl
  | case2 entered finished key rest ih =>
    have hnodup : key ∉ rest.map Frame.key := by
      have hall := hs.nodup
      rw [List.map_cons, List.cons_append, List.nodup_cons, List.mem_append, not_or] at hall
      exact hall.1.1
    have hturn : t.turn g = .next (t.leave key rest) := by rw [turn, ht.stack_eq]
    exact .of_next hturn (ih hs.pop (ht.leave hnodup) hrest)
  | case3 entered finished key next pending rest hentered hpath =>
    have hprogress : next ∈ t.inProgress := by
      rw [ht.mem_inProgress, List.map_cons, List.mem_cons]
      exact hpath
    refine .of_done ?_
    rw [turn, ht.stack_eq]
    simp only [if_pos hprogress, ht.path_eq]
    rfl
  | case4 entered finished key next pending rest hentered hpath ih =>
    have hfinished : next ∈ finished :=
      ((hs.mem_entered next).mp hentered).resolve_left (by simpa using hpath)
    have hprogress : next ∉ t.inProgress := by
      rw [ht.mem_inProgress, List.map_cons, List.mem_cons]
      exact hpath
    have hvisited : next ∈ t.visited := (ht.mem_visited next).mpr hfinished
    have hturn : t.turn g = .next { t with stack := ⟨key, pending⟩ :: rest } := by
      rw [turn, ht.stack_eq]
      simp only [if_neg hprogress, if_pos hvisited]
    have hends := ih (hs.skip hfinished) ht.skip hrest
    exact .of_next hturn hends
  | case5 entered finished key next pending rest hentered hindexed ih =>
    rw [hs.mem_entered, not_or] at hentered
    have hprogress : next ∉ t.inProgress := fun h => hentered.1 ((ht.mem_inProgress next).mp h)
    have hvisited : next ∉ t.visited := fun h => hentered.2 ((ht.mem_visited next).mp h)
    rw [← not_or, ← hs.mem_entered] at hentered
    have hturn : t.turn g =
        .next ({ t with stack := ⟨key, pending⟩ :: rest }.enter g next) := by
      rw [turn, ht.stack_eq]
      simp only [if_neg hprogress, if_neg hvisited]
    have hends := ih (hs.enter hentered) (ht.skip.enter next) hrest
    exact .of_next hturn hends
  | case6 entered finished key next pending rest hentered hindexed ih =>
    have hedge : g.Edge key next := hs.pending _ List.mem_cons_self next List.mem_cons_self
    exact absurd (hg key next hedge) hindexed

/-- Between roots, the loop ends as the search from the roots that are left. -/
lemma Stands.ends_of_searchAll (hg : g.Indexed) (hs : g.Searching roots entered [] finished)
    (ht : t.Stands [] finished) (hsub : t.roots ⊆ roots) :
    t.Ends g (g.searchAll entered finished t.roots) := by
  generalize htodo : t.roots = todo at hsub ⊢
  induction todo generalizing entered finished t with
  | nil =>
    refine .of_done ?_
    rw [turn, ht.stack_eq, htodo]
    simp only [ht.postorder_eq, List.reverse_reverse, searchAll]
  | cons root todo ih =>
    obtain ⟨hroot, hsub⟩ := List.cons_subset.mp hsub
    have hvisited : root ∈ t.visited ↔ root ∈ entered := by
      simp [ht.mem_visited, hs.mem_entered]
    rw [searchAll]
    split
    next hold =>
      have hturn : t.turn g = .next { t with roots := todo } := by
        rw [turn, ht.stack_eq, htodo]
        simp only [if_pos (hvisited.mpr hold)]
      exact .of_next hturn (ih hs (ht.reroot todo) rfl hsub)
    next hnew =>
      have hturn : t.turn g = .next ({ t with roots := todo }.enter g root) := by
        rw [turn, ht.stack_eq, htodo]
        simp only [if_neg (hvisited.not.mpr hnew)]
      have hends := ((ht.reroot todo).enter root).ends_of_search hg (hs.start hroot hnew)
        fun entered' finished' t' hs' ht' htodo' => ih hs' ht' htodo' hsub
      refine .of_next hturn ?_
      cases hsearch : g.search (entered.insert root) [g.frame root] finished with
      | ok found =>
        rw [hsearch] at hends
        exact hends
      | error cycle =>
        rw [hsearch] at hends
        exact hends

lemma stands_start (roots : List String) : (start roots).Stands [] [] :=
  ⟨by simp [start], by simp [start], rfl, rfl, rfl⟩

/-- The loop comes to an end with the answer of the search. -/
theorem ends_recalculationOrder (hg : g.Indexed) (roots : List String) :
    (start roots).Ends g (g.recalculationOrder roots) :=
  (stands_start roots).ends_of_searchAll hg searching_nil (List.Subset.refl roots)

end Traversal

end Recalc.DependencyGraph
