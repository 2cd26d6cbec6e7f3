import Recalc.Dependency.Graph

/-!
# Recalculation order

The keys that depend on given roots, directly or indirectly, in an order in which every key comes
after the keys it depends on. The graph is searched depth first. A key is fresh until the search
enters it, and finished when all its dependents are; a dependent that was entered and is still on
the path of the search closes a cycle.
-/

namespace Recalc.DependencyGraph

/-- A key on the path of the search, with the dependents that are still to be looked at. -/
structure Frame where
  key : String
  pending : List String

/-- The frame of a key that the search enters. -/
def frame (g : DependencyGraph) (key : String) : Frame :=
  ⟨key, (g.dependentsOf key).toList⟩

/-- The steps that a path has left before the next key is entered. -/
def workLeft : List Frame → Nat
  | [] => 0
  | f :: rest => f.pending.length + 1 + workLeft rest

/-- The part of the path from `key` on, which is given in reverse order, and `key` once more. -/
def cycleFrom (key : String) (path : List String) : List String :=
  (path.reverse.dropWhile (· ≠ key)) ++ [key]

/-- The keys that the search may still enter. -/
def freshKeys (g : DependencyGraph) (entered : Names) : List String :=
  g.dependees.keys.filter (· ∉ entered)

theorem length_freshKeys_insert {g : DependencyGraph} {entered : Names} {key : String}
    (h : key ∉ entered) (hkey : key ∈ g.dependees) :
    (g.freshKeys (entered.insert key)).length < (g.freshKeys entered).length := by
  have hsub : g.freshKeys (entered.insert key) =
      (g.freshKeys entered).filter (· ∉ entered.insert key) := by
    simp only [freshKeys, List.filter_filter]
    congr 1
    funext k
    by_cases hk : k ∈ entered <;> simp [hk]
  rw [hsub, List.length_filter_lt_length_iff_exists]
  exact ⟨key, by simp [freshKeys, h, hkey], by simp⟩

/-- Searches to the end of the path. The innermost frame comes first, and finished keys are put
before those that finished earlier. The answer is the set of entered keys with the list of finished
ones, or a cycle. -/
def search (g : DependencyGraph) (entered : Names) (path : List Frame) (finished : List String) :
    Except (List String) (Names × List String) :=
  match path with
  | [] => .ok (entered, finished)
  | ⟨key, []⟩ :: rest => search g entered rest (key :: finished)
  | ⟨key, next :: pending⟩ :: rest =>
    if next ∈ entered then
      if next = key ∨ next ∈ rest.map Frame.key then
        .error (cycleFrom next (key :: rest.map Frame.key))
      else search g entered (⟨key, pending⟩ :: rest) finished
    else if next ∈ g.dependees then
      search g (entered.insert next) (g.frame next :: ⟨key, pending⟩ :: rest) finished
    else search g entered (⟨key, pending⟩ :: rest) finished
termination_by ((g.freshKeys entered).length, workLeft path)
decreasing_by
  · exact Prod.Lex.right _ (by simp [workLeft])
  · exact Prod.Lex.right _ (by simp [workLeft])
  · exact Prod.Lex.left _ _ (length_freshKeys_insert ‹_› ‹_›)
  · exact Prod.Lex.right _ (by simp [workLeft])

/-- Searches from the roots one after another. -/
def searchAll (g : DependencyGraph) (entered : Names) (finished : List String) :
    List String → Except (List String) (List String)
  | [] => .ok finished
  | root :: roots =>
    if root ∈ entered then g.searchAll entered finished roots
    else
      match g.search (entered.insert root) [g.frame root] finished with
      | .ok (entered, finished) => g.searchAll entered finished roots
      | .error cycle => .error cycle

/-- The roots and all that depends on them in recalculation order, or a cycle that is reachable
from the roots. -/
def recalculationOrder (g : DependencyGraph) (roots : List String) :
    Except (List String) (List String) :=
  g.searchAll ∅ [] roots

end Recalc.DependencyGraph
