import Std.Data.ExtTreeMap
import Recalc.Name

/-!
# Dependencies

A dependency graph is a set of pairs `(s, t)`, read as "t depends on s": `t` is a dependent of `s`
and `s` is a dependee of `t`. The pairs are indexed in both directions and counted, and a key that
is in no pair is in no index.
-/

namespace Recalc

structure DependencyGraph where
  dependents : Std.ExtTreeMap String Names
  dependees : Std.ExtTreeMap String Names
  size : Nat

namespace DependencyGraph

def empty : DependencyGraph := ⟨∅, ∅, 0⟩

instance : EmptyCollection DependencyGraph := ⟨empty⟩

instance : Inhabited DependencyGraph := ⟨empty⟩

/-! ### Queries -/

/-- The keys that depend on `s`. -/
def dependentsOf (g : DependencyGraph) (s : String) : Names :=
  g.dependents.getD s ∅

/-- The keys that `t` depends on. -/
def dependeesOf (g : DependencyGraph) (t : String) : Names :=
  g.dependees.getD t ∅

def hasDependents (g : DependencyGraph) (s : String) : Bool :=
  !(g.dependentsOf s).isEmpty

def hasDependees (g : DependencyGraph) (t : String) : Bool :=
  !(g.dependeesOf t).isEmpty

def dependeeCount (g : DependencyGraph) (t : String) : Nat :=
  (g.dependeesOf t).size

/-- The keys that occur in some pair. -/
def keys (g : DependencyGraph) : List String :=
  g.dependents.keys ++ g.dependees.keys

/-- One line about the graph. -/
def summary (g : DependencyGraph) : String :=
  "DependencyGraph(size=" ++ toString g.size ++ ")"

/-! ### Changes -/

/-- Adds a pair; nothing happens when it is there. -/
def add (g : DependencyGraph) (s t : String) : DependencyGraph :=
  if t ∈ g.dependentsOf s then g
  else
    { dependents := g.dependents.insert s ((g.dependentsOf s).insert t)
      dependees := g.dependees.insert t ((g.dependeesOf t).insert s)
      size := g.size + 1 }

/-- Drops a key that is in no pair from the indexes. -/
def forgetIfIsolated (g : DependencyGraph) (key : String) : DependencyGraph :=
  if g.hasDependents key || g.hasDependees key then g
  else { g with dependents := g.dependents.erase key, dependees := g.dependees.erase key }

/-- Removes a pair; nothing happens when it is not there. -/
def remove (g : DependencyGraph) (s t : String) : DependencyGraph :=
  if t ∈ g.dependentsOf s then
    let g : DependencyGraph :=
      { dependents := g.dependents.insert s ((g.dependentsOf s).erase t)
        dependees := g.dependees.insert t ((g.dependeesOf t).erase s)
        size := g.size - 1 }
    (g.forgetIfIsolated s).forgetIfIsolated t
  else g

/-- Makes the given keys the dependents of `s`. -/
def replaceDependents (g : DependencyGraph) (s : String) (ts : List String) : DependencyGraph :=
  let cleared := (g.dependentsOf s).toList.foldl (fun g t => g.remove s t) g
  ts.foldl (fun g t => g.add s t) cleared

/-- Makes the given keys the dependees of `t`. -/
def replaceDependees (g : DependencyGraph) (t : String) (ss : List String) : DependencyGraph :=
  let cleared := (g.dependeesOf t).toList.foldl (fun g s => g.remove s t) g
  ss.foldl (fun g s => g.add s t) cleared

end DependencyGraph

end Recalc
