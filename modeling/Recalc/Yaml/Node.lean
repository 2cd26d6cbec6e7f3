import Recalc.Text.CodePoints

/-!
# Nodes of YAML documents

A document is a tree of scalars, sequences and mappings, each with a tag that tells what it stands
for.
-/

namespace Recalc.Yaml

/-- What a node stands for. -/
inductive Tag where
  | null
  | bool
  | integer
  | real
  | bytes
  | moment
  | text
  | sequence
  | mapping
  | set
  /-- A sequence of mappings with one entry each. -/
  | pairs
  /-- The key of a mapping to be merged. -/
  | merge
  /-- The key of the entry that a mapping stands for as a scalar. -/
  | default
  | other (name : String)
  deriving DecidableEq, Repr

namespace Tag

/-- What the names of the tags with a meaning begin with. -/
def commonStart : String :=
  "tag:" ++ ".".intercalate ["yaml", "org"] ++ ",2002:"

def commonNames : List (String × Tag) := [
  ("null", .null), ("bool", .bool), ("int", .integer), ("float", .real), ("binary", .bytes),
  ("timestamp", .moment), ("str", .text), ("seq", .sequence), ("map", .mapping), ("set", .set),
  ("omap", .pairs), ("pairs", .pairs), ("merge", .merge), ("value", .default)]

def ofName (name : String) : Tag :=
  match commonNames.find? fun (short, _) => commonStart ++ short = name with
  | some (_, tag) => tag
  | none => .other name

end Tag

inductive Node where
  | scalar (tag : Tag) (text : CodePoints)
  | sequence (tag : Tag) (items : List Node)
  | mapping (tag : Tag) (entries : List (Node × Node))

/-- The node of a document without content. -/
def Node.empty : Node := .scalar .null ""

instance : Inhabited Node := ⟨.empty⟩

namespace Node

def tag : Node → Tag
  | .scalar tag _ | .sequence tag _ | .mapping tag _ => tag

end Node

mutual

/-- How many collections are inside each other. -/
def Node.height : Node → Nat
| .scalar .. => 0
| .sequence _ items => itemsHeight items + 1
| .mapping _ entries => entriesHeight entries + 1

def itemsHeight : List Node → Nat
| [] => 0
| n :: ns => max n.height (itemsHeight ns)

def entriesHeight : List (Node × Node) → Nat
| [] => 0
| (k, v) :: rest => max (max k.height v.height) (entriesHeight rest)

end

end Recalc.Yaml
