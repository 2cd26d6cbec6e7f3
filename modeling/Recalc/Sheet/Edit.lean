import Recalc.Sheet.Basic

/-!
# Edits

To set the contents of a cell is to put its dependencies in place, to find the cells that have to
be recalculated, and to recalculate them in order. An edit that would make a cell depend on itself
is refused, as are bad names and texts, and a refused edit leaves no trace.
-/

namespace Recalc

/-- Why an edit is refused. -/
inductive EditError where
  | notText (kind : String)
  | invalidName (e : InvalidName)
  | format (e : Formula.FormatError)
  | unreadableNumber (text : String)
  /-- A cycle of cells; the first is repeated at the end. -/
  | circular (path : List String)

namespace EditError

def message : EditError → String
  | .notText kind => "contents must be a string, got " ++ kind
  | .invalidName e => e.message
  | .format e => e.message
  | .unreadableNumber text => "could not convert string to float: " ++ Text.quoted text
  | .circular path => "Circular cell reference: " ++ " -> ".intercalate path

def ofContents : ContentsError → EditError
  | .format e => .format e
  | .unreadableNumber text => .unreadableNumber text

end EditError

/-! ### Recalculation -/

namespace Cells

/-- The number that a cell shows. -/
def number (cells : Cells) (name : String) : Except EvaluationError Float :=
  match cells[name]?.bind fun cell => cell.value.number? with
  | some x => .ok x
  | none => .error (.unresolvedBecause name ("cell " ++ name ++ " does not hold a number"))

/-- Computes the value of a cell anew from the values of the others. -/
def recalculate (cells : Cells) (name : String) : Cells :=
  match cells[name]? with
  | some cell => cells.insert name { cell with value := cell.contents.value cells.number }
  | none => cells

/-- Stores contents under a name; the value is still to be computed. Empty contents are not
stored. -/
def store (cells : Cells) (name : String) (contents : Contents) : Cells :=
  if contents.isEmpty then cells.erase name
  else
    let value := (cells[name]?.map Cell.value).getD (.text "")
    cells.insert name ⟨contents, value⟩

end Cells

namespace Sheet

/-- The given cells and all that depends on them, in recalculation order. -/
def recalculationOrder (s : Sheet) (names : List Datum) : Except EditError (List String) :=
  match names.mapM s.checkName with
  | .error e => .error (.invalidName e)
  | .ok roots => (s.graph.recalculationOrder roots).mapError .circular

/-- Puts contents into a cell. When that closes a cycle, the dependencies that the cell had are put
back. -/
def commit (s : Sheet) (name : String) (contents : Contents) :
    Except EditError (List String) × Sheet :=
  let former := s.graph.dependeesOf name
  let graph := s.graph.replaceDependees name contents.variableSet.toList
  match graph.recalculationOrder [name] with
  | .error cycle =>
    (.error (.circular cycle), { s with graph := graph.replaceDependees name former.toList })
  | .ok order =>
    let cells := order.foldl Cells.recalculate (Cells.store s.cells name contents)
    (.ok order, { s with graph, cells, changed := true })

/-- Sets the contents of a cell from a text. The answer has the recalculated cells in order, and
comes with the sheet as it is afterwards. -/
def setContents (s : Sheet) (name contents : Datum) : Except EditError (List String) × Sheet :=
  match contents.text? with
  | none => (.error (.notText contents.kind), s)
  | some text =>
    match s.checkName name with
    | .error e => (.error (.invalidName e), s)
    | .ok normal =>
      match Contents.ofText s.naming text with
      | .error e => (.error (.ofContents e), s)
      | .ok entered => s.commit normal entered

end Sheet

end Recalc
