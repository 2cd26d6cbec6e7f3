import Recalc.Datum.Shown
import Recalc.Dependency.Order
import Recalc.Sheet.Contents

/-!
# Sheets

A sheet stores the cells that are not empty, each with its contents and the value that was computed
last, together with the dependencies of the formulas. Names are brought into normal form by the
naming policy of the sheet before anything else.
-/

namespace Recalc

structure Cell where
  contents : Contents
  value : Value

abbrev Cells := Std.ExtTreeMap String Cell

structure Sheet where
  naming : Naming
  version : CodePoints
  cells : Cells
  graph : DependencyGraph
  /-- Whether the sheet was edited since it was created, loaded or saved. -/
  changed : Bool

/-- A name that is refused, as it was given. -/
structure InvalidName where
  name : Datum

def InvalidName.message (e : InvalidName) : String :=
  "Invalid cell name: " ++ e.name.quoted

/-- The version of a sheet when nothing else is said. -/
def defaultVersion : String := "default"

namespace Sheet

def empty (naming : Naming) (version : CodePoints) : Sheet :=
  ⟨naming, version, ∅, ∅, false⟩

instance : Inhabited Sheet := ⟨empty .free defaultVersion⟩

/-- The normal form of a name. -/
def checkName (s : Sheet) (name : Datum) : Except InvalidName String :=
  match name.text? with
  | none => .error ⟨name⟩
  | some text =>
    match s.naming.canonical? text with
    | some normal => .ok normal
    | none => .error ⟨name⟩

/-! ### Queries -/

/-- The names of the cells that are not empty, in order. -/
def names (s : Sheet) : List String :=
  s.cells.keys

def contents (s : Sheet) (name : Datum) : Except InvalidName Contents :=
  (s.checkName name).map fun n => (s.cells[n]?.map Cell.contents).getD (.text "")

def value (s : Sheet) (name : Datum) : Except InvalidName Value :=
  (s.checkName name).map fun n => (s.cells[n]?.map Cell.value).getD (.text "")

/-- The cells whose formulas mention a name. -/
def directDependents (s : Sheet) (name : Datum) : Except InvalidName Names :=
  (s.checkName name).map s.graph.dependentsOf

/-- One line about the sheet. -/
def summary (s : Sheet) : String :=
  "Spreadsheet(cells=" ++ toString s.cells.size ++ ", version=" ++ s.version.quoted ++ ")"

end Sheet

end Recalc
