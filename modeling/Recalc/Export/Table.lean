import Recalc.Sheet.Basic

/-!
# Tables

The cells of a sheet as a table with one row for each cell, in the order of their names.
-/

namespace Recalc

structure TableRow where
  name : String
  /-- The text that enters the contents. -/
  contents : String
  /-- The value as it is displayed. -/
  value : String
  /-- The value, if it is a number. -/
  number : Option Float
  /-- The reason why there is no number. -/
  error : Option String

namespace TableRow

/-- The row of one cell of a sheet. -/
def ofCell (s : Sheet) (name : String) : Except InvalidName TableRow := do
  let value ← s.value (.text name)
  let contents ← s.contents (.text name)
  return ⟨name, contents.toText, value.display, value.number?, value.error?.map (·.reason)⟩

end TableRow

namespace Sheet

/-- The titles of the columns. -/
def tableColumns : List String := ["name", "contents", "value", "number", "error"]

def table (s : Sheet) : Except InvalidName (List TableRow) :=
  s.names.mapM (TableRow.ofCell s)

end Sheet

end Recalc
