import Recalc.Export.Table

/-!
# Comma-separated values

A table as text, one line for each row. A text is put between quotes when a comma, a quote or a line
end is in it, or when nothing is in it, since what is absent is written as nothing.
-/

namespace Recalc.Csv

/-- Numbers are written in the shortest way, as powers of ten from `10 ^ 16` on and below
`10 ^ -5`. -/
def numberLayout : Number.Layout :=
  { Number.Layout.standard with
    positionalFrom := -5
    plusSign := false
    exponentWidth := 1
    nan := "NaN" }

def needsQuotes (s : String) : Bool :=
  s = "" || s.toList.any fun c => c = ',' || c = '"' || c = '\n' || c = '\r'

def field (s : String) : String :=
  if needsQuotes s then
    String.ofList ('"' :: s.toList.flatMap (fun c => if c = '"' then ['"', '"'] else [c]) ++ ['"'])
  else s

def line (fields : List String) : String :=
  ",".intercalate fields ++ "\n"

def row (r : TableRow) : String :=
  line [field r.name, field r.contents, field r.value, (r.number.map numberLayout.write).getD "",
    (r.error.map field).getD ""]

/-- The text of a table, with the titles of the columns first. -/
def text (rows : List TableRow) : String :=
  line Sheet.tableColumns ++ String.join (rows.map row)

end Recalc.Csv
