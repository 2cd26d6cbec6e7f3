import Recalc.Export.Csv
import Recalc.Storage.Disk
import Recalc.Text.Case
import Recalc.Text.Utf8

/-!
# Exports

The table of a sheet as a file. The ending of the file's name chooses the format; in a column file
only the mark of the format is kept.
-/

namespace Recalc

/-- Why a sheet is not exported. -/
inductive ExportError where
  | invalidName (e : InvalidName)
  | unknownFormat (suffix : CodePoints)
  | disk (e : DiskError)

def ExportError.message : ExportError → CodePoints
  | .invalidName e => e.message
  | .unknownFormat suffix =>
    "Unsupported export format " ++ suffix.quoted ++ "; use .csv or .parquet"
  | .disk e =>
    e.fault.text ++ " (os error " ++ toString e.fault.number ++ ")" ++
      match e.path with
      | some path => ": " ++ path
      | none => ""

/-- The octets that a column file begins and ends with. -/
def columnMark : Octets := Text.toUtf8 "PAR1"

namespace Sheet

/-- Writes the table of a sheet to a file. -/
def exportTo (s : Sheet) (p : Path) (disk : Disk) : Except ExportError Disk := do
  let rows ← s.table.mapError .invalidName
  match Text.lower p.suffix.lossy with
  | ".csv" => (disk.write p (Text.toUtf8 (Csv.text rows))).mapError .disk
  | ".parquet" => (disk.write p (columnMark ++ columnMark)).mapError .disk
  | _ => throw (.unknownFormat p.suffix)

end Sheet

end Recalc
