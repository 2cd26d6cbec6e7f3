import Recalc.Sheet.Edit
import Recalc.Sheet.Stored
import Recalc.Storage.Disk
import Recalc.Xml.Document
import Recalc.Xml.Writer

/-!
# Sheet files

Sheets are written to a file beside the final one, which then takes its place, so that no reader
meets half a sheet. Reading enters the stored cells one after another into an empty sheet.
-/

namespace Recalc

/-- What is wrong with a sheet file. -/
inductive SheetFault where
  | unreadable (fault : DiskFault)
  | malformed (problem : Xml.Problem) (line column : Nat)
  | structured (fault : StructureFault)
  | versionMismatch (found expected : CodePoints)
  | invalidCell (name : String) (e : EditError)
  | unstorable (fault : StorageFault)
  | unwritable (fault : DiskFault)

def SheetFault.text : SheetFault → String
  | .unreadable fault => "Cannot read spreadsheet: " ++ fault.text
  | .malformed problem line column =>
    "Malformed spreadsheet XML: " ++ (Xml.ReadError.malformed problem line column).message
  | .structured fault => fault.text
  | .versionMismatch found expected =>
    "Version mismatch: file has " ++ found.quoted ++ ", expected " ++ expected.quoted
  | .invalidCell name e => "Invalid cell " ++ Text.quoted name ++ ": " ++ e.message
  | .unstorable fault => "Cannot write spreadsheet: " ++ fault.text
  | .unwritable fault => "Cannot write spreadsheet: " ++ fault.text

/-- A fault of a file, with the path as it was given. -/
structure SheetFileError where
  fault : SheetFault
  path : CodePoints

def SheetFileError.message (e : SheetFileError) : CodePoints :=
  e.fault.text ++ " (" ++ e.path ++ ")"

/-- Why a sheet is not read or written. Most failures are faults of the file. -/
inductive SheetFailure where
  | file (e : SheetFileError)
  | encoding (e : Xml.ReadError)
  | unreadableNumber (text : String)
  | namelessPath (path : CodePoints)
  | disk (e : DiskError)

def SheetFailure.message : SheetFailure → CodePoints
  | .file e => e.message
  | .encoding e => e.message
  | .unreadableNumber text => (EditError.unreadableNumber text).message
  | .namelessPath path => "PosixPath(" ++ path.quoted ++ ") has an empty name"
  | .disk e => e.message

/-! ### Reading -/

namespace StoredSheet

/-- The outermost element of a sheet file. Its faults are told with the plain path. -/
def readRoot (disk : Disk) (path : CodePoints) : Except SheetFailure Xml.Element :=
  let p := Path.ofText path
  match disk.read p with
  | .error e =>
    if e.fault.isUnasked then .error (.disk e)
    else .error (.file ⟨.unreadable e.fault, p.text⟩)
  | .ok octets =>
    match Xml.read octets with
    | .error (.malformed problem line column) =>
      .error (.file ⟨.malformed problem line column, p.text⟩)
    | .error e => .error (.encoding e)
    | .ok root =>
      match versionOf root with
      | .error fault => .error (.file ⟨.structured fault, p.text⟩)
      | .ok _ => .ok root

/-- The sheet that a file stores. -/
def read (disk : Disk) (path : CodePoints) : Except SheetFailure StoredSheet := do
  let root ← readRoot disk path
  (ofElement root).mapError fun fault => .file ⟨.structured fault, path⟩

/-- The version of the sheet that a file stores. -/
def readVersion (disk : Disk) (path : CodePoints) : Except SheetFailure CodePoints := do
  let root ← readRoot disk path
  (versionOf root).mapError fun fault => .file ⟨.structured fault, path⟩

/-! ### Writing -/

/-- What a file with a sheet contains. -/
def octets (s : StoredSheet) : Octets :=
  Text.toUtf8 s.toElement.document

/-- The path of the file that a sheet is first written to. -/
def interimPath (p : Path) : Path :=
  p.withName (p.name ++ ".tmp")

/-- Removes the interim file after a failure; that it is missing does no harm. -/
def cleanUp (disk : Disk) (p : Path) (fault : DiskFault) : Except SheetFailure Unit × Disk :=
  let failure : SheetFailure := .file ⟨.unwritable fault, p.text⟩
  match disk.remove (interimPath p) with
  | .ok disk => (.error failure, disk)
  | .error e => (.error (if e.fault = .notFound then failure else .disk e), disk)

/-- Writes a sheet file. -/
def write (s : StoredSheet) (path : CodePoints) (disk : Disk) : Except SheetFailure Unit × Disk :=
  let p := Path.ofText path
  match s.fault? with
  | some fault => (.error (.file ⟨.unstorable fault, p.text⟩), disk)
  | none =>
    if p.name = [] then (.error (.namelessPath p.text), disk)
    else
      match disk.write (interimPath p) s.octets with
      | .error e =>
        if e.fault.isUnasked then (.error (.disk e), disk) else cleanUp disk p e.fault
      | .ok written =>
        match written.move (interimPath p) p with
        | .ok moved => (.ok (), moved)
        | .error fault => cleanUp written p fault

end StoredSheet

/-! ### Sheets -/

namespace Sheet

/-- What a file keeps of a sheet. -/
def stored (s : Sheet) : StoredSheet :=
  ⟨s.version, s.cells.toList.map fun (name, cell) => (name, cell.contents.toText)⟩

/-- Writes a sheet, and tells the sheet as it is afterwards: one that is written counts as
unchanged. -/
def save (s : Sheet) (path : CodePoints) (disk : Disk) :
    Except SheetFailure Unit × Sheet × Disk :=
  match s.stored.write path disk with
  | (.ok _, disk) => (.ok (), { s with changed := false }, disk)
  | (.error e, disk) => (.error e, s, disk)

/-- Enters cells one after another. The first that is refused is told. -/
def enterAll (s : Sheet) : List (String × String) → Except (String × EditError) Sheet
  | [] => .ok s
  | (name, text) :: rest =>
    match s.setContents (.text name) (.text text) with
    | (.ok _, s) => enterAll s rest
    | (.error e, _) => .error (name, e)

/-- The sheet of a file, which must have the given version. -/
def load (disk : Disk) (path : CodePoints) (naming : Naming) (version : CodePoints) :
    Except SheetFailure Sheet := do
  let stored ← StoredSheet.read disk path
  if stored.version ≠ version then
    throw (.file ⟨.versionMismatch stored.version version, path⟩)
  match (Sheet.empty naming version).enterAll stored.cells with
  | .ok s => return { s with changed := false }
  | .error (_, .unreadableNumber text) => throw (.unreadableNumber text)
  | .error (name, e) => throw (.file ⟨.invalidCell name e, path⟩)

end Sheet

end Recalc
