import Recalc.Settings.File
import Recalc.Settings.Naming
import Recalc.Workspace.Sheets

/-!
# Projects

A project is a directory with settings, sheets and a log. Its settings say how the names of cells
are formed and which version its sheets have.
-/

namespace Recalc

/-- Why something with a project is not done. -/
inductive ProjectError where
  | settings (e : SettingsError)
  | naming (e : NamingError)
  | sheet (e : SheetFailure)
  | disk (e : DiskError)
  /-- A path that leads in a circle. -/
  | loop (path : CodePoints)
  | notEmpty (path : CodePoints)

def ProjectError.message : ProjectError → CodePoints
  | .settings e => e.message
  | .naming e => e.message
  | .sheet e => e.message
  | .disk e => e.message
  | .loop path => DiskError.loopText path
  | .notEmpty path => "Directory is not empty: " ++ path

namespace Workspace

/-- The naming policy that settings ask for. -/
def namingOf (settings : Datum.Entries) : Except NamingError Naming :=
  Naming.ofSettings (Settings.value settings "normalize") (Settings.value settings "name_pattern")

/-- The sheet of a file, or an empty one if there is no file. -/
def openSheet (w : Workspace) (p : Path) (settings : Datum.Entries) :
    Except ProjectError Sheet × Workspace :=
  let version := Settings.text settings "version"
  match namingOf settings with
  | .error e => (.error (.naming e), w)
  | .ok naming =>
    match w.disk.has p with
    | .error e => (.error (.disk e), w)
    | .ok false => (.ok (.empty naming version), w)
    | .ok true =>
      let (outcome, w) := w.load p.text naming version
      (outcome.mapError .sheet, w)

/-- Lets further events go to the log of a project. Settings that cannot be read are told in a
warning, and the log is as it is by default. -/
def logTo (w : Workspace) (project : Path) : Except DiskError Unit × Workspace :=
  let (forced, tailBytes, w) :=
    match Settings.load w.disk project with
    | .error _ => (false, none, w.warn .unreadableSettings)
    | .ok settings =>
      match Settings.tailBytes? settings with
      | some tailBytes => (Settings.forcesEvents settings, tailBytes, w)
      | none => (Settings.forcesEvents settings, none, w.warn .unreadableSettings)
  match EventLog.openIn w.disk project forced tailBytes with
  | (.ok log, disk) => (.ok (), { w with disk, log := some log })
  | (.error e, disk) => (.error e, { w with disk })

/-! ### New projects -/

/-- The directory of a new project with its settings. It must be empty if it is there. -/
def prepareDirectory (disk : Disk) (directory : Path) : Except ProjectError Unit × Disk :=
  let vacant : Except ProjectError Unit := do
    if ← (disk.has directory).mapError .disk then
      if !(← (disk.isEmptyDirectory directory).mapError .disk) then
        throw (.notEmpty directory.text)
  match vacant with
  | .error e => (.error e, disk)
  | .ok _ =>
    match disk.makeDirectories directory true with
    | (.error e, disk) => (.error (.disk e), disk)
    | (.ok _, disk) =>
      match disk.write (directory.child Settings.fileName) (Text.toUtf8 Settings.initialText) with
      | .ok disk => (.ok (), disk)
      | .error e => (.error (.disk e), disk)

/-- The empty sheet of a new project, in a file of the given name. -/
def addSheet (w : Workspace) (directory : Path) (sheetName : String) :
    Except ProjectError Unit × Workspace :=
  match Settings.load w.disk directory with
  | .error e => (.error (.settings e), w)
  | .ok settings =>
    let p := directory.child (sheetName ++ Settings.text settings "file_extension")
    match w.openSheet p settings with
    | (.error e, w) => (.error e, w)
    | (.ok s, w) =>
      let (outcome, _, w) := w.save s p.text
      (outcome.mapError .sheet, w)

/-- Makes a project with an empty sheet; the result is the path of its directory. -/
def newProject (w : Workspace) (p : Path) (sheetName : String) :
    Except ProjectError Path × Workspace :=
  match p.fault? with
  | some fault => (.error (.disk ⟨fault, none⟩), w)
  | none =>
    let directory := w.disk.resolve p
    if w.disk.isLoop directory then (.error (.loop directory.text), w)
    else
      match prepareDirectory w.disk directory with
      | (.error e, disk) => (.error e, { w with disk })
      | (.ok _, disk) =>
        let (outcome, w) := { w with disk }.addSheet directory sheetName
        (outcome.map fun _ => directory, w)

end Workspace

end Recalc
