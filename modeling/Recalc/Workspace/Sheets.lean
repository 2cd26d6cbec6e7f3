import Recalc.Sheet.File
import Recalc.Workspace.Basic

/-!
# Logged operations on sheets

Edits, loading and saving in a workspace. Each does what it does to the sheet and the disk, and then
logs an event about it. An edit that is refused for its name or for the kind of its contents is not
logged.
-/

namespace Recalc

namespace Event

/-- An event about a cell. -/
def aboutCell (time : String) (kind : EventKind) (level : EventLevel)
    (message cell contents : String) (code : Option FailureCode) (extra : Datum.Entries) : Event :=
  { schemaVersion := currentSchema
    time, level, kind, message
    context := cellContext (.text cell) (some (.text contents)) extra
    code := code.map (·.text) }

/-- An event about a sheet file. -/
def aboutSheet (time : String) (kind : EventKind) (level : EventLevel)
    (message path version : CodePoints) (code : Option FailureCode) : Event :=
  { schemaVersion := currentSchema
    time, level, kind, message
    context := sheetContext (some (.text path)) (some (.text version)) []
    code := code.map (·.text) }

/-- The names of cells as data. -/
def cellList (names : List String) : Datum CodePoints :=
  .list (names.map fun (name : String) => .text name)

/-- The event of an edit of a cell with its outcome. -/
def ofEdit? (time cell contents : String) : Except EditError (List String) → Option Event
  | .ok order =>
    some (aboutCell time .cellUpdated .info
      ("Set " ++ cell ++ "; recalculated " ++ toString order.length ++ " cells") cell contents none
      [(.text "recalculated", cellList order)])
  | .error (.format e) =>
    some (aboutCell time .formulaRejected .warning e.message cell contents (some .formulaFormat) [])
  | .error (.circular path) =>
    some (aboutCell time .circularRejected .warning (EditError.circular path).message cell contents
      (some .circularReference) [(.text "cycle", cellList path)])
  | .error _ => none

/-- The event of a failure with a file. -/
def ofFailure? (time : String) (path version : CodePoints) (code : FailureCode) :
    SheetFailure → Option Event
  | .file e => some (aboutSheet time .sheetFailed .error e.message path version (some code))
  | _ => none

/-- The code of a failure to load. -/
def loadCode : SheetFailure → FailureCode
  | .file ⟨.versionMismatch .., _⟩ => .versionMismatch
  | _ => .sheetReadFailed

/-- A number of cells as part of a message. -/
def cellCount (n : Nat) : String :=
  toString n ++ " cells"

end Event

namespace Workspace

def emitAll (w : Workspace) (e? : Option Event) : Workspace :=
  match e? with
  | some e => w.emit e
  | none => w

/-- Sets the contents of a cell from a text, and tells the sheet as it is afterwards. -/
def edit (w : Workspace) (s : Sheet) (name contents : Datum) :
    Except EditError (List String) × Sheet × Workspace :=
  let (outcome, edited) := s.setContents name contents
  let event? :=
    match contents.text?, s.checkName name with
    | some text, .ok cell => Event.ofEdit? w.clock cell text outcome
    | _, _ => none
  (outcome, edited, w.emitAll event?)

/-- Sets the contents of a cell from a text. The sheet is told when that succeeds. -/
def setContents (w : Workspace) (s : Sheet) (name contents : Datum) :
    Except EditError (Sheet × List String) × Workspace :=
  match w.edit s name contents with
  | (.ok order, s, w) => (.ok (s, order), w)
  | (.error e, _, w) => (.error e, w)

/-- Saves a sheet, and tells the sheet as it is afterwards. -/
def save (w : Workspace) (s : Sheet) (path : CodePoints) :
    Except SheetFailure Unit × Sheet × Workspace :=
  let (outcome, saved, disk) := s.save path w.disk
  let event? :=
    match outcome with
    | .ok _ =>
      let message := "Saved " ++ Event.cellCount s.cells.size
      some (Event.aboutSheet w.clock .sheetSaved .info message path s.version none)
    | .error e => Event.ofFailure? w.clock path s.version .sheetWriteFailed e
  (outcome, saved, { w with disk }.emitAll event?)

/-- Loads a sheet. -/
def load (w : Workspace) (path : CodePoints) (naming : Naming) (version : CodePoints) :
    Except SheetFailure Sheet × Workspace :=
  let outcome := Sheet.load w.disk path naming version
  let event? :=
    match outcome with
    | .ok s =>
      let message := "Loaded " ++ Event.cellCount s.cells.size
      some (Event.aboutSheet w.clock .sheetLoaded .info message path version none)
    | .error e => Event.ofFailure? w.clock path version (Event.loadCode e) e
  (outcome, w.emitAll event?)

end Workspace

end Recalc
