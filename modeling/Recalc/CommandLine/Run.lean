import Recalc.CommandLine.Command
import Recalc.Json.Writer
import Recalc.Text.Styling

/-!
# Running commands

A command line is run on a disk. It prints lines, may leave another disk behind, and ends with an
exit code. A failure that the command does not tell breaks it off; what was printed before stays.
-/

namespace Recalc.CommandLine

/-- What the run of a command line gives. -/
structure Outcome where
  exit : Nat
  output : String
  warnings : String
  /-- What is said about an error that ended the run. -/
  errors : String
  /-- The failure that broke the command off. -/
  failure : Option Failure

/-- How a command ends. -/
inductive Ending where
  | done
  /-- With a line about what is wrong. -/
  | told (message : String)
  /-- With a failure that the command does not tell. -/
  | brokenOff (f : Failure)

/-- What a command prints, and how it ends. -/
structure Report where
  lines : List String
  ending : Ending

namespace Report

def done (lines : List String) : Report := ⟨lines, .done⟩

def refused (message : String) : Report := ⟨[], .told message⟩

/-- Ends with a failure, which is told if it is of one of some kinds. -/
def failed (told : List FailureKind) (f : Failure) : Report :=
  ⟨[], if f.kind ∈ told then .told f.message.lossy else .brokenOff f⟩

/-- Goes on with a result unless it is a failure. -/
def andThen {α : Type} (told : List FailureKind) (r : Except Failure α) (next : α → Report) :
    Report :=
  match r with
  | .ok a => next a
  | .error f => failed told f

/-- The lines of some results, up to the first failure. -/
def ofEach {α : Type} (line : α → Except Failure String) : List α → Report
  | [] => done []
  | a :: rest =>
    match line a with
    | .error f => failed [] f
    | .ok s =>
      let more := ofEach line rest
      { more with lines := s :: more.lines }

end Report

/-! ### Cells -/

/-- Fills a text with blanks up to a width. -/
def padded (width : Nat) (s : String) : String :=
  s ++ String.ofList (List.replicate (width - s.length) ' ')

/-- A row of a table as data. -/
def rowDatum (r : TableRow) : Datum CodePoints :=
  let fields : List (CodePoints × Datum CodePoints) :=
    [("name", .text r.name), ("contents", .text r.contents), ("value", .text r.value)]
  let error : List (CodePoints × Datum CodePoints) :=
    match r.error with
    | some reason => [("error", .text reason)]
    | none => []
  .record (fields ++ error)

/-- The directory of the project that a file belongs to: the given one, or else that of the file. -/
def projectFor (disk : Disk) (p : Path) (project : Option String) : Except Failure Path :=
  match project.filter (· ≠ "") with
  | some d => .ok (.ofText d)
  | none =>
    let full := disk.resolve p
    if disk.isLoop full then .error (.loop full.text) else .ok full.parent

/-- Opens the sheet of a file, with events going to the log of its project. -/
def openFile (w : Workspace) (file : String) (project : Option String) :
    Except Failure (Path × Sheet) × Workspace :=
  let p := Path.ofText file
  match projectFor w.disk p project with
  | .error f => (.error f, w)
  | .ok directory =>
    match Settings.load w.disk directory with
    | .error e => (.error (.project (.settings e)), w)
    | .ok settings =>
      match w.logTo directory with
      | (.error e, w) => (.error (.disk e), w)
      | (.ok _, w) =>
        let (sheet, w) := w.openSheet p settings
        (sheet.mapError .project |>.map (p, ·), w)

/-- The failures that are told when a sheet is opened. -/
def toldOnOpening : List FailureKind := [.sheet, .value]

/-- Uses the sheet of a file. -/
def withSheet (w : Workspace) (file : String) (project : Option String)
    (use : Path → Sheet → Workspace → Report × Workspace) : Report × Workspace :=
  match openFile w file project with
  | (.error f, w) => (.failed toldOnOpening f, w)
  | (.ok (p, s), w) => use p s w

def setCell (name contents : String) (p : Path) (s : Sheet) (w : Workspace) :
    Report × Workspace :=
  let told : List FailureKind := [.sheet, .formula]
  match w.setContents s (.text name) (.text contents) with
  | (.error e, w) => (.failed told (.edit e), w)
  | (.ok (s, order), w) =>
    match w.save s p.text with
    | (.error e, _, w) => (.failed told (.sheet e), w)
    | (.ok _, s, w) =>
      let line (cell : String) : Except Failure String :=
        match s.value (.text cell) with
        | .ok v => .ok (cell ++ " = " ++ v.display)
        | .error e => .error (.name e)
      (.ofEach line order, w)

def getCell (name : String) (asJson : Bool) (s : Sheet) : Report :=
  .andThen [.sheet] ((TableRow.ofCell s name).mapError .name) fun r =>
    .done (if asJson then [Json.indented (rowDatum r)]
      else ["contents: " ++ r.contents, "value:    " ++ r.value])

def showCells (asJson : Bool) (s : Sheet) : Report :=
  .andThen [] (s.table.mapError .name) fun rows =>
    .done (if asJson then [Json.indented (.list (rows.map rowDatum))]
      else if rows.isEmpty then ["No cells."]
      else rows.map fun r =>
        "  " ++ padded 10 r.name ++ " " ++ padded 30 r.contents ++ " " ++ r.value)

def exportCells (output : String) (s : Sheet) (w : Workspace) : Report × Workspace :=
  let p := Path.ofText output
  match s.exportTo p w.disk with
  | .error e => (.failed [.value] (.export e), w)
  | .ok disk =>
    (.done ["Exported " ++ toString s.names.length ++ " cells to " ++ p.text.lossy],
      { w with disk })

/-! ### Formulas -/

/-- A variable with its number, from a text with an equals sign between them. -/
def readVariable (item : String) : Except String (String × Float) :=
  let cs := item.toList
  let name := String.ofList (cs.takeWhile (· ≠ '='))
  match cs.dropWhile (· ≠ '=') with
  | [] => .error ("Invalid --var format: " ++ Text.quoted item ++ ". Use NAME=VALUE.")
  | _ :: value =>
    let value := String.ofList value
    match Number.parse? value with
    | some x => .ok (Text.strip name, x)
    | none => .error ("Invalid number for " ++ Text.quoted name ++ ": " ++ Text.quoted value)

/-- The answer to a variable: the number that was given last. -/
def answer (given : List (String × Float)) (name : String) : Except EvaluationError Float :=
  match given.reverse.lookup name with
  | some x => .ok x
  | none => .error (.unresolvedBecause name (Text.quoted name))

/-- An expression without the equals sign that it may begin with. -/
def formulaText (expression : String) : String :=
  match expression.toList with
  | '=' :: rest => String.ofList rest
  | _ => expression

def evaluateExpression (expression : String) (items : List String) : Report :=
  match items.mapM readVariable with
  | .error message => .refused message
  | .ok given =>
    match Formula.parse (formulaText expression) .free with
    | .error e => .refused e.message
    | .ok f =>
      match f.evaluate (answer given) with
      | .ok x => .done [(Value.number x).display]
      | .error e => .refused e.reason

/-! ### Events -/

/-- An entry of a logged event. -/
def eventEntry (event : Datum.Entries) (key : String) : Except Failure (Datum CodePoints) :=
  match event.find? key with
  | some d => .ok d
  | none => .error (.eventLine (.missing key))

/-- A logged event as one line. A line with a surrogate cannot be printed. -/
def eventLine (event : Datum.Entries) : Except Failure String := do
  let code : CodePoints :=
    match event.find? "error_code" with
    | some d => if d.isTruthy then " [" ++ d.shown ++ "]" else ""
    | none => ""
  let time ← eventEntry event "ts"
  let level ←
    match ← eventEntry event "level" with
    | .text s => pure (s ++ List.replicate (7 - s.length) (.char ' '))
    | d => throw (.eventLine (.unpadded d))
  let kind ← eventEntry event "event_type"
  let message ← eventEntry event "message"
  let line := time.shown ++ "  " ++ level ++ " " ++ kind.shown ++ code ++ "  " ++ message.shown
  line.encoded.mapError fun e => .eventLine (.unencodable e)

def showEvents (found : List Datum.Entries) (asJson : Bool) : Report :=
  if asJson then .done [Json.indented (.list (found.map .map))]
  else if found.isEmpty then .done ["No events."]
  else .ofEach eventLine found

def listEvents (directory : String) (q : EventQuery) (asJson : Bool) (w : Workspace) :
    Report × Workspace :=
  match EventLog.openIn w.disk (.ofText directory) false none with
  | (.error e, disk) => (.failed [] (.disk e), { w with disk })
  | (.ok log, disk) =>
    (.andThen [] ((log.query (w.room + 3) disk q).mapError .query) (showEvents · asJson),
      { w with disk })

/-! ### Commands -/

def newProject (directory sheetName : String) (w : Workspace) : Report × Workspace :=
  match w.newProject (.ofText directory) sheetName with
  | (.error e, w) => (.failed [.existing, .sheet] (.project e), w)
  | (.ok p, w) => (.done ["Created project at " ++ p.text.lossy], w)

def showVersion (file : String) (w : Workspace) : Report :=
  .andThen [.sheet] ((StoredSheet.readVersion w.disk file).mapError .sheet) fun v => .done [v.lossy]

def Command.run (c : Command) (w : Workspace) : Report × Workspace :=
  match c with
  | .new directory sheetName => newProject directory sheetName w
  | .set file name contents project => withSheet w file project (setCell name contents)
  | .get file name project asJson =>
    withSheet w file project fun _ s w => (getCell name asJson s, w)
  | .show file project asJson => withSheet w file project fun _ s w => (showCells asJson s, w)
  | .evaluate expression items => (evaluateExpression expression items, w)
  | .version file => (showVersion file w, w)
  | .export file output project =>
    withSheet w file project fun _ s w => exportCells output s w
  | .events directory q asJson => listEvents directory q asJson w

/-- Lines as they are printed. -/
def printed (lines : List String) : String :=
  Text.withoutStyling (String.join (lines.map (· ++ "\n")))

/-- The outcome of a command with the warnings that came up. -/
def Report.outcome (r : Report) (warnings : String) : Outcome :=
  let output := printed r.lines
  match r.ending with
  | .done => ⟨0, output, warnings, "", none⟩
  | .told message => ⟨1, output, warnings, printed ["Error: " ++ message], none⟩
  | .brokenOff f => ⟨1, output, warnings, "", some f⟩

/-- Runs a command line at the time that events carry. How many levels beyond three they may be
nested is told by `room`. -/
def run (disk : Disk) (clock : String) (room : Nat) (args : List String) : Outcome × Disk :=
  match read disk args with
  | .run c =>
    let (report, w) := c.run (.blank disk clock room)
    (report.outcome w.warningText, w.disk)
  | .help form => (⟨0, printed (helpPage form), "", "", none⟩, disk)
  | .version => (⟨0, printed [programName ++ ", version " ++ programVersion], "", "", none⟩, disk)
  | .misuse form m => (⟨2, "", "", printed (misuseLines form m), none⟩, disk)
  | .failure f => (⟨1, "", "", "", some f⟩, disk)

end Recalc.CommandLine
