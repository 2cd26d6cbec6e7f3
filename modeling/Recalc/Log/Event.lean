import Recalc.Datum
import Recalc.Number.Numeral

/-!
# Events

An event tells about one edit of a cell or about reading or writing one sheet file. Its context
holds what it is about. An event whose context does not say which cell or file it belongs to is
kept as a warning that names what is missing.
-/

namespace Recalc

inductive EventLevel where
  | info
  | warning
  | error
  deriving DecidableEq, Repr

inductive EventKind where
  | cellUpdated
  | circularRejected
  | formulaRejected
  | sheetSaved
  | sheetLoaded
  | sheetFailed
  deriving DecidableEq, Repr

namespace EventLevel

def all : List EventLevel := [.info, .warning, .error]

def text : EventLevel → String
  | .info => "info"
  | .warning => "warning"
  | .error => "error"

def ofText? (s : String) : Option EventLevel :=
  all.find? fun level => level.text = s

end EventLevel

namespace EventKind

def all : List EventKind :=
  [.cellUpdated, .circularRejected, .formulaRejected, .sheetSaved, .sheetLoaded, .sheetFailed]

def text : EventKind → String
  | .cellUpdated => "cell_updated"
  | .circularRejected => "circular_rejected"
  | .formulaRejected => "formula_rejected"
  | .sheetSaved => "sheet_saved"
  | .sheetLoaded => "sheet_loaded"
  | .sheetFailed => "sheet_io_failed"

def ofText? (s : String) : Option EventKind :=
  all.find? fun kind => kind.text = s

/-- What the context has to say. A failure with a file says nothing, since the path may be what
failed. -/
def requiredKey? : EventKind → Option String
  | .cellUpdated | .circularRejected | .formulaRejected => some "cell"
  | .sheetSaved | .sheetLoaded => some "path"
  | .sheetFailed => none

end EventKind

/-- The kinds of failure that programs tell apart. -/
inductive FailureCode where
  | formulaFormat
  | circularReference
  | sheetReadFailed
  | sheetWriteFailed
  | versionMismatch
  deriving DecidableEq, Repr

def FailureCode.text : FailureCode → String
  | .formulaFormat => "formula_format"
  | .circularReference => "circular_reference"
  | .sheetReadFailed => "sheet_read_failed"
  | .sheetWriteFailed => "sheet_write_failed"
  | .versionMismatch => "version_mismatch"

structure Event where
  schemaVersion : Int
  time : CodePoints
  level : EventLevel
  kind : EventKind
  context : Datum.Entries
  message : CodePoints
  code : Option CodePoints

namespace Event

/-- The current version of the layout of events. -/
def currentSchema : Int := 1

/-! ### Contexts -/

/-- The context of an event about a cell; the extra entries come last and may replace others. -/
def cellContext (cell : Datum CodePoints) (contents : Option (Datum CodePoints))
    (extra : Datum.Entries) : Datum.Entries :=
  let entries : Datum.Entries := [(.text "cell", cell)]
  let entries :=
    match contents with
    | some c => entries.insert (.text "contents") c
    | none => entries
  entries.update extra

/-- The context of an event about a sheet file. -/
def sheetContext (path version : Option (Datum CodePoints)) (extra : Datum.Entries) :
    Datum.Entries :=
  let entries : Datum.Entries := match path with | some p => [(.text "path", p)] | none => []
  let entries := match version with | some v => entries.insert (.text "version") v | none => entries
  entries.update extra

/-! ### Attribution -/

/-- The required key that is missing from the context. -/
def missingKey? (e : Event) : Option String :=
  e.kind.requiredKey?.filter fun key => (e.context.find? key).isNone

/-- Turns an event that does not say what it is about into a warning. -/
def attributed (e : Event) : Event :=
  match e.missingKey? with
  | none => e
  | some key =>
    { e with
      level := .warning
      context := e.context.insert (.text "_missing_attribution") (.list [.text key]) }

/-! ### Events as data -/

def toDatum (e : Event) : Datum CodePoints :=
  .record [("schema_version", .integer e.schemaVersion), ("ts", .text e.time),
    ("level", .text e.level.text), ("event_type", .text e.kind.text), ("context", .map e.context),
    ("message", .text e.message),
    ("error_code", match e.code with | some code => .text code | none => .null)]

/-- A whole number, in any way of writing it. -/
def wholeNumber? : Datum CodePoints → Option Int
  | .bool b => some (if b then 1 else 0)
  | .integer n => some n
  | .real x => Number.toInt? x
  | .text s => do
    let s ← s.string?
    match Number.parseInt? s with
    | some n => some n
    | none => (Number.parse? s).bind Number.toInt?
  | _ => none

/-- The event that fields describe. Level and kind are required; what else is missing is filled
in, and fields that an event does not have are passed over. -/
def ofFields? (now : CodePoints) (fields : Datum.Entries) : Option Event := do
  let level ← (← (← (← fields.find? "level").text?).string?) |> EventLevel.ofText?
  let kind ← (← (← (← fields.find? "event_type").text?).string?) |> EventKind.ofText?
  let schemaVersion ←
    match fields.find? "schema_version" with
    | some d => wholeNumber? d
    | none => some currentSchema
  let time ← match fields.find? "ts" with | some d => d.text? | none => some now
  let context ←
    match fields.find? "context" with
    | some (.map entries) => some entries
    | some _ => none
    | none => some []
  let message ← match fields.find? "message" with | some d => d.text? | none => some []
  let code ←
    match fields.find? "error_code" with
    | some .null | none => some none
    | some (.text code) => some (some code)
    | some _ => none
  return { schemaVersion, time, level, kind, context, message, code }

end Event

end Recalc
