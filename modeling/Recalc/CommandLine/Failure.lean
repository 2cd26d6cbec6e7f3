import Recalc.Export.File
import Recalc.Workspace.Project

/-!
# Failures of commands

What may go wrong in a command, and of which kind it is. Each command tells the failures of some
kinds in one line; any other failure breaks it off.
-/

namespace Recalc.CommandLine

/-- Why a logged event cannot be shown as a line. -/
inductive EventLineError where
  | missing (key : String)
  /-- A level that is no text. -/
  | unpadded (level : Datum CodePoints)
  | unencodable (e : CodePoints.EncodeError)

def EventLineError.message : EventLineError → String
  | .missing key => Text.quoted key
  | .unpadded level =>
    match level with
    | .integer _ | .real _ | .bool _ =>
      "Unknown format code 's' for object of type " ++ Text.quoted level.kind
    | _ => "unsupported format string passed to " ++ level.kind ++ ".__format__"
  | .unencodable e => e.message

inductive Failure where
  | project (e : ProjectError)
  | sheet (e : SheetFailure)
  | edit (e : EditError)
  | name (e : InvalidName)
  | export (e : ExportError)
  | query (e : QueryError)
  | disk (e : DiskError)
  /-- A path that leads in a circle. -/
  | loop (path : CodePoints)
  | eventLine (e : EventLineError)

/-- The kinds of failures that commands tell apart. -/
inductive FailureKind where
  /-- A failure of a sheet: its file, a name or a cycle. -/
  | sheet
  | formula
  /-- A value that is not as it should be. -/
  | value
  /-- Something that is there already. -/
  | existing
  | other
  deriving DecidableEq, Repr

namespace FailureKind

def ofDisk (e : DiskError) : FailureKind :=
  match e.fault with
  | .exists => .existing
  | .embeddedNul | .unencodable _ => .value
  | _ => .other

def ofYaml : Yaml.Fault → FailureKind
  | .malformed _ | .noInteger .. | .longInteger _ | .noReal _ | .badMoment _ => .value
  | .characterNumber n => if n < Yaml.Fault.hugeCharacter then .value else .other
  | .emptyNumber | .hugeReal | .noTruth _ | .noMoment | .tooDeep => .other

def ofSettings : SettingsError → FailureKind
  | .disk e => ofDisk e
  | .yaml _ f => ofYaml f
  | .encoding _ | .noMapping _ => .value

def ofNaming : NamingError → FailureKind
  | .badPattern _ .repetitionTooLarge => .other
  | _ => .value

def ofSheet : SheetFailure → FailureKind
  | .file _ => .sheet
  | .encoding (.encoding _ .unknown) | .encoding (.encoding _ .transformation) => .other
  | .encoding _ | .unreadableNumber _ | .namelessPath _ => .value
  | .disk e => ofDisk e

def ofProject : ProjectError → FailureKind
  | .settings e => ofSettings e
  | .naming e => ofNaming e
  | .sheet e => ofSheet e
  | .disk e => ofDisk e
  | .loop _ => .other
  | .notEmpty _ => .existing

def ofEdit : EditError → FailureKind
  | .notText _ => .other
  | .invalidName _ | .circular _ => .sheet
  | .format _ => .formula
  | .unreadableNumber _ => .value

def ofExport : ExportError → FailureKind
  | .invalidName _ => .sheet
  | .unknownFormat _ => .value
  | .disk e => ofDisk e

end FailureKind

namespace Failure

def kind : Failure → FailureKind
  | .project e => .ofProject e
  | .sheet e => .ofSheet e
  | .edit e => .ofEdit e
  | .name _ => .sheet
  | .export e => .ofExport e
  | .query _ => .other
  | .disk e => .ofDisk e
  | .loop _ | .eventLine _ => .other

def message : Failure → CodePoints
  | .project e => e.message
  | .sheet e => e.message
  | .edit e => e.message
  | .name e => e.message
  | .export e => e.message
  | .query e => e.message
  | .disk e => e.message
  | .loop path => DiskError.loopText path
  | .eventLine e => e.message

end Failure

end Recalc.CommandLine
