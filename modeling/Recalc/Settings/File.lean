import Recalc.Datum.Shown
import Recalc.Storage.Disk
import Recalc.Text.Lines
import Recalc.Text.Utf8
import Recalc.Yaml.Document

/-!
# Settings of projects

The settings of a project are the entries of a file in its directory, a mapping in YAML, together
with the defaults for those that it does not give. The version is always a text.
-/

namespace Recalc

/-- Why settings are not read. -/
inductive SettingsError where
  | disk (e : DiskError)
  | encoding (e : Text.Utf8Error)
  | yaml (path : CodePoints) (f : Yaml.Fault)
  | noMapping (path : CodePoints)

def SettingsError.message : SettingsError → CodePoints
  | .disk e => e.message
  | .encoding e => e.message
  | .yaml path (.malformed p) => "Cannot parse " ++ path ++ ": " ++ p.text
  | .yaml _ f => f.message
  | .noMapping path => path ++ " must contain a mapping"

namespace Settings

def fileName : String := "gridcalc.yaml"

def defaults : Datum.Entries := [
  (.text "version", .text "default"),
  (.text "normalize", .text "none"),
  (.text "name_pattern", .null),
  (.text "file_extension", .text ".sprd"),
  (.text "logging_fsync", .bool false),
  (.text "logging_tail_bytes", .integer 2097152)]

/-- The file of a new project. -/
def initialText : String :=
  "# gridcalc project configuration\n" ++
  "version: default\n" ++
  "# Cell-name normalization: none | upper | lower\n" ++
  "normalize: none\n" ++
  "# Extra regex every (normalized) cell name must fully match, e.g. \"[A-Z][1-9][0-9]?\"\n" ++
  "# name_pattern: null\n" ++
  "file_extension: .sprd\n" ++
  "logging_fsync: false\n" ++
  "logging_tail_bytes: 2097152\n"

/-- The value of a setting; one that is missing is null. -/
def value (settings : Datum.Entries) (key : CodePoints) : Datum CodePoints :=
  (settings.find? key).getD .null

/-- The text of a setting. -/
def text (settings : Datum.Entries) (key : CodePoints) : CodePoints :=
  (value settings key).shown

/-- The entries of a file. A file that holds nothing, or a value that counts as nothing, has
none. -/
def read (disk : Disk) (p : Path) : Except SettingsError Datum.Entries := do
  let octets ← (disk.read p).mapError .disk
  let s ← (Text.ofUtf8 octets).mapError .encoding
  let d ← (Yaml.read (String.ofList (Text.unifyLineEnds s.toList))).mapError (.yaml p.text)
  match d with
  | .map entries => return entries
  | d => if d.isTruthy then throw (.noMapping p.text) else return []

/-- The settings of the project in a directory. -/
def load (disk : Disk) (directory : Path) : Except SettingsError Datum.Entries := do
  let p := directory.child fileName
  let found ← (disk.has p).mapError .disk
  let entries ← if found then read disk p else pure []
  let settings := defaults.update entries
  return settings.insert (.text "version") (.text (text settings "version"))

/-! ### Settings of the log -/

/-- The integer that a datum is or writes. -/
def integer? : Datum CodePoints → Option Int
  | .integer n => some n
  | .bool b => some (if b then 1 else 0)
  | .real x => Number.truncate? x
  | .text s => s.string?.bind Number.parseInt?
  | _ => none

/-- Whether events are forced out to the disk. -/
def forcesEvents (settings : Datum.Entries) : Bool :=
  (value settings "logging_fsync").isTruthy

/-- How many bytes of the log queries look at, if that is told; `none` if it is not readable. -/
def tailBytes? (settings : Datum.Entries) : Option (Option Int) :=
  match value settings "logging_tail_bytes" with
  | .null => some none
  | d => (integer? d).map some

end Settings

end Recalc
