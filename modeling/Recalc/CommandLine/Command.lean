import Recalc.CommandLine.Arguments

/-!
# Commands

The commands of the program, with what they take, and how a command is read from arguments. Help is
given before anything else is checked.
-/

namespace Recalc.CommandLine

inductive Command where
  | new (directory sheetName : String)
  | set (file name contents : String) (project : Option String)
  | get (file name : String) (project : Option String) (asJson : Bool)
  | show (file : String) (project : Option String) (asJson : Bool)
  | evaluate (expression : String) (items : List String)
  | version (file : String)
  | export (file output : String) (project : Option String)
  | events (directory : String) (query : EventQuery) (asJson : Bool)

/-- A command as it is used. -/
structure Form where
  name : String
  /-- What the command does, line by line; the first line is the summary. -/
  about : List String
  operands : List Operand
  switches : List Switch
  build : Parts → Command

def programName : String := "gridcalc"

def programVersion : String := "0.1.0"

def programAbout : List String :=
  ["gridcalc -- recalculating spreadsheet engine for named cells."]

/-! ### Switches -/

def helpSwitch : Switch := ⟨"--help", none, "", ["Show this message and exit."]⟩

def versionSwitch : Switch := ⟨"--version", none, "", ["Show the version and exit."]⟩

def projectSwitch : Switch :=
  ⟨"--project", some (.path .directory false), "DIRECTORY",
    ["Project directory holding gridcalc.yaml (default: the", "sheet's directory)."]⟩

def jsonSwitch : Switch := ⟨"--json", none, "", ["Output as JSON."]⟩

/-! ### Forms -/

/-- The file of a sheet that has to be there. -/
def sheetFile : Operand := ⟨"FILE", .path .file true⟩

/-- How many events are shown by default. -/
def shownEvents : Int := 50

def eventSwitches : List Switch := [
  ⟨"--level", some (.oneOf ["info", "warning", "error"]), "[info|warning|error]", []⟩,
  ⟨"--type", some .text, "TEXT", ["Filter by event type."]⟩,
  ⟨"--cell", some .text, "TEXT", ["Filter by cell name."]⟩,
  ⟨"--limit", some .integer, "INTEGER", ["[default: 50]"]⟩]

def eventQuery (p : Parts) : EventQuery where
  level := (p.value? "--level").getD ""
  kind := (p.value? "--type").getD ""
  cell := (p.value? "--cell").getD ""
  limit := ((p.value? "--limit").bind Number.parseInt?).getD shownEvents

def forms : List Form := [
  { name := "eval"
    about := ["Evaluate a standalone formula EXPRESSION."]
    operands := [⟨"EXPRESSION", .text⟩]
    switches := [⟨"--var", some .text, "TEXT", ["Variable value as NAME=VALUE."]⟩]
    build := fun p => .evaluate (p.operand 0) (p.values "--var") },
  { name := "events"
    about := ["Show logged events for the project in DIRECTORY, newest first."]
    operands := [⟨"DIRECTORY", .path .directory true⟩]
    switches := eventSwitches ++ [jsonSwitch]
    build := fun p => .events (p.operand 0) (eventQuery p) (p.has "--json") },
  { name := "export"
    about := ["Export the cells of FILE to OUTPUT (.csv or .parquet)."]
    operands := [sheetFile, ⟨"OUTPUT", .path .file false⟩]
    switches := [projectSwitch]
    build := fun p => .export (p.operand 0) (p.operand 1) (p.value? "--project") },
  { name := "get"
    about := ["Show the contents and value of cell NAME."]
    operands := [sheetFile, ⟨"NAME", .text⟩]
    switches := [projectSwitch, jsonSwitch]
    build := fun p => .get (p.operand 0) (p.operand 1) (p.value? "--project") (p.has "--json") },
  { name := "new"
    about := ["Scaffold a new project at DIRECTORY."]
    operands := [⟨"DIRECTORY", .path .any false⟩]
    switches := [⟨"--sheet", some .text, "TEXT", ["Name of the initial sheet file."]⟩]
    build := fun p => .new (p.operand 0) ((p.value? "--sheet").getD "sheet") },
  { name := "set"
    about := ["Set cell NAME in FILE to CONTENTS and save.", "",
      "CONTENTS is a number, text, or a formula starting with '='.  An empty string",
      "clears the cell.  Every recalculated cell is printed."]
    operands := [⟨"FILE", .path .file false⟩, ⟨"NAME", .text⟩, ⟨"CONTENTS", .text⟩]
    switches := [projectSwitch]
    build := fun p => .set (p.operand 0) (p.operand 1) (p.operand 2) (p.value? "--project") },
  { name := "show"
    about := ["List every non-empty cell in FILE."]
    operands := [sheetFile]
    switches := [projectSwitch, jsonSwitch]
    build := fun p => .show (p.operand 0) (p.value? "--project") (p.has "--json") },
  { name := "version"
    about := ["Print the version tag stored in FILE."]
    operands := [sheetFile]
    switches := []
    build := fun p => .version (p.operand 0) }]

def Form.allSwitches (f : Form) : List Switch :=
  f.switches ++ [helpSwitch]

/-! ### Help -/

/-- Lists entries with their explanations in a second column. -/
def columns (rows : List (String × List String)) : List String :=
  let width := (rows.map fun (label, _) => label.length).foldl max 0
  rows.flatMap fun (label, lines) =>
    let padded (s : String) : String :=
      "  " ++ s ++ String.ofList (List.replicate (width + 2 - s.length) ' ')
    match lines with
    | [] => ["  " ++ label]
    | first :: more => (padded label ++ first) :: more.map (padded "" ++ ·)

def Switch.row (s : Switch) : String × List String :=
  (if s.valueName = "" then s.name else s.name ++ " " ++ s.valueName, s.help)

/-- A page of help. -/
def page (usage : String) (about : List String) (switches : List Switch) (more : List String) :
    List String :=
  [usage, ""] ++ about.map (fun line => if line = "" then "" else "  " ++ line) ++
    ["", "Options:"] ++ columns (switches.map Switch.row) ++ more

/-- The line of usage of the program, or of a command. -/
def usageLine : Option Form → String
  | none => "Usage: " ++ programName ++ " [OPTIONS] COMMAND [ARGS]..."
  | some f =>
    "Usage: " ++ " ".intercalate ([programName, f.name, "[OPTIONS]"] ++ f.operands.map Operand.name)

def helpPage : Option Form → List String
  | none =>
    page (usageLine none) programAbout [versionSwitch, helpSwitch]
      (["", "Commands:"] ++ columns (forms.map fun f => (f.name, f.about.take 1)))
  | some f => page (usageLine (some f)) f.about f.allSwitches []

/-- What is said about a misuse of the program, or of a command. -/
def misuseLines (form : Option Form) (m : Misuse) : List String :=
  let path :=
    match form with
    | none => programName
    | some f => programName ++ " " ++ f.name
  let usage := [usageLine form, "Try '" ++ path ++ " --help' for help.", ""]
  (if m.showsUsage then usage else []) ++ ["Error: " ++ m.text]

/-! ### Reading commands -/

/-- What arguments ask for. -/
inductive Request where
  | run (c : Command)
  | help (form : Option Form)
  | version
  | misuse (form : Option Form) (m : Misuse)
  | failure (f : Failure)

/-- Reads the arguments of a command. -/
def Form.read (f : Form) (disk : Disk) (args : List String) : Request :=
  match takeApart f.allSwitches true args with
  | .error m => .misuse (some f) m
  | .ok parts =>
    if parts.has helpSwitch.name then .help (some f)
    else
      match parts.check disk f.switches f.operands with
      | .ok _ => .run (f.build parts)
      | .error (.misuse m) => .misuse (some f) m
      | .error (.failure e) => .failure e

/-- Whether a text begins as a switch would, with a character that is no letter or digit. -/
def beginsAsSwitch (s : String) : Bool :=
  s.toList.head?.any fun c => !Text.isAlphanumeric c

/-- Reads the arguments of the program. -/
def read (disk : Disk) (args : List String) : Request :=
  if args.isEmpty then .help none
  else
    match takeApart [versionSwitch, helpSwitch] false args with
    | .error m => .misuse none m
    | .ok parts =>
      match parts.switches, parts.others with
      | (name, _) :: _, _ => if name = helpSwitch.name then .help none else .version
      | [], [] => .misuse none .missingCommand
      | [], name :: args =>
        match forms.find? (·.name = name) with
        | some f => f.read disk args
        | none => if beginsAsSwitch name then .help none else .misuse none (.unknownCommand name)

end Recalc.CommandLine
