import Recalc.CommandLine.Run
import Std.Time.DateTime.PlainDateTime
import Std.Time.DateTime.Timestamp

/-!
# The program

What a command may look at is taken from the file system to a disk, the command is run on this disk,
and the changes that it makes are then made to the file system.
-/

namespace Recalc.CommandLine

/-- The time that an event carries. -/
def clockText (now : Std.Time.PlainDateTime) : String :=
  let date := [Moment.padded 4 now.year.toInt.toNat, Moment.padded 2 now.month.toNat,
    Moment.padded 2 now.day.toNat]
  let time := [now.hour.toNat, now.minute.toNat, now.second.toNat].map (Moment.padded 2)
  let microseconds := now.nanosecond.toNat / 1000
  "-".intercalate date ++ "T" ++ ":".intercalate time ++ "." ++ Moment.padded 6 microseconds ++ "Z"

/-! ### From the file system -/

/-- The texts in an argument that may be paths: all of it, and the value of a switch. -/
def pathTexts (arg : String) : List String :=
  match splitSwitch arg with
  | (_, some value) => [arg, value]
  | (_, none) => [arg]

/-- The files that a command looks for in a directory. -/
def projectPlaces (directory : Location) : List Location :=
  [[Settings.fileName], [EventLog.directoryName], [EventLog.directoryName, EventLog.fileName]].map
    (directory ++ ·)

/-- The places on the way to a location. -/
def placesTo (l : Location) : List Location :=
  (List.range l.length).map fun n => l.take (n + 1)

/-- The places that a command looks at because of a path. -/
def placesAt (disk : Disk) (p : Path) : List Location :=
  let l := (disk.resolve p).fileNames
  placesTo l ++ [(disk.resolve (StoredSheet.interimPath p)).fileNames] ++ projectPlaces l ++
    projectPlaces l.dropLast

/-- The text of a place in the file system. Names that are no UTF-8 are out of reach. -/
def placeText (place : String) : String :=
  (CodePoints.ofFileName place).lossy

/-- Adds what is at a place to a disk. -/
def addPlace (disk : Disk) (l : Location) : IO Disk := do
  let path := (← IO.currentDir) / placeText (Disk.locationText l)
  if ← path.isDir then return disk.put l .directory
  match ← (IO.FS.readBinFile path).toBaseIO with
  | .ok octets => return disk.put l (.file octets.toList)
  | .error _ => return disk

/-- Adds the names in a directory to a disk, for what else is in it. -/
def addNames (disk : Disk) (l : Location) : IO Disk := do
  let path := (← IO.currentDir) / placeText (Disk.locationText l)
  if !(← path.isDir) then return disk
  let names := (← path.readDir).map fun entry => CodePoints.fileName entry.fileName
  return names.foldl (fun disk name =>
    if (disk.node? (l ++ [name])).isSome then disk else disk.put (l ++ [name]) (.file [])) disk

/-- The disk with all that a command may look at. -/
def diskFor (args : List String) : IO Disk := do
  let start : Disk := ⟨∅, (Path.ofText (← IO.currentDir).toString).fileNames, fun _ _ => none⟩
  let paths := (args.flatMap pathTexts).map fun (text : String) => Path.ofText text
  let places := placesTo start.workingDirectory ++ paths.flatMap (placesAt start)
  let disk ← places.foldlM addPlace start
  (paths.map fun p => (start.resolve p).fileNames).foldlM addNames disk

/-! ### To the file system -/

/-- Writes a file beside its place and moves it there. -/
def putFile (place : String) (octets : Octets) : IO Unit := do
  let interim := placeText place ++ ".new"
  IO.FS.writeBinFile interim ⟨octets.toArray⟩
  IO.FS.rename interim (placeText place)

/-- Makes the changes that lead from one disk to another. -/
def makeChanges (before after : Disk) : IO Unit := do
  for (place, node) in after.nodes.toList do
    if before.nodes[place]? ≠ some node then
      match node with
      | .directory => IO.FS.createDir (placeText place)
      | .file octets => putFile place octets
      | .locked .. | .loop => pure ()
  for place in before.nodes.keys do
    if place ∉ after.nodes then IO.FS.removeFile (placeText place)

end Recalc.CommandLine

open Recalc CommandLine in
def main (args : List String) : IO UInt32 := do
  let now ← Std.Time.Timestamp.now
  let wallTime := Std.Time.WallTime.ofDuration now.toDurationSinceUnixEpoch
  let before ← diskFor args
  let (outcome, after) := run before (clockText (.ofWallTime wallTime)) 900 args
  makeChanges before after
  IO.print outcome.output
  IO.eprint (outcome.warnings ++ outcome.errors)
  if let some failure := outcome.failure then IO.eprintln failure.message.lossy
  return outcome.exit.toUInt32
