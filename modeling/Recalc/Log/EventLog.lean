import Recalc.Json.Writer
import Recalc.Log.Event
import Recalc.Storage.Disk
import Recalc.Text.Blank
import Recalc.Text.Lines
import Recalc.Text.Utf8

/-!
# Event logs

The log of a project is a file with one event per line. Events are appended, and a query looks at
the end of the file from the newest event backwards. Lines that hold no JSON object are passed over.
How deeply events are nested is limited by what the stack leaves, `room`, when they are written and
when they are read.
-/

namespace Recalc

open Recalc.Text

structure EventLog where
  directory : Path
  /-- Whether every event is forced out to the disk; this leaves no trace in what is on it. -/
  forced : Bool
  /-- How many bytes at the end of the file a query looks at. -/
  tailBytes : Int

/-- What a query asks for; an empty text asks for nothing. -/
structure EventQuery where
  level : CodePoints
  kind : CodePoints
  cell : CodePoints
  limit : Int

/-- Why an event is not logged. -/
inductive LogError where
  | json (e : Json.WriteError)
  | disk (e : DiskError)

def LogError.message : LogError → String
  | .json e => e.message
  | .disk e => e.message

/-- Why a query has no answer. -/
inductive QueryError where
  | disk (e : DiskError)
  | json (e : Json.ReadError)
  /-- A context that is no mapping, where a cell is asked for. -/
  | noMapping (kind : String)

def QueryError.message : QueryError → String
  | .disk e => e.message
  | .json e => e.message
  | .noMapping kind => "'" ++ kind ++ "' object has no attribute 'get'"

namespace EventLog

def directoryName : String := "logs"

def fileName : String := "events.ndjson"

def defaultTailBytes : Int := 2 * 1024 * 1024

/-- The most events that a query gives. -/
def limitCap : Int := 2000

def defaultLimit : Int := 200

def file (log : EventLog) : Path :=
  log.directory.child fileName

/-- The log of a project; its directory is made if it is missing. -/
def openIn (disk : Disk) (project : Path) (forced : Bool) (tailBytes : Option Int) :
    Except DiskError EventLog × Disk :=
  let directory := project.child directoryName
  let (made, disk) := disk.makeDirectories directory true
  (made.map fun _ => ⟨directory, forced, tailBytes.getD defaultTailBytes⟩, disk)

/-! ### Writing -/

/-- The line of an event, with the keys in order. -/
def line (e : Event) : String :=
  Json.line (Json.sortKeys e.toDatum)

/-- Adds the line of an event to a log. -/
def write (log : EventLog) (room : Nat) (disk : Disk) (e : Event) : Except LogError Disk :=
  match Json.fault? room 0 (Json.sortKeys e.toDatum) with
  | some fault => .error (.json fault)
  | none => (disk.append log.file (toUtf8 (line e ++ "\n"))).mapError .disk

/-! ### Reading -/

/-- The octets of the lines that begin within the last `count` octets of a log; when there are more
octets, what comes before the first line end among them is left out. -/
def tail (octets : Octets) (count : Nat) : Octets :=
  if octets.length ≤ count then octets
  else ((octets.drop (octets.length - count)).dropWhile (· ≠ 0x0A)).drop 1

/-- The mapping that a line holds, if it holds one. -/
def readLine (room : Nat) (s : String) : Except Json.ReadError (Option Datum.Entries) :=
  if s.toList.all isBlank then .ok none
  else
    match Json.parse room s with
    | .ok (.map entries) => .ok (some entries)
    | .ok _ | .error .malformed => .ok none
    | .error e => .error e

/-- The mappings in a log, oldest first. -/
def readLines (room : Nat) : List String → Except Json.ReadError (List Datum.Entries)
  | [] => .ok []
  | s :: rest => do
    let entries? ← readLine room s
    let more ← readLines room rest
    return match entries? with | some entries => entries :: more | none => more

/-- The mappings that a query looks at, oldest first. -/
def load (log : EventLog) (room : Nat) (disk : Disk) :
    Except QueryError (List Datum.Entries) := do
  if !(← (disk.has log.file).mapError .disk) then return []
  if log.tailBytes < 0 then throw (.disk ⟨.invalidArgument, none⟩)
  match disk.read log.file with
  | .ok octets =>
    (readLines room (lines (ofUtf8Lossy (tail octets log.tailBytes.toNat)))).mapError .json
  | .error e => throw (.disk ⟨e.fault, none⟩)

/-- Whether the text under a key is the one that is asked for. -/
def matchesKey (entries : Datum.Entries) (key wanted : CodePoints) : Bool :=
  wanted = [] || (entries.find? key).any fun d => d.text? == some wanted

/-- Whether the context of a logged event names the cell that is asked for. -/
def matchesCell (entries : Datum.Entries) (wanted : CodePoints) : Except QueryError Bool :=
  if wanted = [] then .ok true
  else
    match entries.find? "context" with
    | some (.map context) => .ok (matchesKey context "cell" wanted)
    | some d => if d.isTruthy then .error (.noMapping d.kind) else .ok false
    | none => .ok false

def matchesQuery (q : EventQuery) (entries : Datum.Entries) : Except QueryError Bool :=
  if matchesKey entries "level" q.level && matchesKey entries "event_type" q.kind then
    matchesCell entries q.cell
  else .ok false

/-- The first events that a query asks for; looking ends with the one that reaches the limit, after
`found` of them. -/
def select (q : EventQuery) (limit : Int) (found : Nat) :
    List Datum.Entries → Except QueryError (List Datum.Entries)
  | [] => .ok []
  | entries :: rest => do
    if ← matchesQuery q entries then
      if limit ≤ found + 1 then return [entries]
      return entries :: (← select q limit (found + 1) rest)
    else select q limit found rest

/-- The logged events that a query asks for, newest first. -/
def query (log : EventLog) (room : Nat) (disk : Disk) (q : EventQuery) :
    Except QueryError (List Datum.Entries) := do
  let events ← log.load room disk
  select q (min q.limit limitCap) 0 events.reverse

end EventLog

end Recalc
