import Recalc.Log.Clipping
import Recalc.Log.EventLog

/-!
# Workspaces

A workspace is what sheets are edited in: a disk, and a log that events may go to. That an event
cannot be logged is told in a warning and has no other effect.
-/

namespace Recalc

/-- What is warned about. -/
inductive Warning where
  | unreadableSettings
  | loggingFailed
  deriving DecidableEq, Repr

def Warning.text : Warning → String
  | .unreadableSettings => "[gridcalc] could not read logging config\n"
  | .loggingFailed => "[gridcalc] logging failed\n"

structure Workspace where
  disk : Disk
  /-- Where events go; without a log they are dropped. -/
  log : Option EventLog
  /-- The time that events carry. -/
  clock : String
  /-- The warnings given so far, the latest first. -/
  warnings : List Warning
  /-- Whether a further warning would come too soon. -/
  quiet : Bool
  /-- How many levels deeper than the events of sheets an event may be nested. It is what the stack
  leaves beside these, which nest three levels. -/
  room : Nat

namespace Workspace

def blank (disk : Disk) (clock : String) (room : Nat := 0) : Workspace :=
  ⟨disk, none, clock, [], false, room⟩

instance : Inhabited Workspace := ⟨blank default ""⟩

/-- Gives a warning, unless there was one lately. -/
def warn (w : Workspace) (warning : Warning) : Workspace :=
  if w.quiet then w else { w with warnings := warning :: w.warnings, quiet := true }

/-- Adds an event to the log, clipped and attributed. -/
def deliver (w : Workspace) (e : Event) : Except LogError Workspace :=
  match w.log with
  | none => .ok w
  | some log => do
    let disk ← log.write (w.room + 3) w.disk e.clipped.attributed
    return { w with disk }

/-- Logs an event. When that fails, there is a warning. -/
def emit (w : Workspace) (e : Event) : Workspace :=
  match w.deliver e with
  | .ok w => w
  | .error _ => w.warn .loggingFailed

/-- The warnings as they are printed. -/
def warningText (w : Workspace) : String :=
  String.join (w.warnings.reverse.map Warning.text)

end Workspace

end Recalc
