import Recalc.Log.Event

/-!
# Clipping

Long texts in the context of an event are cut, at every depth, and a mark shows where. Keys and all
other data stay as they are.
-/

namespace Recalc

/-- The longest text that is kept whole. -/
def clipLength : Nat := 256

def clipMark : CodePoints := "...[truncated]"

def clipText (s : CodePoints) : CodePoints :=
  if s.length ≤ clipLength then s else s.take clipLength ++ clipMark

mutual
def Datum.clip : Datum CodePoints → Datum CodePoints
  | .text s => .text (clipText s)
  | .list items => .list (clipItems items)
  | .map entries => .map (clipEntries entries)
  | d => d

def clipItems : List (Datum CodePoints) → List (Datum CodePoints)
  | [] => []
  | d :: rest => d.clip :: clipItems rest

def clipEntries : Datum.Entries → Datum.Entries
  | [] => []
  | (k, v) :: rest => (k, v.clip) :: clipEntries rest
end

def Event.clipped (e : Event) : Event :=
  { e with context := clipEntries e.context }

end Recalc
