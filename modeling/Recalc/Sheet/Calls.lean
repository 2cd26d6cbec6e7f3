import Recalc.Sheet.Edit

/-!
# Calls to sheets

What a sheet can be asked and told, as data. Queries leave the sheet as it is; an edit is the only
call that changes it.
-/

namespace Recalc

/-- What a sheet is asked without being changed. -/
inductive Query where
  | contents (name : Datum)
  | value (name : Datum)
  | directDependents (name : Datum)
  | recalculationOrder (names : List Datum)

inductive Call where
  | setContents (name contents : Datum)
  | query (q : Query)

inductive CallAnswer where
  | order (names : List String)
  | contents (c : Contents)
  | value (v : Value)
  | directDependents (names : Names)

namespace Sheet

def query (s : Sheet) : Query → Except EditError CallAnswer
  | .contents name => ((s.contents name).mapError .invalidName).map .contents
  | .value name => ((s.value name).mapError .invalidName).map .value
  | .directDependents name =>
    ((s.directDependents name).mapError .invalidName).map .directDependents
  | .recalculationOrder names => (s.recalculationOrder names).map .order

/-- A call to a sheet that is in no workspace. -/
def call (s : Sheet) : Call → Except EditError CallAnswer × Sheet
  | .setContents name contents => ((s.setContents name contents).1.map .order,
      (s.setContents name contents).2)
  | .query q => (s.query q, s)

/-- The answers to calls, and the sheet after them. -/
def calls (s : Sheet) : List Call → List (Except EditError CallAnswer) × Sheet
  | [] => ([], s)
  | c :: rest => ((s.call c).1 :: ((s.call c).2.calls rest).1, ((s.call c).2.calls rest).2)

end Sheet

end Recalc
