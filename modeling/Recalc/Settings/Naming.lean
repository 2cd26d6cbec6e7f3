import Recalc.Datum.Shown
import Recalc.Name
import Recalc.Pattern.Matching
import Recalc.Pattern.Reader

/-!
# Naming policies from settings

One setting chooses the normal form of names: their own, upper case or lower case. Another is a
pattern that the normal form has to match as a whole. Each may be of any kind and is read by its
text, where a replacement character stands for each surrogate, since names have none; a setting that
is empty, zero or missing asks for nothing.
-/

namespace Recalc

/-- Why a setting does not give a naming policy. -/
inductive NamingError where
  | unknownNormalForm (setting : Datum CodePoints)
  | badPattern (setting : Datum CodePoints) (e : Pattern.PatternError)

namespace NamingError

def message : NamingError → String
  | .unknownNormalForm setting =>
    "Unknown normalize setting " ++ setting.quotedBy CodePoints.quoted ++
      "; expected one of ['lower', 'none', 'upper']"
  | .badPattern setting e =>
    match e with
    | .malformed .. =>
      "Invalid name_pattern " ++ setting.quotedBy CodePoints.quoted ++ ": " ++
        e.message setting.shown.lossy
    | .repetitionTooLarge | .incompatible => e.message setting.shown.lossy

end NamingError

namespace Naming

/-- The function to the normal form, or nothing when names are their own normal forms. -/
def normalizer (setting : Datum CodePoints) : Except NamingError (Option (String → String)) :=
  let mode := if setting.isTruthy then setting.shown.lossy else "none"
  match Text.lower mode with
  | "none" => .ok none
  | "upper" => .ok (some Text.upper)
  | "lower" => .ok (some Text.lower)
  | _ => .error (.unknownNormalForm setting)

/-- The test of a normal form, or nothing when all are accepted. -/
def validator (setting : Datum CodePoints) : Except NamingError (Option (String → Bool)) :=
  if setting.isTruthy then
    match Pattern.parse setting.shown.lossy with
    | .ok nodes => .ok (some (Pattern.matchesAll nodes))
    | .error e => .error (.badPattern setting e)
  else .ok none

/-- The policy of two settings. The pattern is looked at first. -/
def ofSettings (normalize pattern : Datum CodePoints) : Except NamingError Naming := do
  let accepts ← validator pattern
  let normal ← normalizer normalize
  return { normalize := normal.getD id, accepts := accepts.getD fun _ => true }

end Naming

end Recalc
