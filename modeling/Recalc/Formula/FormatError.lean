import Recalc.Text.Quoted

/-!
# Malformed formulas

Why a text is no formula, and at which column that shows.
-/

namespace Recalc.Formula

open Recalc.Text

inductive FormatError where
  | empty
  | unrecognized (c : Char) (column : Nat)
  | beginsWrong (column : Nat)
  | endsWrong
  /-- A text that cannot follow an operator or an opening parenthesis. -/
  | operandExpected (text : String) (column : Nat)
  /-- A text that cannot follow an operand. -/
  | operatorExpected (text : String) (column : Nat)
  | unmatchedClose (column : Nat)
  | unmatchedOpen
  | outOfRange (text : String) (column : Nat)
  | notAName (name normal : String)
  | refused (normal : String)
  deriving DecidableEq, Repr

namespace FormatError

def position? : FormatError → Option Nat
  | .unrecognized _ column | .beginsWrong column | .operandExpected _ column
  | .operatorExpected _ column | .unmatchedClose column | .outOfRange _ column => some column
  | .empty | .endsWrong | .unmatchedOpen | .notAName .. | .refused _ => none

def detail : FormatError → String
  | .empty => "Formula is empty"
  | .unrecognized c _ => "Unrecognized token " ++ quoted (String.singleton c)
  | .beginsWrong _ => "Formula cannot begin with an operator or ')'"
  | .endsWrong => "Formula cannot end with an operator or '('"
  | .operandExpected text _ =>
    quoted text ++ " cannot follow an operator or '('; expected a number, a variable, or '('"
  | .operatorExpected text _ =>
    quoted text ++ " cannot follow a number, a variable, or ')'; expected an operator or ')'"
  | .unmatchedClose _ => "Unbalanced parentheses: ')' has no matching '('"
  | .unmatchedOpen => "Unbalanced parentheses: missing ')'"
  | .outOfRange text _ => "Numeric literal " ++ quoted text ++ " is out of range"
  | .notAName name normal =>
    "Variable " ++ quoted name ++ " normalizes to " ++ quoted normal ++
      ", which is not a valid variable"
  | .refused normal => "Variable " ++ quoted normal ++ " is rejected by the validator"

def message (e : FormatError) : String :=
  "Formula format error: " ++ e.detail ++
    match e.position? with
    | some column => " (at position " ++ toString column ++ ")"
    | none => ""

end FormatError

end Recalc.Formula
