import Recalc.Formula.Parse
import Recalc.Formula.Evaluation

/-!
# Contents and values

What a cell holds and what it shows. Contents are entered as text: a number, a formula after an
equals sign, or the text itself. The text of contents is a text that enters them again.
-/

namespace Recalc

open Recalc.Text Recalc.Number

inductive Contents where
  | text (s : String)
  | number (x : Float)
  | formula (f : Formula)

inductive Value where
  | text (s : String)
  | number (x : Float)
  | error (e : EvaluationError)

/-- Why a text cannot be entered. -/
inductive ContentsError where
  | format (e : Formula.FormatError)
  /-- A number with a separator control character beside it. -/
  | unreadableNumber (text : String)

namespace Contents

/-- Whether a cell with these contents is empty, and so not stored. -/
def isEmpty : Contents → Bool
  | .text s => s = ""
  | _ => false

def toText : Contents → String
  | .text s => s
  | .number x => plainText x
  | .formula f => "=" ++ f.text

/-- The names that a formula mentions. -/
def variableSet : Contents → Names
  | .formula f => f.variableSet
  | _ => ∅

/-- A numeral with a sign, between blanks of any kind. -/
def readNumber? (cs : List Char) : Option Float :=
  let (negative, rest) := readSign (cs.dropWhile isBlank)
  match Numeral.read? rest with
  | some (n, rest) => if rest.all isBlank then some (n.value negative) else none
  | none => none

/-- The four separators among the control characters. They are blanks, but a number cannot be
read beside them. -/
def isSeparatorControl (c : Char) : Bool :=
  0x1C ≤ c.toNat && c.toNat ≤ 0x1F

/-- Contents that are no number. -/
def ofOtherText (naming : Naming) (text : String) : Except ContentsError Contents :=
  match text.toList with
  | '=' :: rest =>
    match Formula.parse (String.ofList rest) naming with
    | .ok f => .ok (.formula f)
    | .error e => .error (.format e)
  | _ => .ok (.text text)

/-- The contents that a text enters. A number beyond the doubles is text. -/
def ofText (naming : Naming) (text : String) : Except ContentsError Contents :=
  match readNumber? text.toList with
  | some x =>
    if text.toList.any isSeparatorControl then .error (.unreadableNumber text)
    else if isFinite x then .ok (.number x)
    else ofOtherText naming text
  | none => ofOtherText naming text

/-- The value of contents, given the values of the variables. -/
def value (lookup : String → Except EvaluationError Float) : Contents → Value
  | .text s => .text s
  | .number x => .number x
  | .formula f =>
    match f.evaluate lookup with
    | .ok x => .number x
    | .error e => .error e

end Contents

namespace Value

/-- A reason as it is displayed in the place of a number. -/
def displayReason (reason : String) : String :=
  "#ERROR: " ++ reason

/-- The value as it is displayed. -/
def display : Value → String
  | .text s => s
  | .number x => plainText x
  | .error e => displayReason e.reason

def number? : Value → Option Float
  | .number x => some x
  | _ => none

def error? : Value → Option EvaluationError
  | .error e => some e
  | _ => none

end Value

end Recalc
