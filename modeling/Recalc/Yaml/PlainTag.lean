import Recalc.Json.Reader
import Recalc.Moment
import Recalc.Text.Digit
import Recalc.Yaml.Node

/-!
# What plain scalars stand for

A plain scalar without a tag is null, a truth value, a number or a moment if it looks like one, and
a text otherwise. The forms are those of YAML 1.1.
-/

namespace Recalc.Yaml

open Recalc.Json (isAsciiDigit)

/-- The rest of a text after a class of characters, if it begins with one of them. -/
def some? (f : Char → Bool) (cs : List Char) : Option (List Char) :=
  match cs with
  | c :: rest => if f c then some (rest.dropWhile f) else none
  | [] => none

def isGroupedDigit (c : Char) : Bool := isAsciiDigit c || c = '_'

def dropSign (cs : List Char) : List Char :=
  match cs with
  | '+' :: rest | '-' :: rest => rest
  | _ => cs

/-! ### Numbers -/

/-- Whether digits in base 60 follow, each after a colon; they end where `rest` says so. -/
def isSexagesimalFrom (rest : List Char → Bool) : List Char → Bool
  | ':' :: a :: b :: cs =>
    if '0' ≤ a ∧ a ≤ '5' ∧ isAsciiDigit b then isSexagesimalFrom rest cs || rest cs
    else isAsciiDigit a && (isSexagesimalFrom rest (b :: cs) || rest (b :: cs))
  | [':', a] => isAsciiDigit a && rest []
  | _ => false

def isIntegerText (cs : List Char) : Bool :=
  match dropSign cs with
  | ['0'] => true
  | '0' :: 'b' :: ds => !ds.isEmpty && ds.all fun c => c = '0' || c = '1' || c = '_'
  | '0' :: 'x' :: ds => !ds.isEmpty && ds.all fun c => (Json.hexValue? c).isSome || c = '_'
  | '0' :: ds => ds.all fun c => ('0' ≤ c && c ≤ '7') || c = '_'
  | c :: ds =>
    isAsciiDigit c &&
      (ds.all isGroupedDigit || isSexagesimalFrom List.isEmpty (ds.dropWhile isGroupedDigit))
  | [] => false

/-- An exponent with its sign, or nothing. -/
def isExponentText : List Char → Bool
  | [] => true
  | e :: sign :: ds =>
    (e = 'e' || e = 'E') && (sign = '+' || sign = '-') && !ds.isEmpty && ds.all isAsciiDigit
  | _ => false

def isRealText (cs : List Char) : Bool :=
  match cs with
  | '.' :: rest =>
    (rest.head?.any isAsciiDigit && isExponentText (rest.dropWhile isGroupedDigit)) ||
      String.ofList rest ∈ ["inf", "Inf", "INF", "nan", "NaN", "NAN"]
  | _ =>
    match dropSign cs with
    | '.' :: rest => String.ofList rest ∈ ["inf", "Inf", "INF"]
    | c :: ds =>
      isAsciiDigit c &&
        match ds.dropWhile isGroupedDigit with
        | '.' :: rest => isExponentText (rest.dropWhile isGroupedDigit)
        | rest =>
          isSexagesimalFrom (fun
            | '.' :: places => places.all isGroupedDigit
            | _ => false) rest
    | [] => false

/-! ### Moments -/

/-- A number of up to two digits at the start of a text, with how many there are. -/
def readTwoDigits (cs : List Char) : Option (Nat × Nat × List Char) :=
  match cs with
  | a :: b :: rest =>
    if isAsciiDigit a && isAsciiDigit b then some (Text.digitsValue [a, b], 2, rest)
    else if isAsciiDigit a then some (Text.digitsValue [a], 1, b :: rest)
    else none
  | [a] => if isAsciiDigit a then some (Text.digitsValue [a], 1, []) else none
  | [] => none

/-- A number of exactly two digits after a mark. -/
def readAfter (mark : Char) (cs : List Char) : Option (Nat × List Char) :=
  match cs with
  | c :: rest =>
    match readTwoDigits rest with
    | some (n, 2, rest) => if c = mark then some (n, rest) else none
    | _ => none
  | [] => none

/-- The microseconds of a fraction, of which six digits count. -/
def microseconds (ds : List Char) : Nat :=
  let ds := ds.take 6
  Text.digitsValue ds * Number.tenTo (6 - ds.length)

/-- The end of a moment: nothing, or an offset from universal time in minutes after blanks. -/
def readOffset (cs : List Char) : Option (Option Int) :=
  match cs.dropWhile fun c => c = ' ' || c = '\t' with
  | [] => if cs.isEmpty then some none else none
  | ['Z'] => some (some 0)
  | sign :: rest =>
    if sign = '+' ∨ sign = '-' then
      match readTwoDigits rest with
      | none => none
      | some (hours, _, rest) =>
        let minutes? :=
          if rest.isEmpty then some 0
          else
            match readAfter ':' rest with
            | some (minutes, []) => some minutes
            | _ => none
        minutes?.map fun minutes =>
          let offset : Int := hours * 60 + minutes
          some (if sign = '-' then -offset else offset)
    else none

/-- The time of day that ends a text. -/
def readTime (cs : List Char) : Option TimeOfDay := do
  let (hour, _, rest) ← readTwoDigits cs
  let (minute, rest) ← readAfter ':' rest
  let (second, rest) ← readAfter ':' rest
  let (fraction, rest) :=
    match rest with
    | '.' :: rest => rest.span isAsciiDigit
    | _ => ([], rest)
  let offset ← readOffset rest
  return ⟨hour, minute, second, microseconds fraction, offset⟩

/-- The time after the letter or the blanks that separate it from the date. -/
def readSeparatedTime (cs : List Char) : Option TimeOfDay :=
  match cs with
  | c :: rest =>
    if c = 'T' ∨ c = 't' then readTime rest
    else (some? (fun c => c = ' ' || c = '\t') cs).bind readTime
  | [] => none

/-- A moment that is a whole text, and whether its month and day have two digits each. The numbers
may be out of range. -/
def readMoment? (cs : List Char) : Option (Moment × Bool) :=
  match cs with
  | a :: b :: c :: d :: '-' :: rest =>
    if [a, b, c, d].all isAsciiDigit then
      match readTwoDigits rest with
      | some (month, monthDigits, '-' :: rest) =>
        match readTwoDigits rest with
        | some (day, dayDigits, rest) =>
          let moment (time : Option TimeOfDay) : Moment × Bool :=
            (⟨Text.digitsValue [a, b, c, d], month, day, time⟩, monthDigits = 2 && dayDigits = 2)
          if rest.isEmpty then some (moment none)
          else (readSeparatedTime rest).map fun time => moment (some time)
        | none => none
      | _ => none
    else none
  | _ => none

/-- Whether a plain scalar is a moment: a date alone has to have all its digits. -/
def isMomentText (cs : List Char) : Bool :=
  match readMoment? cs with
  | some (moment, full) => moment.time.isSome || full
  | none => false

/-! ### Tags -/

def truthWords : List String := [
  "yes", "Yes", "YES", "no", "No", "NO", "true", "True", "TRUE", "false", "False", "FALSE",
  "on", "On", "ON", "off", "Off", "OFF"]

/-- The text without a line feed at its end. -/
def withoutLineEnd (s : String) : String :=
  match s.toList.reverse with
  | '\n' :: rest => if rest.isEmpty then s else String.ofList rest.reverse
  | _ => s

/-- The tag of a scalar by its text. A line feed at its end does not count. -/
def Tag.ofText (s : String) : Tag :=
  let s := withoutLineEnd s
  let cs := s.toList
  if s ∈ truthWords then .bool
  else if s ∈ ["", "~", "null", "Null", "NULL"] then .null
  else if s = "<<" then .merge
  else if s = "=" then .default
  else if s ∈ ["!", "&", "*"] then .other s
  else if isRealText cs then .real
  else if isIntegerText cs then .integer
  else if isMomentText cs then .moment
  else .text

end Recalc.Yaml
