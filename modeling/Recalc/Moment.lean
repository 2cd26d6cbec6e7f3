/-!
# Calendar dates

Dates of the Gregorian calendar, with a time of day and an offset from universal time where these
are known. `checked` tells numbers that are a moment from those that are none.
-/

namespace Recalc

/-- A time of day, with the offset from universal time in minutes. -/
structure TimeOfDay where
  hour : Nat
  minute : Nat
  second : Nat
  microsecond : Nat
  offset : Option Int
  deriving DecidableEq, Repr

/-- A date, or a date with a time of day. -/
structure Moment where
  year : Nat
  month : Nat
  day : Nat
  time : Option TimeOfDay
  deriving DecidableEq, Repr

namespace Moment

def isLeapYear (year : Nat) : Bool :=
  year % 4 == 0 && (year % 100 != 0 || year % 400 == 0)

def daysInMonth (year month : Nat) : Nat :=
  if month = 2 then (if isLeapYear year then 29 else 28)
  else if month ∈ [4, 6, 9, 11] then 30 else 31

/-! ### Text -/

def padded (width n : Nat) : String :=
  let ds := Nat.toDigits 10 n
  String.ofList (List.replicate (width - ds.length) '0' ++ ds)

def offsetText (minutes : Int) : String :=
  let sign := if minutes < 0 then "-" else "+"
  sign ++ padded 2 (minutes.natAbs / 60) ++ ":" ++ padded 2 (minutes.natAbs % 60)

def TimeOfDay.text (t : TimeOfDay) : String :=
  padded 2 t.hour ++ ":" ++ padded 2 t.minute ++ ":" ++ padded 2 t.second ++
    (if t.microsecond = 0 then "" else "." ++ padded 6 t.microsecond) ++
    match t.offset with | some m => offsetText m | none => ""

/-- The date as `2024-01-02`, followed by the time of day after a space. -/
def text (m : Moment) : String :=
  padded 4 m.year ++ "-" ++ padded 2 m.month ++ "-" ++ padded 2 m.day ++
    match m.time with | some t => " " ++ TimeOfDay.text t | none => ""

/-- A length of time in minutes as whole days and the seconds of a further one. -/
def lengthText (minutes : Int) : String :=
  let days := minutes / 1440
  let seconds := minutes % 1440 * 60
  let parts :=
    (if days = 0 then [] else ["days=" ++ toString days]) ++
      (if seconds = 0 then [] else ["seconds=" ++ toString seconds])
  "datetime.timedelta(" ++ (if parts.isEmpty then "0" else ", ".intercalate parts) ++ ")"

def offsetConstructor (minutes : Int) : String :=
  if minutes = 0 then "datetime.timezone.utc"
  else "datetime.timezone(" ++ lengthText minutes ++ ")"

/-- The date as messages show it inside other values, by its numbers. Seconds are left out when
they are zero. -/
def constructorText (m : Moment) : String :=
  let date := [m.year, m.month, m.day]
  let call (name : String) (parts : List String) := name ++ "(" ++ ", ".intercalate parts ++ ")"
  match m.time with
  | none => call "datetime.date" (date.map toString)
  | some t =>
    let tail :=
      if t.microsecond ≠ 0 then [t.second, t.microsecond]
      else if t.second ≠ 0 then [t.second] else []
    let zone := match t.offset with | some o => ["tzinfo=" ++ offsetConstructor o] | none => []
    call "datetime.datetime" ((date ++ [t.hour, t.minute] ++ tail).map toString ++ zone)

end Moment

/-! ### Moments that do not exist -/

/-- Why numbers are no moment. -/
inductive MomentError where
  | year (n : Nat)
  | month
  | day
  | hour
  | minute
  | second
  /-- An offset of a day or more, in minutes. -/
  | offset (minutes : Int)
  deriving DecidableEq, Repr

namespace MomentError

def message : MomentError → String
  | .year n => "year " ++ toString n ++ " is out of range"
  | .month => "month must be in 1..12"
  | .day => "day is out of range for month"
  | .hour => "hour must be in 0..23"
  | .minute => "minute must be in 0..59"
  | .second => "second must be in 0..59"
  | .offset minutes =>
    "offset must be a timedelta strictly between -timedelta(hours=24) and " ++
      "timedelta(hours=24), not " ++
      Moment.lengthText minutes ++ "."

end MomentError

namespace Moment

/-- The moment, if it exists. The offset is looked at first, then each number in turn. -/
def checked (m : Moment) : Except MomentError Moment :=
  match m.time.bind TimeOfDay.offset with
  | some minutes =>
    if minutes.natAbs < 1440 then numbersChecked else .error (.offset minutes)
  | none => numbersChecked
where
  numbersChecked : Except MomentError Moment :=
    if m.year = 0 ∨ 9999 < m.year then .error (.year m.year)
    else if m.month = 0 ∨ 12 < m.month then .error .month
    else if m.day = 0 ∨ daysInMonth m.year m.month < m.day then .error .day
    else
      match m.time with
      | none => .ok m
      | some t =>
        if 23 < t.hour then .error .hour
        else if 59 < t.minute then .error .minute
        else if 59 < t.second then .error .second
        else .ok m

end Moment

end Recalc
