import Recalc.Number.Binary64
import Recalc.Text.Blank
import Recalc.Text.Digit

/-!
# Numerals

Reading decimal numerals with digits of any script. `Numeral.read?` finds the longest numeral at
the start of a text and keeps its parts, so that its text and its value can both be told.
`parse?` reads a whole text as a number, with the special values and digit groups.
-/

namespace Recalc.Number

open Recalc.Text

/-- An unsigned numeral: digits, perhaps a point and more digits, perhaps the letter of an exponent
with its sign, and the digits of the exponent. -/
structure Numeral where
  whole : List Char
  point : List Char
  places : List Char
  mark : List Char
  power : List Char
  deriving DecidableEq, Repr

namespace Numeral

/-- The text of a numeral. -/
def chars (n : Numeral) : List Char :=
  n.whole ++ n.point ++ n.places ++ n.mark ++ n.power

/-- The exponent as a number. -/
def exponent (n : Numeral) : Int :=
  if '-' ∈ n.mark then -(digitsValue n.power : Int) else digitsValue n.power

/-- The double nearest to a numeral. -/
def value (n : Numeral) (negative : Bool) : Float :=
  ofDecimal negative (digitsValue (n.whole ++ n.places)) (n.exponent - n.places.length)

/-- The point at the start of a text, if there is one, and the rest. -/
def readPoint : List Char → List Char × List Char
  | '.' :: rest => (['.'], rest)
  | cs => ([], cs)

/-- The letter and the sign of an exponent at the start of a text, and the rest. -/
def readMark : List Char → List Char × List Char
  | [] => ([], [])
  | e :: rest =>
    if e = 'e' ∨ e = 'E' then
      match rest with
      | sign :: after => if sign = '+' ∨ sign = '-' then ([e, sign], after) else ([e], rest)
      | [] => ([e], [])
    else ([], e :: rest)

/-- The exponent at the start of a text: its mark, its digits and the rest. A mark without digits
is no exponent. -/
def readExponent (cs : List Char) : List Char × List Char × List Char :=
  let (mark, rest) := readMark cs
  let power := rest.takeWhile isDigit
  if mark = [] ∨ power = [] then ([], [], cs) else (mark, power, rest.dropWhile isDigit)

/-- The places after a point, if there is a point, and the rest. -/
def readPlaces (cs : List Char) : List Char × List Char × List Char :=
  let (point, rest) := readPoint cs
  if point = [] then ([], [], cs) else (point, rest.takeWhile isDigit, rest.dropWhile isDigit)

/-- The longest numeral at the start of a text, and what follows it. -/
def read? (cs : List Char) : Option (Numeral × List Char) :=
  let whole := cs.takeWhile isDigit
  let (point, places, rest) := readPlaces (cs.dropWhile isDigit)
  if whole = [] ∧ places = [] then none
  else
    let (mark, power, rest) := readExponent rest
    some (⟨whole, point, places, mark, power⟩, rest)

/-! ### Nothing is lost -/

theorem readPoint_append (cs : List Char) : (readPoint cs).1 ++ (readPoint cs).2 = cs := by
  unfold readPoint; split <;> simp

theorem readMark_append (cs : List Char) : (readMark cs).1 ++ (readMark cs).2 = cs := by
  unfold readMark
  repeat' split
  all_goals simp

theorem readExponent_append (cs : List Char) :
    (readExponent cs).1 ++ (readExponent cs).2.1 ++ (readExponent cs).2.2 = cs := by
  have := readMark_append cs
  unfold readExponent
  dsimp only
  split
  · simp
  · simpa using this

theorem readPlaces_append (cs : List Char) :
    (readPlaces cs).1 ++ (readPlaces cs).2.1 ++ (readPlaces cs).2.2 = cs := by
  have := readPoint_append cs
  unfold readPlaces
  dsimp only
  split
  · simp
  · simpa using this

/-- The text of the numeral that is read and the rest make up the whole text. -/
theorem chars_append_of_read? {cs rest : List Char} {n : Numeral}
    (h : read? cs = some (n, rest)) : n.chars ++ rest = cs := by
  have places := readPlaces_append (cs.dropWhile isDigit)
  have exponent := readExponent_append (readPlaces (cs.dropWhile isDigit)).2.2
  unfold read? at h
  dsimp only at h
  split at h
  · simp at h
  · simp only [Option.some.injEq, Prod.mk.injEq] at h
    obtain ⟨rfl, rfl⟩ := h
    rw [← exponent] at places
    simp only [chars, List.append_assoc] at places ⊢
    rw [places, List.takeWhile_append_dropWhile]

theorem chars_ne_nil_of_read? {cs rest : List Char} {n : Numeral}
    (h : read? cs = some (n, rest)) : n.chars ≠ [] := by
  unfold read? at h
  dsimp only at h
  split at h
  · simp at h
  · simp only [Option.some.injEq, Prod.mk.injEq] at h
    obtain ⟨rfl, -⟩ := h
    simp_all [chars]

end Numeral

/-- A leading sign: whether it is negative, and the rest. -/
def readSign : List Char → Bool × List Char
  | '+' :: rest => (false, rest)
  | '-' :: rest => (true, rest)
  | rest => (false, rest)

/-- A signed numeral that is a whole text. -/
def readSigned? (cs : List Char) : Option Float :=
  let (negative, rest) := readSign cs
  match Numeral.read? rest with
  | some (n, []) => some (n.value negative)
  | _ => none

/-! ### Number texts -/

/-- Removes the underscores that stand between two digits; any other underscore is an error. The
character before is given. -/
def dropGroupMarks (before : Option Char) : List Char → Option (List Char)
  | [] => if before = some '_' then none else some []
  | c :: rest =>
    let afterDigit := before.any isDigit
    if c = '_' then
      if afterDigit then dropGroupMarks (some c) rest else none
    else if before = some '_' ∧ !isDigit c then none
    else (dropGroupMarks (some c) rest).map (c :: ·)

/-- The blanks that may surround a number text: the separator control characters are not among
them. -/
def isNumberBlank (c : Char) : Bool :=
  isAsciiBlank c || (0x80 ≤ c.toNat && isBlank c)

/-- A whole text as a number: blanks around it are ignored, digits may be grouped by single
underscores, and infinity and "not a number" may be spelled in any case. -/
def parse? (s : String) : Option Float :=
  match dropGroupMarks none (trimBoth isNumberBlank s.toList) with
  | none => none
  | some cs =>
    let (negative, rest) := readSign cs
    match String.ofList (rest.map Char.toLower) with
    | "inf" | "infinity" => some (ofMagnitudeBits negative infinityBits)
    | "nan" => some (Float.ofBits 0x7FF8000000000000)
    | _ => readSigned? cs

/-- The longest integer that is read, in digits. -/
def integerDigitLimit : Nat := 4300

/-- What is said about a longer integer. -/
def integerTooLongText (digits : Nat) : String :=
  "Exceeds the limit (" ++ toString integerDigitLimit ++
    " digits) for integer string conversion: value has " ++ toString digits ++
    " digits; use sys.set_int_max_str_digits() to increase the limit"

/-- A whole text as an integer in base ten: blanks around it are ignored and digits may be
grouped by single underscores. -/
def parseInt? (s : String) : Option Int :=
  match dropGroupMarks none (trimBoth isNumberBlank s.toList) with
  | none => none
  | some cs =>
    let (negative, ds) := readSign cs
    if ds.isEmpty || integerDigitLimit < ds.length || !ds.all isDigit then none
    else some (if negative then -(digitsValue ds : Int) else digitsValue ds)

end Recalc.Number
