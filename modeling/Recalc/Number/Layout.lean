import Recalc.Number.Shortest

/-!
# Written numbers

How a double is written: the shortest digits that read back, in one of several layouts. A layout
says which numbers are written without an exponent and how an exponent looks.
-/

namespace Recalc.Number

/-- The conventions of a written number. A number below `10 ^ positionalBelow` and not below
`10 ^ positionalFrom` is written without an exponent. -/
structure Layout where
  positionalFrom : Int
  positionalBelow : Int
  /-- Whether a whole number ends in `.0` when it has no exponent. -/
  pointZero : Bool
  /-- Whether the exponent has a sign also when it is positive. -/
  plusSign : Bool
  /-- The least number of digits of an exponent. -/
  exponentWidth : Nat
  nan : String
  infinity : String

/-- Numbers as messages and data formats show them: `5.0`, `1e+16`, `1e-05`. -/
def Layout.standard : Layout :=
  { positionalFrom := -4, positionalBelow := 16, pointZero := true, plusSign := true
    exponentWidth := 2, nan := "nan", infinity := "inf" }

def zeros (n : Nat) : List Char := List.replicate n '0'

/-- Digits with a point after the first `place` of them, which may be negative or too many. -/
def Layout.positional (l : Layout) (ds : List Char) (place : Int) : List Char :=
  if place ≤ 0 then '0' :: '.' :: (zeros (-place).toNat ++ ds)
  else if place < ds.length then ds.take place.toNat ++ '.' :: ds.drop place.toNat
  else ds ++ zeros (place.toNat - ds.length) ++ if l.pointZero then ['.', '0'] else []

/-- Digits with a point after the first one, times a power of ten. -/
def Layout.scientific (l : Layout) (ds : List Char) (power : Int) : List Char :=
  let magnitude := Nat.toDigits 10 power.natAbs
  let mantissa :=
    match ds with
    | d :: rest@(_ :: _) => d :: '.' :: rest
    | _ => ds
  let sign := if power < 0 then ['-'] else if l.plusSign then ['+'] else []
  mantissa ++ 'e' :: sign ++ zeros (l.exponentWidth - magnitude.length) ++ magnitude

/-- A decimal in a layout; the leading digit has the power `place - 1`. -/
def Layout.decimal (l : Layout) (d : Decimal) : List Char :=
  let ds := Nat.toDigits 10 d.digits
  let place := ds.length + d.exponent
  if l.positionalFrom < place ∧ place ≤ l.positionalBelow then l.positional ds place
  else l.scientific ds (place - 1)

def Layout.write (l : Layout) (x : Float) : String :=
  let signed (negative : Bool) (cs : List Char) :=
    String.ofList (if negative then '-' :: cs else cs)
  match parts x with
  | .nan => l.nan
  | .infinite negative => signed negative l.infinity.toList
  | .finite negative m e =>
    signed negative (if m = 0 then l.positional ['0'] 1 else l.decimal (shortest m e))

/-- The shortest text of a double, `5.0` and `1e+16`. -/
def text (x : Float) : String :=
  Layout.standard.write x

/-- The text of a number in formulas and sheets: a whole number below `10 ^ 16` is written as
integer, so both zeros are `0`, and every other number as its shortest text. -/
def plainText (x : Float) : String :=
  match toInt? x with
  | some n => if n.natAbs < tenTo 16 then toString n else text x
  | none => text x

end Recalc.Number
