import Recalc.Number.Binary64

/-!
# Shortest decimals

The decimal with the fewest digits that is rounded to a given double, and among those the nearest
to it. The reals that are rounded to a double form an interval around it; a grid of decimals with
`n` digits has a point in the interval just when one of the two neighbours of the double on the
grid lies in it, so the grids are tried in turn.
-/

namespace Recalc.Number

/-- A positive decimal, `digits * 10 ^ exponent`. -/
structure Decimal where
  digits : Nat
  exponent : Int
  deriving DecidableEq, Repr

/-- The reals that are rounded to a double, as multiples of `num / den`: the double itself is
`middle` of them, and the ends belong to it when `closed` says so. -/
structure Interval where
  low : Nat
  middle : Nat
  high : Nat
  num : Nat
  den : Nat
  closed : Bool

/-- The interval of `m * 2 ^ e`, in quarters of the last place. Below a power of two the
neighbouring double is only half as far. -/
def Interval.ofDouble (m : Nat) (e : Int) : Interval :=
  let q := e - 2
  { low := 4 * m - (if m = twoTo 52 ∧ leastExponent < e then 1 else 2)
    middle := 4 * m
    high := 4 * m + 2
    num := if 0 ≤ q then twoTo q.toNat else 1
    den := if 0 ≤ q then 1 else twoTo (-q).toNat
    closed := m % 2 == 0 }

/-- Whether `d * 10 ^ k` lies in the interval. -/
def Interval.contains (i : Interval) (d : Nat) (k : Int) : Bool :=
  let point := d * i.den * tenTo k.toNat
  let unit := i.num * tenTo (-k).toNat
  if i.closed then i.low * unit ≤ point && point ≤ i.high * unit
  else i.low * unit < point && point < i.high * unit

/-- The number of decimal digits of `n`. -/
def digitCount (n : Nat) : Nat :=
  (Nat.toDigits 10 n).length

/-- The power of ten of the leading digit of `num / den`. -/
def leadingPower (num den : Nat) : Int :=
  if den ≤ num then digitCount (num / den) - 1
  else -(digitCount ((den + num - 1) / num - 1) : Int)

/-- The point nearest to the double among its neighbours on the grid `10 ^ k` that lie in the
interval. -/
def Interval.gridPoint? (i : Interval) (k : Int) : Option Nat :=
  let num := i.middle * i.num * tenTo (-k).toNat
  let den := i.den * tenTo k.toNat
  let d := num / den
  let r := num % den
  match i.contains d k, i.contains (d + 1) k with
  | true, true => some (if 2 * r < den ∨ (2 * r = den ∧ d % 2 = 0) then d else d + 1)
  | true, false => some d
  | false, true => some (d + 1)
  | false, false => none

/-- The first grid with a point in the interval, from the grid `10 ^ k` on to finer ones. -/
def Interval.search (i : Interval) (k : Int) : Nat → Decimal
  | 0 => ⟨i.middle * i.num * tenTo (-k).toNat / (i.den * tenTo k.toNat), k⟩
  | n + 1 =>
    match i.gridPoint? k with
    | some d => ⟨d, k⟩
    | none => i.search (k - 1) n

/-- Moves the zeros at the end of the digits to the exponent. -/
def Decimal.trimZeros (d : Decimal) : Decimal :=
  if h : d.digits = 0 ∨ d.digits % 10 ≠ 0 then d
  else Decimal.trimZeros ⟨d.digits / 10, d.exponent + 1⟩
termination_by d.digits
decreasing_by simp_all; omega

/-- The shortest decimal that is rounded to the double `m * 2 ^ e`, for `m` not zero. Seventeen
digits always suffice. -/
def shortest (m : Nat) (e : Int) : Decimal :=
  let i := Interval.ofDouble m e
  (i.search (leadingPower (i.middle * i.num) i.den) 17).trimZeros

end Recalc.Number
