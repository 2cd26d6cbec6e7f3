import Recalc.Number.Power

/-!
# Binary floating point numbers

A finite double is `±mantissa * 2 ^ exponent`. Doubles are taken apart into these numbers, and a
fraction of natural numbers is rounded to the nearest double, a tie going to the even mantissa.
-/

namespace Recalc.Number

/-- What a double stands for. -/
inductive Parts where
  | nan
  | infinite (negative : Bool)
  | finite (negative : Bool) (mantissa : Nat) (exponent : Int)
  deriving DecidableEq, Repr

/-- The exponent of the least positive double. -/
def leastExponent : Int := -1074

/-- The bits of positive infinity. -/
def infinityBits : Nat := 0x7FF * twoTo 52

/-- Takes a double apart by its bits: the sign, eleven bits of exponent and 52 of fraction. -/
def parts (x : Float) : Parts :=
  let bits := x.toBits.toNat
  let negative := bits / twoTo 63 == 1
  let biased := bits / twoTo 52 % twoTo 11
  let fraction := bits % twoTo 52
  if biased = 0x7FF then
    if fraction = 0 then .infinite negative else .nan
  else if biased = 0 then .finite negative fraction leastExponent
  else .finite negative (twoTo 52 + fraction) (leastExponent + (biased - 1 : Nat))

/-- The double of a sign and of bits without a sign. -/
def ofMagnitudeBits (negative : Bool) (bits : Nat) : Float :=
  Float.ofBits (UInt64.ofNat (bits + if negative then twoTo 63 else 0))

def isFinite (x : Float) : Bool :=
  match parts x with
  | .finite .. => true
  | _ => false

/-! ### Rounding -/

/-- The natural number nearest to `num / den`; of two, the even one. -/
def nearestNat (num den : Nat) : Nat :=
  let q := num / den
  let r := num % den
  if 2 * r < den ∨ (2 * r = den ∧ q % 2 = 0) then q else q + 1

/-- A fraction as multiple of `2 ^ e`: numerator and denominator of `num / den / 2 ^ e`. -/
def scaled (num den : Nat) (e : Int) : Nat × Nat :=
  if e ≤ 0 then (num * twoTo (-e).toNat, den) else (num, den * twoTo e.toNat)

/-- The exponent at which `num / den` is rounded: the one that leaves 53 bits before the point,
or the least one. -/
def roundingExponent (num den : Nat) : Int :=
  let e : Int := max leastExponent (num.log2 - den.log2 - 53)
  let (a, b) := scaled num den e
  if a / b < twoTo 53 then e else e + 1

/-- The bits of the double nearest to `num / den`. Mantissa and biased exponent are added, so a
mantissa that is rounded up to `2 ^ 53` moves to the next exponent by itself. -/
def nearestBits (num den : Nat) : Nat :=
  if num = 0 then 0
  else
    let e := roundingExponent num den
    let (a, b) := scaled num den e
    min infinityBits ((e - leastExponent).toNat * twoTo 52 + nearestNat a b)

/-- The double nearest to `± num / den`. -/
def ofFraction (negative : Bool) (num den : Nat) : Float :=
  ofMagnitudeBits negative (nearestBits num den)

/-- The double nearest to `± digits * 10 ^ exponent`. Exponents that leave the range of the
doubles whatever the digits are not computed with. -/
def ofDecimal (negative : Bool) (digits : Nat) (exponent : Int) : Float :=
  if digits = 0 then ofMagnitudeBits negative 0
  else if exponent > 400 then ofMagnitudeBits negative infinityBits
  else if exponent + digits.log2 / 3 + 1 < -400 then ofMagnitudeBits negative 0
  else if exponent ≥ 0 then ofFraction negative (digits * tenTo exponent.toNat) 1
  else ofFraction negative digits (tenTo (-exponent).toNat)

/-- The double nearest to an integer, or nothing when it exceeds all finite doubles. -/
def ofInt? (n : Int) : Option Float :=
  let x := ofFraction (n < 0) n.natAbs 1
  if isFinite x then some x else none

/-- The integer next to a double on the side of zero. -/
def truncate? (x : Float) : Option Int :=
  match parts x with
  | .finite negative m e =>
    let n := if 0 ≤ e then m * twoTo e.toNat else m / twoTo (-e).toNat
    some (if negative then -(n : Int) else n)
  | _ => none

/-- The integer that a double is exactly. -/
def toInt? (x : Float) : Option Int :=
  match parts x with
  | .finite negative m e =>
    let magnitude :=
      if 0 ≤ e then some (m * twoTo e.toNat)
      else if m % twoTo (-e).toNat = 0 then some (m / twoTo (-e).toNat)
      else none
    magnitude.map fun n => if negative then -(n : Int) else n
  | _ => none

end Recalc.Number
