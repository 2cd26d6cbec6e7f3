/-!
# Base 64

Octets from text in base 64. Characters that are no digits are passed over, and the text ends at a
padding that completes a group of four.
-/

namespace Recalc.Text

/-- The value of a digit in base 64. -/
def base64Digit? (c : Char) : Option Nat :=
  if 'A' ≤ c ∧ c ≤ 'Z' then some (c.toNat - 0x41)
  else if 'a' ≤ c ∧ c ≤ 'z' then some (c.toNat - 0x61 + 26)
  else if '0' ≤ c ∧ c ≤ '9' then some (c.toNat - 0x30 + 52)
  else if c = '+' then some 62
  else if c = '/' then some 63
  else none

/-- The octets of the rest of a text. Of the group so far there are `digits` digits, whose last bits
are left over, and `padding` padding characters since the last one; the octets read are in reverse
order. -/
def octetsFrom (digits left padding : Nat) (read : List UInt8) : List Char → Option (List UInt8)
  | [] => if digits = 0 then some read.reverse else none
  | c :: rest =>
    if c = '=' then
      if 2 ≤ digits ∧ 4 ≤ digits + padding + 1 then some read.reverse
      else octetsFrom digits left (if 2 ≤ digits then padding + 1 else padding) read rest
    else
      match base64Digit? c with
      | none => octetsFrom digits left padding read rest
      | some v =>
        match digits with
        | 0 => octetsFrom 1 v 0 read rest
        | 1 => octetsFrom 2 (v % 16) 0 (UInt8.ofNat (left * 4 + v / 16) :: read) rest
        | 2 => octetsFrom 3 (v % 4) 0 (UInt8.ofNat (left * 16 + v / 4) :: read) rest
        | _ => octetsFrom 0 0 0 (UInt8.ofNat (left * 64 + v) :: read) rest

/-- The octets that a text writes in base 64, if its last group is complete. -/
def ofBase64? (s : String) : Option (List UInt8) :=
  octetsFrom 0 0 0 [] s.toList

end Recalc.Text
