import Recalc.Text.CodePoints
import Recalc.Text.Utf8

/-!
# File names

The system keeps names as octets. The text of a name is written in UTF-8, except that a surrogate
from U+DC80 to U+DCFF stands for one octet that is no UTF-8, so that every name can be told. No name
has any other surrogate. Here an octet of a name is the character with its number, so that a name in
ASCII is its own text.
-/

namespace Recalc

/-- The octets of a code point in a name. A surrogate that no name has gives none. -/
def CodePoint.nameChars : CodePoint → List Char
  | .char c =>
    if c.toNat < 0x80 then [c] else (String.utf8EncodeChar c).map fun b => Char.ofNat b.toNat
  | .surrogate n => if 0x480 ≤ n.val ∧ n.val < 0x500 then [Char.ofNat (n.val - 0x400)] else []

/-- Whether a name can have the code point. -/
def CodePoint.isNameable (p : CodePoint) : Bool :=
  p.nameChars ≠ []

namespace CodePoints

/-- The name that a text tells, as the system keeps it. -/
def fileName (s : CodePoints) : String :=
  String.ofList (s.flatMap CodePoint.nameChars)

/-- The first surrogates that no name has, in a text that begins at a position. -/
def nameErrorFrom? (position : Nat) : CodePoints → Option EncodeError
  | [] => none
  | .char _ :: rest => nameErrorFrom? (position + 1) rest
  | .surrogate n :: rest =>
    if (CodePoint.surrogate n).isNameable then nameErrorFrom? (position + 1) rest
    else some ⟨position, countSurrogates rest + 1, n⟩

/-- Why a text tells no names. -/
def nameError? (s : CodePoints) : Option EncodeError :=
  nameErrorFrom? 0 s

/-- The text that tells the octets of a name; `skip` of them belong to the character before. -/
def ofNameChars (skip : Nat) : List Char → CodePoints
  | [] => []
  | c :: rest =>
    let octet (c : Char) : UInt8 := UInt8.ofNat c.toNat
    match skip with
    | skip + 1 => ofNameChars skip rest
    | 0 =>
      if c.toNat < 0x80 then .char c :: ofNameChars 0 rest
      else
        match Text.utf8Step (octet c) (rest.map octet) with
        | .char c' length => .char c' :: ofNameChars (length - 1) rest
        | .broken .. => .ofNat (0xDC00 + c.toNat) :: ofNameChars 0 rest

/-- The text that tells a name. -/
def ofFileName (name : String) : CodePoints :=
  ofNameChars 0 name.toList

end CodePoints

end Recalc
