import Recalc.Text.Quoted

/-!
# Texts of code points

A text may hold surrogates beside characters. They come from escapes, each of which may name any
code unit, and no UTF-8 stands for them. So a high surrogate directly before a low one is a text of
two code points, and not the character that this pair would stand for in UTF-16.
-/

namespace Recalc

inductive CodePoint where
  | char (c : Char)
  /-- A surrogate, by its place among all of them. -/
  | surrogate (n : Fin 0x800)
  deriving DecidableEq

namespace CodePoint

def toNat : CodePoint → Nat
  | .char c => c.toNat
  | .surrogate n => 0xD800 + n

/-- The code point with a number. -/
def ofNat (n : Nat) : CodePoint :=
  if n.isValidChar then .char (Char.ofNat n) else .surrogate (Fin.ofNat 0x800 (n - 0xD800))

def char? : CodePoint → Option Char
  | .char c => some c
  | .surrogate _ => none

def isHigh (p : CodePoint) : Bool :=
  0xD800 ≤ p.toNat && p.toNat < 0xDC00

def isLow (p : CodePoint) : Bool :=
  0xDC00 ≤ p.toNat && p.toNat < 0xE000

instance : LT CodePoint := ⟨fun p q => p.toNat < q.toNat⟩

instance : DecidableLT CodePoint :=
  fun p q => inferInstanceAs (Decidable (p.toNat < q.toNat))

/-- One code point inside quotes of the kind `quote`. -/
def escaped (quote : Char) : CodePoint → List Char
  | .char c => Text.escapeChar quote c
  | .surrogate n => '\\' :: 'u' :: Text.hex 4 (0xD800 + n)

end CodePoint

abbrev CodePoints := List CodePoint

namespace CodePoints

def ofString (s : String) : CodePoints :=
  s.toList.map .char

instance : Coe String CodePoints := ⟨ofString⟩

/-- The text without surrogates, if it has none. -/
def string? (s : CodePoints) : Option String :=
  (s.mapM CodePoint.char?).map String.ofList

/-- The text with a replacement character for each surrogate. -/
def lossy (s : CodePoints) : String :=
  String.ofList (s.map fun p => p.char?.getD '\uFFFD')

/-- The text between quotes. -/
def quoted (s : CodePoints) : String :=
  let quote := Text.quoteFor (s.filterMap CodePoint.char?)
  String.ofList (quote :: s.flatMap (CodePoint.escaped quote) ++ [quote])

/-! ### Encoding -/

/-- Surrogates that a text cannot be encoded for: how many follow one another from which position,
and the first of them. -/
structure EncodeError where
  position : Nat
  count : Nat
  surrogate : Fin 0x800
  deriving DecidableEq, Repr

def EncodeError.message (e : EncodeError) : String :=
  let place :=
    if e.count = 1 then
      "character '\\u" ++ String.ofList (Text.hex 4 (0xD800 + e.surrogate)) ++ "' in position " ++
        toString e.position
    else
      "characters in position " ++ toString e.position ++ "-" ++ toString (e.position + e.count - 1)
  "'utf-8' codec can't encode " ++ place ++ ": surrogates not allowed"

/-- How many surrogates a text begins with. -/
def countSurrogates : CodePoints → Nat
  | .surrogate _ :: rest => countSurrogates rest + 1
  | _ => 0

/-- The first surrogates of a text that begins at a position. -/
def encodeErrorFrom? (position : Nat) : CodePoints → Option EncodeError
  | [] => none
  | .char _ :: rest => encodeErrorFrom? (position + 1) rest
  | .surrogate n :: rest => some ⟨position, countSurrogates rest + 1, n⟩

/-- The text in UTF-8, as which it can be printed. -/
def encoded (s : CodePoints) : Except EncodeError String :=
  match encodeErrorFrom? 0 s with
  | some e => .error e
  | none => .ok (String.ofList (s.filterMap CodePoint.char?))

end CodePoints

end Recalc
