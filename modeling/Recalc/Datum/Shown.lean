import Recalc.Datum
import Recalc.Text.Quoted

/-!
# Data in messages

`Datum.quoted` shows a datum so that its kind can be told: text in quotes. `Datum.shown` is the
same except that text by itself, and a date by itself, are shown plainly. Between quotes surrogates
are escaped.
-/

namespace Recalc.Datum

open Recalc.Text

/-- Bytes as quoted text, everything outside printable ASCII as a hexadecimal number. -/
def quotedBytes (octets : List UInt8) : String :=
  let cs := octets.map fun b => Char.ofNat b.toNat
  let quote := quoteFor cs
  let escape (c : Char) : List Char :=
    if c.toNat < 0x7F then escapeChar quote c else '\\' :: 'x' :: hex 2 c.toNat
  String.ofList ('b' :: quote :: cs.flatMap escape ++ [quote])

def truth (b : Bool) : String := if b then "True" else "False"

variable {τ : Type}

mutual
/-- A datum whose texts are quoted in a given way. -/
def quotedBy (quote : τ → String) : Datum τ → String
  | .null => "None"
  | .bool b => truth b
  | .integer n => toString n
  | .real x => Number.text x
  | .text s => quote s
  | .moment m => m.constructorText
  | .bytes octets => quotedBytes octets
  | .list items => "[" ++ quotedItems quote items ++ "]"
  | .tuple [item] => "(" ++ quotedBy quote item ++ ",)"
  | .tuple items => "(" ++ quotedItems quote items ++ ")"
  | .set [] => "set()"
  | .set items => "\x7b" ++ quotedItems quote items ++ "\x7d"
  | .map entries => "\x7b" ++ quotedEntries quote entries ++ "\x7d"

def quotedItems (quote : τ → String) : List (Datum τ) → String
  | [] => ""
  | [item] => quotedBy quote item
  | item :: rest => quotedBy quote item ++ ", " ++ quotedItems quote rest

def quotedEntries (quote : τ → String) : List (Datum τ × Datum τ) → String
  | [] => ""
  | [(k, v)] => quotedBy quote k ++ ": " ++ quotedBy quote v
  | (k, v) :: rest =>
    quotedBy quote k ++ ": " ++ quotedBy quote v ++ ", " ++ quotedEntries quote rest
end

def quoted (d : Datum) : String :=
  quotedBy Text.quoted d

def shown : Datum CodePoints → CodePoints
  | .text s => s
  | .moment m => m.text
  | d => quotedBy CodePoints.quoted d

/-- A datum as a cell would display it. -/
def display : Datum CodePoints → CodePoints
  | .real x => Number.plainText x
  | d => shown d

end Recalc.Datum
