/-!
# UTF-8

Text as octets and back. What is no UTF-8 is either an error, which tells the first octet that
cannot be read, or is read as replacement characters, one for each sequence that breaks off.
-/

namespace Recalc.Text

/-- Why octets are no UTF-8. -/
inductive Utf8Reason where
  | invalidStart
  | invalidContinuation
  | endOfData
  deriving DecidableEq, Repr

/-- Octets that are no UTF-8: where the sequence starts, how many octets belong to it, the first
of them, and the reason. -/
structure Utf8Error where
  position : Nat
  count : Nat
  octet : UInt8
  reason : Utf8Reason
  deriving DecidableEq, Repr

def Utf8Reason.text : Utf8Reason → String
  | .invalidStart => "invalid start byte"
  | .invalidContinuation => "invalid continuation byte"
  | .endOfData => "unexpected end of data"

/-- What is said about octets that are no UTF-8. -/
def Utf8Error.message (e : Utf8Error) : String :=
  let place :=
    if e.count = 1 then
      let ds := Nat.toDigits 16 e.octet.toNat
      "byte 0x" ++ String.ofList (List.replicate (2 - ds.length) '0' ++ ds) ++ " in position " ++
        toString e.position
    else
      "bytes in position " ++ toString e.position ++ "-" ++ toString (e.position + e.count - 1)
  "'utf-8' codec can't decode " ++ place ++ ": " ++ e.reason.text

/-- The octets of a text. -/
def toUtf8 (s : String) : List UInt8 :=
  s.toUTF8.toList

/-- How many octets follow a first octet, and between which bounds the next of them lies. -/
def continuation? (b : Nat) : Option (Nat × Nat × Nat) :=
  if b ≤ 0x7F then some (0, 0x80, 0xBF)
  else if b < 0xC2 then none
  else if b ≤ 0xDF then some (1, 0x80, 0xBF)
  else if b = 0xE0 then some (2, 0xA0, 0xBF)
  else if b = 0xED then some (2, 0x80, 0x9F)
  else if b ≤ 0xEF then some (2, 0x80, 0xBF)
  else if b = 0xF0 then some (3, 0x90, 0xBF)
  else if b ≤ 0xF3 then some (3, 0x80, 0xBF)
  else if b = 0xF4 then some (3, 0x80, 0x8F)
  else none

/-- One step of reading: a character with the octets after it, or a broken sequence with its
length. -/
inductive Utf8Step where
  | char (c : Char) (length : Nat)
  | broken (length : Nat) (reason : Utf8Reason)

/-- Reads the octets of a character after the first: `need` of them are still due, `seen` have been
read and give `value`, and the next lies between `low` and `high`. -/
def readContinuation (need seen value low high : Nat) : List UInt8 → Utf8Step
  | [] => if need = 0 then .char (Char.ofNat value) seen else .broken seen .endOfData
  | b :: rest =>
    match need with
    | 0 => .char (Char.ofNat value) seen
    | need + 1 =>
      if low ≤ b.toNat ∧ b.toNat ≤ high then
        readContinuation need (seen + 1) (value * 0x40 + b.toNat % 0x40) 0x80 0xBF rest
      else .broken seen .invalidContinuation

/-- Reads at a first octet. -/
def utf8Step (b : UInt8) (rest : List UInt8) : Utf8Step :=
  match continuation? b.toNat with
  | none => .broken 1 .invalidStart
  | some (0, _, _) => .char (Char.ofNat b.toNat) 1
  | some (need, low, high) =>
    let value := b.toNat % (if need = 1 then 0x20 else if need = 2 then 0x10 else 0x08)
    readContinuation need 1 value low high rest

/-- Reads octets to the end; `skip` of them belong to the character before, and the first one is
at `position`. Broken sequences go through `repair`. -/
def decodeFrom {ε : Type} (repair : Utf8Error → Except ε Char) (position skip : Nat)
    (read : List Char) : List UInt8 → Except ε (List Char)
  | [] => .ok read.reverse
  | b :: rest =>
    match skip with
    | skip + 1 => decodeFrom repair (position + 1) skip read rest
    | 0 =>
      match utf8Step b rest with
      | .char c length => decodeFrom repair (position + 1) (length - 1) (c :: read) rest
      | .broken length reason =>
        match repair ⟨position, length, b, reason⟩ with
        | .ok c => decodeFrom repair (position + 1) (length - 1) (c :: read) rest
        | .error e => .error e

/-- The text that octets write. -/
def ofUtf8 (octets : List UInt8) : Except Utf8Error String :=
  (decodeFrom .error 0 0 [] octets).map String.ofList

/-- The text of octets, with a replacement character for each broken sequence. -/
def ofUtf8Lossy (octets : List UInt8) : String :=
  match decodeFrom (ε := Empty) (fun _ => .ok '\uFFFD') 0 0 [] octets with
  | .ok cs => String.ofList cs

end Recalc.Text
