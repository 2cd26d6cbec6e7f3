import Recalc.Text.Case
import Recalc.Text.CodePages
import Recalc.Text.Utf8
import Recalc.Xml.Characters

/-!
# Encodings of documents

How the octets of a file write characters. A document begins in an encoding that its first octets
show, and its declaration may choose another one by name.
-/

namespace Recalc.Xml

open Recalc.Text

inductive Encoding where
  | utf8
  | utf16 (bigEndian : Bool)
  /-- One octet for each character, ASCII in the lower half. -/
  | singleOctet (upper : List (Option Char))
  /-- ASCII, but for one character that is not to be read. -/
  | asciiWithout (c : Char)
  deriving DecidableEq

/-- The number of octets of the smallest character. -/
def Encoding.unit : Encoding → Nat
  | .utf16 _ => 2
  | _ => 1

/-- The number of octets of a character. -/
def Encoding.width (e : Encoding) (c : Char) : Nat :=
  match e with
  | .utf8 => c.utf8Size
  | .utf16 _ => if c.toNat < 0x10000 then 2 else 4
  | .singleOctet _ | .asciiWithout _ => 1

/-- The number of octets of a text. -/
def Encoding.textWidth (e : Encoding) (cs : List Char) : Nat :=
  cs.foldl (fun n c => n + e.width c) 0

/-! ### Reading octets -/

/-- The number of octets that begin with a first octet. -/
def utf8Length (b : UInt8) : Nat :=
  if b < 0xC0 then 1 else if b < 0xE0 then 2 else if b < 0xF0 then 3 else if b < 0xF5 then 4 else 1

/-- The characters of UTF-8; the first `skip` octets belong to a character before them. -/
def decodeUtf8 (skip : Nat) : List UInt8 → List Char
  | [] => []
  | b :: rest =>
    match skip with
    | skip + 1 => decodeUtf8 skip rest
    | 0 =>
      match utf8Step b rest with
      | .char c length =>
        (if c = unreadable ∨ c = cutOff then unreadable else c) :: decodeUtf8 (length - 1) rest
      | .broken .. =>
        if rest.length + 1 < utf8Length b then [cutOff] else unreadable :: decodeUtf8 0 rest

/-- The characters of UTF-16. -/
def decodeUtf16 (bigEndian : Bool) : List UInt8 → List Char
  | a :: b :: rest =>
    let unit (a b : UInt8) := if bigEndian then a.toNat * 256 + b.toNat else b.toNat * 256 + a.toNat
    let n := unit a b
    if 0xD800 ≤ n ∧ n < 0xDC00 then
      match rest with
      | a :: b :: rest =>
        let m := unit a b
        (if 0xDC00 ≤ m ∧ m < 0xE000 then
            Char.ofNat (0x10000 + (n - 0xD800) * 0x400 + (m - 0xDC00))
          else unreadable) :: decodeUtf16 bigEndian rest
      | _ => [cutOff]
    else
      (if n.isValidChar ∧ n < 0xFFFE then Char.ofNat n else unreadable) ::
        decodeUtf16 bigEndian rest
  | [_] => [cutOff]
  | [] => []

def decodeOctet (upper : List (Option Char)) (b : UInt8) : Char :=
  if b < 0x80 then Char.ofNat b.toNat
  else (upper[b.toNat - 0x80]?.join).getD unreadable

def Encoding.decode (e : Encoding) (octets : List UInt8) : List Char :=
  match e with
  | .utf8 => decodeUtf8 0 octets
  | .utf16 bigEndian => decodeUtf16 bigEndian octets
  | .singleOctet upper => octets.map (decodeOctet upper)
  | .asciiWithout c =>
    octets.map fun b => if decodeOctet [] b = c then unreadable else decodeOctet [] b

/-! ### Choosing an encoding -/

/-- The encoding that the first octets of a file show. -/
def Encoding.detect : List UInt8 → Encoding
  | 0xFE :: 0xFF :: _ => .utf16 true
  | 0xFF :: 0xFE :: _ => .utf16 false
  | 0x3C :: 0x00 :: _ => .utf16 false
  | 0x00 :: _ :: _ => .utf16 true
  | _ :: 0x00 :: _ => .utf16 false
  | _ => .utf8

/-- Why nothing can be read in an encoding with a certain name. -/
inductive EncodingFault where
  | unknown
  /-- A transformation of octets, and no set of characters. -/
  | transformation
  /-- A set with characters of several octets. -/
  | multiOctet
  /-- The encoding of host names, which does not put up with wrong octets. -/
  | hostNames
  /-- The encoding of the labels in host names. -/
  | hostLabels
  /-- The set without characters. -/
  | undefined
  deriving DecidableEq, Repr

/-- What is said about the fault of the encoding with the name. -/
def EncodingFault.text (name : String) : EncodingFault → String
  | .unknown => "unknown encoding: " ++ name
  | .transformation =>
    "'" ++ name ++ "' is not a text encoding; use codecs.decode() to handle arbitrary codecs"
  | .multiOctet => "multi-byte encodings are not supported"
  | .hostNames =>
    "decoding with '" ++ name ++ "' codec failed (UnicodeError: Unsupported error handling replace)"
  | .hostLabels =>
    "'ascii' codec can't decode byte 0x80 in position 82: ordinal not in range(128)"
  | .undefined => "decoding with '" ++ name ++ "' codec failed (UnicodeError: undefined encoding)"

/-- What a name says about the encoding. -/
inductive NamedEncoding where
  | known (e : Encoding)
  /-- A set of characters that writes ASCII differently. -/
  | differing
  | unusable (fault : EncodingFault)
  deriving DecidableEq

/-- The spelling of names of character sets in tables: small letters, with single underscores for
what is neither a letter nor a digit. -/
def tableName (name : List Char) : String :=
  let rec go (gap : Bool) (started : Bool) : List Char → List Char
    | [] => []
    | c :: rest =>
      if c.isAlphanum || c = '.' then
        (if gap && started then ['_'] else []) ++ c.toLower :: go false true rest
      else go true started rest
  String.ofList (go false false name)

/-- The upper half of the set whose characters are the first ones of Unicode. -/
def latin1Upper : List (Option Char) :=
  (List.range 128).map fun n => some (Char.ofNat (0x80 + n))

def upperHalf (page : CodePage) : List (Option Char) :=
  page.upper.toList.map fun c => if c = '\uFFFD' then none else some c

/-- The encoding with a name, in a document that began in `current`. -/
def Encoding.named (current : Encoding) (name : List Char) : NamedEncoding :=
  match String.ofList (name.map Char.toUpper) with
  | "UTF-8" => .known .utf8
  | "ISO-8859-1" => .known (.singleOctet latin1Upper)
  | "US-ASCII" => .known (.singleOctet [])
  | "UTF-16" => .known (match current with | .utf16 e => .utf16 e | _ => .utf16 true)
  | "UTF-16BE" => .known (.utf16 true)
  | "UTF-16LE" => .known (.utf16 false)
  | _ =>
    let key := tableName name
    let undotted := String.ofList (key.toList.map fun c => if c = '.' then '_' else c)
    -- A dot may stand for an underscore, but not in the name that a set has itself.
    let keys := if '.' ∈ key.toList ∧ undotted ∈ ownNames then [key] else [key, undotted]
    let among (names : List String) := keys.any names.contains
    if among asciiNames then .known (.singleOctet [])
    else if among tildeEscapeNames then .known (.asciiWithout '~')
    else if among differingNames then .differing
    else if among multiOctetNames then .unusable .multiOctet
    else if among transformationNames then .unusable .transformation
    else if among ["idna"] then .unusable .hostNames
    else if among ["punycode"] then .unusable .hostLabels
    else if among ["undefined"] then .unusable .undefined
    else
      match codePages.find? fun page => among page.names with
      | some page => .known (.singleOctet (upperHalf page))
      | none => .unusable .unknown

/-- Whether a document that began in one encoding can go on in another. -/
def Encoding.agreesWith : Encoding → Encoding → Bool
  | .utf16 a, .utf16 b => a == b
  | .utf16 _, _ | _, .utf16 _ => false
  | _, _ => true

end Recalc.Xml
