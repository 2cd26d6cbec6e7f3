import Recalc.Datum
import Recalc.Number.Numeral

/-!
# Reading JSON

A text is cut into tokens, up to the first place where no token starts, and the tokens drive a
stack of open arrays and objects. The special numbers may be spelled `NaN` and `Infinity`, and the
last of several entries with one key counts. An escaped surrogate without its partner stays one.
Limits apply to the digits of an integer and to the depth of nesting; the latter is what the stack
leaves, which the reader is told.
-/

namespace Recalc.Json

open Recalc.Number

/-- Why a text is not read. -/
inductive ReadError where
  | malformed
  | integerTooLong (digits : Nat)
  | nestedTooDeep (kind : String)
  deriving DecidableEq, Repr

def ReadError.message : ReadError → String
  | .malformed => "malformed JSON"
  | .integerTooLong digits => integerTooLongText digits
  | .nestedTooDeep kind =>
    "maximum recursion depth exceeded while decoding a JSON " ++ kind ++ " from a unicode string"

/-! ### Strings -/

def hexValue? (c : Char) : Option Nat :=
  if '0' ≤ c ∧ c ≤ '9' then some (c.toNat - 0x30)
  else if 'a' ≤ c ∧ c ≤ 'f' then some (c.toNat - 0x61 + 10)
  else if 'A' ≤ c ∧ c ≤ 'F' then some (c.toNat - 0x41 + 10)
  else none

def hexValues? (cs : List Char) : Option Nat :=
  cs.foldl (fun n? c => n?.bind fun n => (hexValue? c).map (16 * n + ·)) (some 0)

/-- The character that a one-letter escape stands for. -/
def escaped? (c : Char) : Option Char :=
  [('"', '"'), ('\\', '\\'), ('/', '/'), ('b', '\x08'), ('f', '\x0c'), ('n', '\n'), ('r', '\r'),
    ('t', '\t')].lookup c

/-- The code units of a string whose opening quote has been read, and what follows its closing
quote. -/
def readString : List Char → Option (List Nat × List Char)
  | [] => none
  | '"' :: rest => some ([], rest)
  | '\\' :: 'u' :: a :: b :: c :: d :: rest =>
    match hexValues? [a, b, c, d], readString rest with
    | some n, some (units, rest) => some (n :: units, rest)
    | _, _ => none
  | '\\' :: c :: rest =>
    match escaped? c, readString rest with
    | some c, some (units, rest) => some (c.toNat :: units, rest)
    | _, _ => none
  | c :: rest =>
    if c.toNat < 0x20 ∨ c = '\\' then none
    else (readString rest).map fun (units, rest) => (c.toNat :: units, rest)

/-- Joins pairs of surrogates. A surrogate without its partner is a code point by itself. -/
def joinUnits : List Nat → CodePoints
  | [] => []
  | [n] => [.ofNat n]
  | high :: low :: rest =>
    if 0xD800 ≤ high ∧ high < 0xDC00 ∧ 0xDC00 ≤ low ∧ low < 0xE000 then
      .ofNat (0x10000 + (high - 0xD800) * 0x400 + (low - 0xDC00)) :: joinUnits rest
    else .ofNat high :: joinUnits (low :: rest)

/-! ### Numbers -/

def isAsciiDigit (c : Char) : Bool := '0' ≤ c && c ≤ '9'

/-- The digits before a point; a zero stands alone. -/
def readWhole (cs : List Char) : List Char × List Char :=
  match cs with
  | '0' :: rest => (['0'], rest)
  | _ => cs.span isAsciiDigit

/-- The digits of a fraction after its point, if there is one. -/
def readFraction (cs : List Char) : List Char × List Char :=
  match cs with
  | '.' :: rest =>
    match rest.span isAsciiDigit with
    | ([], _) => ([], cs)
    | found => found
  | _ => ([], cs)

/-- The exponent, if there is one. -/
def readPower (cs : List Char) : Option Int × List Char :=
  let digitsAfter (negative : Bool) (rest : List Char) : Option Int × List Char :=
    match rest.span isAsciiDigit with
    | ([], _) => (none, cs)
    | (ds, rest) =>
      let n : Int := Text.digitsValue ds
      (some (if negative then -n else n), rest)
  match cs with
  | e :: rest =>
    if e = 'e' ∨ e = 'E' then
      let (negative, rest) := readSign rest
      digitsAfter negative rest
    else (none, cs)
  | [] => (none, cs)

inductive Token where
  | mark (c : Char)
  | value (d : Datum CodePoints)
  | string (s : CodePoints)
  | longInteger (digits : Nat)

/-- The token of a number without its sign. -/
def readNumber (negative : Bool) (cs : List Char) : Option (Token × List Char) :=
  let (whole, rest) := readWhole cs
  if whole.isEmpty then none
  else
    let (places, rest) := readFraction rest
    let (power, rest) := readPower rest
    if places.isEmpty && power.isNone then
      let n : Int := Text.digitsValue whole
      some (if whole.length > integerDigitLimit then .longInteger whole.length
        else .value (.integer (if negative then -n else n)), rest)
    else
      some (.value (.real (ofDecimal negative (Text.digitsValue (whole ++ places))
        (power.getD 0 - places.length))), rest)

/-! ### Tokens -/

def isSpace (c : Char) : Bool :=
  c = ' ' || c = '\t' || c = '\n' || c = '\r'

/-- The characters that are tokens by themselves. -/
def marks : List Char := ['[', ']', '\x7b', '\x7d', ',', ':']

/-- The words that are values, longest first. -/
def words : List (List Char × Datum CodePoints) :=
  [("-Infinity".toList, .real (ofMagnitudeBits true infinityBits)),
    ("Infinity".toList, .real (ofMagnitudeBits false infinityBits)),
    ("false".toList, .bool false), ("null".toList, .null), ("true".toList, .bool true),
    ("NaN".toList, .real (Float.ofBits 0x7FF8000000000000))]

/-- The token at the start of a text. -/
def readToken (cs : List Char) : Option (Token × List Char) :=
  match cs with
  | [] => none
  | c :: rest =>
    if c ∈ marks then some (.mark c, rest)
    else if c = '"' then
      (readString rest).map fun (units, rest) => (.string (joinUnits units), rest)
    else
      match words.find? fun (word, _) => word.isPrefixOf cs with
      | some (word, d) => some (.value d, cs.drop word.length)
      | none => if c = '-' then readNumber true rest else readNumber false cs

/-- The tokens of a text, no more than a number of them, and whether they are all of it. -/
def tokens (cs : List Char) : Nat → List Token × Bool
  | 0 => ([], cs.all isSpace)
  | n + 1 =>
    match cs.dropWhile isSpace with
    | [] => ([], true)
    | cs =>
      match readToken cs with
      | none => ([], false)
      | some (token, rest) =>
        let (more, complete) := tokens rest n
        (token :: more, complete)

/-! ### Values -/

/-- An array or an object that is still open; the items of an array in reverse order, and the key
that waits for its value. -/
inductive Open where
  | array (items : List (Datum CodePoints))
  | object (entries : Datum.Entries) (key : CodePoints)

/-- What may come next. -/
inductive Expected where
  | value
  | firstItem
  | firstKey
  | key
  | colon
  | separator
  | finished (d : Datum CodePoints)

/-- Puts a complete value where it belongs. -/
def close (d : Datum CodePoints) : List Open → List Open × Expected
  | [] => ([], .finished d)
  | .array items :: stack => (.array (d :: items) :: stack, .separator)
  | .object entries key :: stack =>
    (.object (entries.insert (.text key) d) key :: stack, .separator)

/-- Opens an array or an object, if no more than a number of them are nested then. -/
def openMark (limit : Nat) (c : Char) (stack : List Open) :
    Except ReadError (List Open × Expected) :=
  let deep := limit ≤ stack.length
  if c = '[' then
    if deep then .error (.nestedTooDeep "array") else .ok (.array [] :: stack, .firstItem)
  else if c = '\x7b' then
    if deep then .error (.nestedTooDeep "object") else .ok (.object [] [] :: stack, .firstKey)
  else .error .malformed

/-- One token, where a value is due. -/
def acceptValue (limit : Nat) (token : Token) (stack : List Open) :
    Except ReadError (List Open × Expected) :=
  match token with
  | .value d => .ok (close d stack)
  | .string s => .ok (close (.text s) stack)
  | .longInteger digits => .error (.integerTooLong digits)
  | .mark c => openMark limit c stack

/-- One token, with the arrays and objects that are open before it. -/
def accept (limit : Nat) (token : Token) (stack : List Open) (expected : Expected) :
    Except ReadError (List Open × Expected) :=
  match expected, token, stack with
  | .value, _, _ => acceptValue limit token stack
  | .firstItem, .mark ']', .array items :: stack => .ok (close (.list items.reverse) stack)
  | .firstItem, _, _ => acceptValue limit token stack
  | .firstKey, .mark '\x7d', .object entries _ :: stack => .ok (close (.map entries) stack)
  | .firstKey, .string s, .object entries _ :: stack => .ok (.object entries s :: stack, .colon)
  | .key, .string s, .object entries _ :: stack => .ok (.object entries s :: stack, .colon)
  | .colon, .mark ':', _ => .ok (stack, .value)
  | .separator, .mark ',', .array _ :: _ => .ok (stack, .value)
  | .separator, .mark ']', .array items :: stack => .ok (close (.list items.reverse) stack)
  | .separator, .mark ',', .object .. :: _ => .ok (stack, .key)
  | .separator, .mark '\x7d', .object entries _ :: stack => .ok (close (.map entries) stack)
  | _, _, _ => .error .malformed

def run (limit : Nat) : List Token → List Open → Expected → Except ReadError Expected
  | [], _, expected => .ok expected
  | token :: rest, stack, expected =>
    match accept limit token stack expected with
    | .ok (stack, expected) => run limit rest stack expected
    | .error e => .error e

/-- The datum that a text writes, with no more than a number of arrays and objects nested. -/
def parse (limit : Nat) (s : String) : Except ReadError (Datum CodePoints) :=
  let cs := s.toList
  let (found, complete) := tokens cs cs.length
  match run limit found [] .value with
  | .ok (.finished d) => if complete then .ok d else .error .malformed
  | .ok _ => .error .malformed
  | .error e => .error e

end Recalc.Json
