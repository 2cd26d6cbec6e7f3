import Recalc.Datum.Shown
import Recalc.Json.Reader

/-!
# Writing JSON

Data as JSON text in ASCII. A line has one space after each comma and colon; the indented form
puts every item on a line of its own. Data that JSON has no form for are written as text. What has
too many digits, or is nested deeper than the stack allows, is not written.
-/

namespace Recalc.Json

open Recalc.Text

/-! ### Limits -/

/-- Why a datum is not written. -/
inductive WriteError where
  | integerTooLong
  | nestedTooDeep
  deriving DecidableEq, Repr

def WriteError.message : WriteError → String
  | .integerTooLong =>
    "Exceeds the limit (" ++ toString Number.integerDigitLimit ++ " digits) for integer string " ++
      "conversion; use sys.set_int_max_str_digits() to increase the limit"
  | .nestedTooDeep => "maximum recursion depth exceeded while encoding a JSON object"

def integerFault? (n : Int) : Option WriteError :=
  if Number.integerDigitLimit < (toString n.natAbs).length then some .integerTooLong else none

def keyFault? : Datum CodePoints → Option WriteError
  | .integer n => integerFault? n
  | _ => none

mutual
/-- What first stands against writing a datum inside a number of others, where no more than `limit`
are nested. -/
def fault? (limit depth : Nat) : Datum CodePoints → Option WriteError
  | .null | .bool _ | .real _ | .text _ => none
  | .integer n => integerFault? n
  | .list items | .tuple items =>
    if limit ≤ depth then some .nestedTooDeep else itemsFault? limit (depth + 1) items
  | .map entries =>
    if limit ≤ depth then some .nestedTooDeep else entriesFault? limit (depth + 1) entries
  | _ => if limit ≤ depth then some .nestedTooDeep else none

def itemsFault? (limit depth : Nat) : List (Datum CodePoints) → Option WriteError
  | [] => none
  | d :: rest => (fault? limit depth d).or (itemsFault? limit depth rest)

def entriesFault? (limit depth : Nat) : Datum.Entries → Option WriteError
  | [] => none
  | (k, v) :: rest =>
    ((keyFault? k).or (fault? limit depth v)).or (entriesFault? limit depth rest)
end

/-! ### Characters and scalars -/

/-- A code unit of sixteen bits as an escape. -/
def escapeUnit (n : Nat) : List Char :=
  '\\' :: 'u' :: hex 4 n

/-- One character inside a string; beyond the first plane it takes a pair of escapes. -/
def escapeChar (c : Char) : List Char :=
  match c with
  | '"' => ['\\', '"']
  | '\\' => ['\\', '\\']
  | '\n' => ['\\', 'n']
  | '\r' => ['\\', 'r']
  | '\t' => ['\\', 't']
  | '\x08' => ['\\', 'b']
  | '\x0c' => ['\\', 'f']
  | _ =>
    let n := c.toNat
    if 0x20 ≤ n ∧ n ≤ 0x7E then [c]
    else if n ≤ 0xFFFF then escapeUnit n
    else escapeUnit (0xD800 + (n - 0x10000) / 0x400) ++ escapeUnit (0xDC00 + (n - 0x10000) % 0x400)

/-- One code point inside a string. -/
def escape : CodePoint → List Char
  | .char c => escapeChar c
  | .surrogate n => escapeUnit (0xD800 + n)

def stringChars (s : CodePoints) : List Char :=
  '"' :: s.flatMap escape ++ ['"']

def string (s : CodePoints) : String :=
  String.ofList (stringChars s)

/-- Numbers as in messages, except for the names of the special values. -/
def numberLayout : Number.Layout :=
  { Number.Layout.standard with nan := "NaN", infinity := "Infinity" }

def scalar : Datum CodePoints → String
  | .null => "null"
  | .bool b => if b then "true" else "false"
  | .integer n => toString n
  | .real x => numberLayout.write x
  | d => string d.shown

/-- The text of a key. -/
def key : Datum CodePoints → String
  | .text s => string s
  | .null => string "null"
  | .bool b => string (if b then "true" else "false")
  | d => string d.shown

/-! ### Sorted keys -/

mutual
/-- The entries of every mapping in the order of their keys. -/
def sortKeys : Datum CodePoints → Datum CodePoints
  | .list items => .list (sortItems items)
  | .tuple items => .tuple (sortItems items)
  | .map entries => .map ((sortEntries entries).mergeSort fun a b => a.1.shown ≤ b.1.shown)
  | d => d

def sortItems : List (Datum CodePoints) → List (Datum CodePoints)
  | [] => []
  | d :: rest => sortKeys d :: sortItems rest

def sortEntries : Datum.Entries → Datum.Entries
  | [] => []
  | (k, v) :: rest => (k, sortKeys v) :: sortEntries rest
end

/-! ### One line -/

mutual
def lineChars : Datum CodePoints → List Char
  | .list items | .tuple items => '[' :: lineItems items ++ [']']
  | .map entries => '\x7b' :: lineEntries entries ++ ['\x7d']
  | d => (scalar d).toList

def lineItems : List (Datum CodePoints) → List Char
  | [] => []
  | [d] => lineChars d
  | d :: rest => lineChars d ++ ',' :: ' ' :: lineItems rest

def lineEntries : Datum.Entries → List Char
  | [] => []
  | [(k, v)] => (key k).toList ++ ':' :: ' ' :: lineChars v
  | (k, v) :: rest => (key k).toList ++ ':' :: ' ' :: lineChars v ++ ',' :: ' ' :: lineEntries rest
end

def line (d : Datum CodePoints) : String :=
  String.ofList (lineChars d)

/-! ### Indented -/

/-- A line break with the indentation of a level. -/
def newline (level : Nat) : List Char :=
  '\n' :: List.replicate (2 * level) ' '

mutual
/-- The indented form of a datum that stands at a level. -/
def indentedChars (level : Nat) : Datum CodePoints → List Char
  | .list [] | .tuple [] => ['[', ']']
  | .list items | .tuple items =>
    '[' :: indentedItems (level + 1) items ++ newline level ++ [']']
  | .map [] => ['\x7b', '\x7d']
  | .map entries => '\x7b' :: indentedEntries (level + 1) entries ++ newline level ++ ['\x7d']
  | d => (scalar d).toList

def indentedItems (level : Nat) : List (Datum CodePoints) → List Char
  | [] => []
  | [d] => newline level ++ indentedChars level d
  | d :: rest => newline level ++ indentedChars level d ++ ',' :: indentedItems level rest

def indentedEntries (level : Nat) : Datum.Entries → List Char
  | [] => []
  | [(k, v)] => newline level ++ (key k).toList ++ ':' :: ' ' :: indentedChars level v
  | (k, v) :: rest =>
    newline level ++ (key k).toList ++ ':' :: ' ' :: indentedChars level v ++
      ',' :: indentedEntries level rest
end

def indented (d : Datum CodePoints) : String :=
  String.ofList (indentedChars 0 d)

end Recalc.Json
