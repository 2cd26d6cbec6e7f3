import Recalc.Number.Layout
import Recalc.Moment
import Recalc.Text.CodePoints

/-!
# Data of any shape

Settings, event contexts and arguments of unchecked kind are data: scalars, sequences and
mappings. A mapping keeps its entries in the order in which their keys first appeared. The texts of
settings and contexts are code points, since both are read from escapes that may name surrogates;
those of arguments are characters.
-/

namespace Recalc

inductive Datum (τ : Type := String) where
  | null
  | bool (b : Bool)
  | integer (n : Int)
  | real (x : Float)
  | text (s : τ)
  | moment (m : Moment)
  | bytes (octets : List UInt8)
  | list (items : List (Datum τ))
  | tuple (items : List (Datum τ))
  | set (items : List (Datum τ))
  | map (entries : List (Datum τ × Datum τ))
  deriving Inhabited

namespace Datum

variable {τ : Type}

/-- The name of the kind of a datum, as messages call it. -/
def kind : Datum τ → String
  | .null => "NoneType"
  | .bool _ => "bool"
  | .integer _ => "int"
  | .real _ => "float"
  | .text _ => "str"
  | .moment m => if m.time.isSome then "datetime" else "date"
  | .bytes _ => "bytes"
  | .list _ => "list"
  | .tuple _ => "tuple"
  | .set _ => "set"
  | .map _ => "dict"

/-- Whether a datum counts as given: nothing, zero and whatever is empty do not. -/
def isTruthy : Datum CodePoints → Bool
  | .null => false
  | .bool b => b
  | .integer n => n != 0
  | .real x => x != 0
  | .text s => !s.isEmpty
  | .moment _ => true
  | .bytes octets => !octets.isEmpty
  | .list items | .tuple items | .set items => !items.isEmpty
  | .map entries => !entries.isEmpty

def text? : Datum τ → Option τ
  | .text s => some s
  | _ => none

def isNull : Datum τ → Bool
  | .null => true
  | _ => false

/-! ### Equality as keys -/

/-- The number that a datum is equal to; the truth values are zero and one. -/
def asNumber? : Datum τ → Option (Int ⊕ Float)
  | .bool b => some (.inl (if b then 1 else 0))
  | .integer n => some (.inl n)
  | .real x =>
    match Number.toInt? x with
    | some n => some (.inl n)
    | none => some (.inr x)
  | _ => none

/-- Whether two data are the same key. Numbers are compared by value, whatever their kind; a
sequence or a mapping is never a key. -/
def sameKey (a b : Datum CodePoints) : Bool :=
  match a, b with
  | .null, .null => true
  | .text s, .text t => s == t
  | .moment m, .moment n => m == n
  | .bytes s, .bytes t => s == t
  | _, _ =>
    match a.asNumber?, b.asNumber? with
    | some (.inl m), some (.inl n) => m == n
    | some (.inr x), some (.inr y) => x == y
    | _, _ => false

/-! ### Mappings -/

abbrev Entries := List (Datum CodePoints × Datum CodePoints)

/-- Entries with texts as keys. -/
abbrev Fields := List (CodePoints × Datum CodePoints)

/-- Sets the value of a key. A key that is present keeps its place and its spelling. -/
def Entries.insert (entries : Entries) (key value : Datum CodePoints) : Entries :=
  match entries with
  | [] => [(key, value)]
  | (k, v) :: rest =>
    if k.sameKey key then (k, value) :: rest else (k, v) :: Entries.insert rest key value

/-- Sets the values of several keys in turn. -/
def Entries.update (entries more : Entries) : Entries :=
  more.foldl (fun es (k, v) => es.insert k v) entries

/-- The value of a text key. -/
def Entries.find? (entries : Entries) (key : CodePoints) : Option (Datum CodePoints) :=
  match entries with
  | [] => none
  | (k, v) :: rest => if k.text? = some key then some v else Entries.find? rest key

/-- The mapping of distinct text keys. -/
def record (fields : Fields) : Datum CodePoints :=
  .map (fields.map fun (k, v) => (.text k, v))

/-- The value of a text key of a mapping. -/
def get? (d : Datum CodePoints) (key : CodePoints) : Option (Datum CodePoints) :=
  match d with
  | .map entries => Entries.find? entries key
  | _ => none

end Datum

end Recalc
