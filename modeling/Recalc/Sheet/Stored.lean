import Recalc.Text.Blank
import Recalc.Text.Case
import Recalc.Text.CodePoints
import Recalc.Xml.Characters
import Recalc.Xml.Node

/-!
# Stored sheets

What a file keeps of a sheet: its version, and the name and the text of every cell. As a document it
is an element for the sheet with an element for each cell. The case of the names of elements does
not matter, nor does anything that stands between them.
-/

namespace Recalc

open Recalc.Text Recalc.Xml

structure StoredSheet where
  version : CodePoints
  cells : List (String × String)

/-- Why a document is no stored sheet. Cells are counted from one. -/
inductive StructureFault where
  | wrongRoot (name : String)
  | missingVersion
  | unexpectedElement (name : String)
  | unexpectedField (name : String) (index : Nat)
  | incompleteCell (index : Nat)
  | namelessCell (index : Nat)
  deriving DecidableEq, Repr

def StructureFault.text (f : StructureFault) : String :=
  "Invalid spreadsheet format: " ++
    match f with
    | .wrongRoot name => "root element is <" ++ name ++ ">"
    | .missingVersion => "missing version"
    | .unexpectedElement name => "unexpected element <" ++ name ++ ">"
    | .unexpectedField name index => "unexpected <" ++ name ++ "> in cell " ++ toString index
    | .incompleteCell index => "cell " ++ toString index ++ " needs a name and contents"
    | .namelessCell index => "cell " ++ toString index ++ " has an empty name"

/-- A code point that no document can hold, and what it is in. -/
inductive StorageFault where
  | inVersion (p : CodePoint)
  | inCell (name : String) (p : CodePoint)
  deriving DecidableEq

/-- The number of a code point as `U+0001`. -/
def codePointText (p : CodePoint) : String :=
  let ds := (Nat.toDigits 16 p.toNat).map Char.toUpper
  "U+" ++ String.ofList (List.replicate (4 - ds.length) '0' ++ ds)

def StorageFault.text : StorageFault → String
  | .inVersion p => "version contains character " ++ codePointText p ++ ", which XML cannot store"
  | .inCell name p =>
    "cell " ++ quoted name ++ " contains character " ++ codePointText p ++
      ", which XML cannot store"

namespace StoredSheet

/-! ### To a document -/

/-- The first code point of a text that no document can hold. -/
def unstorable? (s : CodePoints) : Option CodePoint :=
  s.find? fun p => !p.char?.any isXmlChar

/-- The first code point that keeps a sheet from being stored. -/
def fault? (s : StoredSheet) : Option StorageFault :=
  match unstorable? s.version with
  | some p => some (.inVersion p)
  | none =>
    s.cells.findSome? fun (name, contents) =>
      (unstorable? (name ++ contents)).map (.inCell name)

/-- The elements at a level of indentation, each on a line of its own. -/
def onLines (level : Nat) (nodes : List Node) : List Node :=
  let line (n : Nat) : Node := .text (String.ofList ('\n' :: List.replicate (2 * n) ' '))
  if nodes.isEmpty then []
  else nodes.flatMap (fun n => [line level, n]) ++ [line (level - 1)]

def cellNode (cell : String × String) : Node :=
  .element "cell" []
    (onLines 2 [.element "name" [] [.text cell.1], .element "contents" [] [.text cell.2]])

def toElement (s : StoredSheet) : Element :=
  ⟨"spreadsheet", [("version", s.version.lossy)], onLines 1 (s.cells.map cellNode)⟩

/-! ### From a document -/

/-- The name and the contents in a cell, each at most once. -/
def readFields (index : Nat) (name contents : Option String) :
    List Element → Except StructureFault (Option String × Option String)
  | [] => .ok (name, contents)
  | e :: rest =>
    let unexpected : StructureFault := .unexpectedField e.name index
    match lower e.name with
    | "name" =>
      if name.isSome then .error unexpected
      else readFields index (some e.leadingText) contents rest
    | "contents" =>
      if contents.isSome then .error unexpected
      else readFields index name (some e.leadingText) rest
    | _ => .error unexpected

def readCell (index : Nat) (e : Element) : Except StructureFault (String × String) := do
  match ← readFields index none none e.children with
  | (some name, some contents) =>
    let name := strip name
    if name = "" then throw (.namelessCell index)
    return (name, contents)
  | _ => throw (.incompleteCell index)

/-- The cells, of which the first has the given index. -/
def readCells (index : Nat) : List Element → Except StructureFault (List (String × String))
  | [] => .ok []
  | e :: rest => do
    if lower e.name ≠ "cell" then throw (.unexpectedElement e.name)
    let cell ← readCell index e
    let cells ← readCells (index + 1) rest
    return cell :: cells

/-- The version of the sheet that an element stores. -/
def versionOf (e : Element) : Except StructureFault CodePoints :=
  if lower e.name ≠ "spreadsheet" then .error (.wrongRoot e.name)
  else
    match e.attribute? "version" with
    | some version => .ok version
    | none => .error .missingVersion

/-- The sheet that an element stores. -/
def ofElement (e : Element) : Except StructureFault StoredSheet := do
  let version ← versionOf e
  let cells ← readCells 1 e.children
  return ⟨version, cells⟩

end StoredSheet

end Recalc
