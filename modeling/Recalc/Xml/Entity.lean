import Recalc.Xml.Markup

/-!
# Entities and attribute values

What a document type declares, and the values of attributes: their references are replaced, and the
blanks of a value that is no free text are reduced to single ones between its words.
-/

namespace Recalc.Xml

inductive EntityText where
  | internal (cs : List Char)
  /-- The text is in another file. -/
  | external
  /-- Data of another notation. -/
  | binary

/-- What is declared about an attribute of an element. -/
structure AttributeRule where
  element : List Char
  name : List Char
  /-- Whether the value is free text. -/
  free : Bool
  value : Option (List Char)

/-- What a document type declares; of several declarations of one name the first counts. -/
structure Doctype where
  entities : List (List Char × EntityText)
  attributes : List AttributeRule
  /-- Whether some declarations are in other files, which are not looked at. -/
  incomplete : Bool
  standalone : Bool

namespace Doctype

def empty (standalone : Bool) : Doctype :=
  ⟨[], [], false, standalone⟩

/-- Whether an entity that is not declared here is declared nowhere. -/
def isClosed (d : Doctype) : Bool :=
  !d.incomplete || d.standalone

def declareEntity (d : Doctype) (name : List Char) (text : EntityText) : Doctype :=
  if (predefined? name).isSome || (d.entities.lookup name).isSome then d
  else { d with entities := d.entities ++ [(name, text)] }

def rules (d : Doctype) (element : List Char) : List AttributeRule :=
  d.attributes.filter (·.element = element)

def declareAttribute (d : Doctype) (r : AttributeRule) : Doctype :=
  if r.value.isSome && (d.rules r.element).any (·.name = r.name) then d
  else { d with attributes := d.attributes ++ [r] }

/-- Whether the values of an attribute are free text. -/
def isFree (d : Doctype) (element name : List Char) : Bool :=
  ((d.rules element).find? (·.name = name)).all AttributeRule.free

end Doctype

/-- A problem in a value. Without a place it is told of the whole token. -/
structure ValueFault where
  problem : Problem
  left : Option Nat

def ValueFault.toFault (f : ValueFault) (start : Nat) : Fault :=
  ⟨f.problem, f.left.getD start⟩

/-- Appends a character to a value that is given in reverse order. -/
def appendValue (free : Bool) (value : List Char) (c : Char) : List Char :=
  if !free && c = ' ' && (value.isEmpty || value.head? == some ' ') then value else c :: value

/-- Appends what one part of a value stands for; `expand` appends the text of an entity. A blank
that is not written as a reference is a space. -/
def appendPart (d : Doctype) (free : Bool)
    (expand : List Char → List Char → List Char → Except ValueFault (List Char))
    (value : List Char) : ValuePart → Except ValueFault (List Char)
  | .char c => .ok (appendValue free value (if isSpace c then ' ' else c))
  | .reference (.character (some c)) _ => .ok (appendValue free value c)
  | .reference (.character none) left => .error ⟨.badCharacterNumber, some left⟩
  | .reference (.entity name) left =>
    match predefined? name with
    | some c => .ok (c :: value)
    | none =>
      match d.entities.lookup name with
      | none => if d.isClosed then .error ⟨.undefinedEntity, none⟩ else .ok value
      | some .binary => .error ⟨.binaryEntity, some left⟩
      | some .external => .error ⟨.externalInAttribute, some left⟩
      | some (.internal text) => expand name text value

/-- Appends the text of an entity to a value; `active` are the entities around it, and there are
fewer others than a number. Problems inside are told of the whole token. -/
def appendEntity (d : Doctype) (free : Bool) :
    Nat → List (List Char) → List Char → List Char → List Char → Except ValueFault (List Char)
  | 0, _, _, _, _ => .error ⟨.recursiveEntity, none⟩
  | n + 1, active, name, text, value =>
    if name ∈ active then .error ⟨.recursiveEntity, none⟩
    else do
      let (parts, stop?) := valueParts text (text.length + 1)
      let value ←
        (parts.foldlM (appendPart d free (appendEntity d free n (name :: active))) value).mapError
          fun f => { f with left := none }
      if stop?.isSome then .error ⟨.invalidToken, none⟩ else .ok value

/-- The value that parts write. -/
def valueOf (d : Doctype) (free : Bool) (parts : List ValuePart) :
    Except ValueFault (List Char) := do
  let value ← parts.foldlM (appendPart d free (appendEntity d free (d.entities.length + 1) [])) []
  let value := if !free && value.head? == some ' ' then value.tail else value
  return value.reverse

end Recalc.Xml
