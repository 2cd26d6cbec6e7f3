import Recalc.Xml.Entity
import Recalc.Xml.Node

/-!
# Namespaces

Attributes bind prefixes to namespaces, and the names of elements and attributes are expanded
accordingly: the namespace is put in braces before the local name.
-/

namespace Recalc.Xml

/-- Prefixes with their namespaces, innermost first; the empty prefix is that of plain names of
elements. -/
abbrev Bindings := List (List Char × List Char)

/-- The namespaces that the standard reserves, for the prefix `xml` and for declarations. -/
def xmlNamespace : List Char :=
  ("/".intercalate ["http:", "", "www.w3.org", "XML", "1998", "namespace"]).toList

def xmlnsNamespace : List Char :=
  ("/".intercalate ["http:", "", "www.w3.org", "2000", "xmlns", ""]).toList

def Bindings.initial : Bindings := [("xml".toList, xmlNamespace)]

/-- The prefix and the local part of a name. -/
def splitName (name : List Char) : Option (List Char) × List Char :=
  match name.span (· ≠ ':') with
  | (pre, _ :: localName) => (some pre, localName)
  | (localName, []) => (none, localName)

def expandedName (space localName : List Char) : String :=
  String.ofList ('\x7b' :: space ++ '\x7d' :: localName)

/-- The prefix that an attribute declares, if it declares one. -/
def declaredPrefix? (name : List Char) : Option (List Char) :=
  match splitName name with
  | (some pre, localName) => if pre = "xmlns".toList then some localName else none
  | (none, localName) => if localName = "xmlns".toList then some [] else none

/-- Binds a prefix to a namespace. -/
def bind (bindings : Bindings) (pre space : List Char) : Except Problem Bindings :=
  let isXml := pre = "xml".toList
  if space.isEmpty && !pre.isEmpty then .error .undeclaredPrefix
  else if pre = "xmlns".toList then .error .reservedDeclarationPrefix
  else if '\x7d' ∈ space then .error .misplaced
  else if isXml && space ≠ xmlNamespace then .error .reservedPrefix
  else if !isXml && (space = xmlNamespace || space = xmlnsNamespace) then .error .reservedNamespace
  else .ok ((pre, space) :: bindings)

/-- The name of an element. -/
def elementName (bindings : Bindings) (name : List Char) : Except Problem String :=
  match splitName name with
  | (some pre, localName) =>
    match bindings.lookup pre with
    | some space => .ok (expandedName space localName)
    | none => .error .unboundPrefix
  | (none, localName) =>
    match bindings.lookup [] with
    | some (c :: space) => .ok (expandedName (c :: space) localName)
    | _ => .ok (String.ofList localName)

/-- The name of an attribute; without a prefix it is in no namespace. -/
def attributeName (bindings : Bindings) (name : List Char) : Except Problem String :=
  match splitName name with
  | (some pre, localName) =>
    match bindings.lookup pre with
    | some space => .ok (expandedName space localName)
    | none => .error .unboundPrefix
  | (none, localName) => .ok (String.ofList localName)

/-- The values of the attributes of a tag, given with the text from it on, and the bindings that
they declare. -/
def attributeValues (d : Doctype) (element : List Char) (here : List Char) :
    Bindings → List (List Char) → List RawAttribute →
      Except Fault (List (List Char × List Char) × Bindings)
  | bindings, _, [] => .ok ([], bindings)
  | bindings, seen, a :: rest => do
    if a.name ∈ seen then throw ⟨.duplicateAttribute, a.left⟩
    let value ← (valueOf d (d.isFree element a.name) a.value).mapError (·.toFault here.length)
    match declaredPrefix? a.name with
    | some pre =>
      let bindings ← (bind bindings pre value).mapError fun p => ⟨p, here.length⟩
      attributeValues d element here bindings (a.name :: seen) rest
    | none =>
      let (values, bindings) ← attributeValues d element here bindings (a.name :: seen) rest
      return ((a.name, value) :: values, bindings)

/-- The default values of the attributes that a tag does not have. -/
def defaultValues (rules : List AttributeRule) (present : List (List Char)) (bindings : Bindings) :
    Except Problem (List (List Char × List Char) × Bindings) :=
  match rules with
  | [] => .ok ([], bindings)
  | r :: rest =>
    match r.value with
    | none => defaultValues rest present bindings
    | some value =>
      if r.name ∈ present then defaultValues rest present bindings
      else do
        match declaredPrefix? r.name with
        | some pre =>
          let bindings ← bind bindings pre value
          defaultValues rest (r.name :: present) bindings
        | none =>
          let (values, bindings) ← defaultValues rest (r.name :: present) bindings
          return ((r.name, value) :: values, bindings)

/-- The attributes with expanded names, which must differ. -/
def expandAttributes (bindings : Bindings) (seen : List String) :
    List (List Char × List Char) → Except Problem (List (String × String))
  | [] => .ok []
  | (name, value) :: rest => do
    let expanded ← attributeName bindings name
    if expanded ∈ seen then throw .duplicateAttribute
    let more ← expandAttributes bindings (expanded :: seen) rest
    return (expanded, String.ofList value) :: more

/-- A start tag with everything expanded. -/
structure ExpandedTag where
  name : String
  attributes : List (String × String)
  bindings : Bindings

/-- Expands a start tag, given with the text from it on. -/
def expandTag (d : Doctype) (bindings : Bindings) (name : List Char)
    (attributes : List RawAttribute) (here : List Char) : Except Fault ExpandedTag := do
  let inTag {α : Type} (r : Except Problem α) : Except Fault α :=
    r.mapError fun p => ⟨p, here.length⟩
  let (given, bindings) ← attributeValues d name here bindings [] attributes
  let (added, bindings) ←
    inTag (defaultValues (d.rules name) (attributes.map RawAttribute.name) bindings)
  let attributes ← inTag (expandAttributes bindings [] (given ++ added))
  let name ← inTag (elementName bindings name)
  return ⟨name, attributes, bindings⟩

end Recalc.Xml
