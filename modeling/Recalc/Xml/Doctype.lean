import Recalc.Xml.Entity
import Recalc.Xml.Prolog

/-!
# Document types

The tokens of the prolog are read one by one; what may come next depends on the declaration that is
open. Of what is declared, the entities and the default values of attributes are kept.
-/

namespace Recalc.Xml

/-- What may come next in the prolog. -/
inductive Expecting where
  | doctype
  | doctypeName
  | externalId
  | doctypePublicId
  | doctypeSystemId
  | subsetOrEnd
  | subset
  | doctypeEnd
  | element
  | entityName
  | parameterEntityName
  | entityValue (name : Option (List Char))
  | entityPublicId (name : Option (List Char))
  | entitySystemId (name : Option (List Char))
  | entityEnd (name : Option (List Char))
  | entityNotation (name : Option (List Char))
  | notationName
  | notationId
  | notationPublicId
  | notationSystemId
  | notationEnd
  | attributeElement
  | attributeName (element : List Char)
  | attributeType (element name : List Char)
  | notationTypes (element name : List Char)
  | firstChoice (element name : List Char) (plain : Bool)
  | nextChoice (element name : List Char) (plain : Bool)
  | attributeDefault (element name : List Char) (free : Bool)
  | fixedDefault (element name : List Char) (free : Bool)
  | elementName
  | elementContent
  | modelStart
  | afterCharacterData
  | mixedName
  | afterMixedName
  /-- An item of a content model, with the connectors of the open groups, innermost first. -/
  | modelItem (connectors : List (Option PrologToken))
  | afterModelItem (connectors : List (Option PrologToken))
  | declarationEnd

/-- What has been declared and what may come next. -/
structure PrologState where
  expecting : Expecting
  doctype : Doctype
  /-- Whether declarations still count. -/
  counting : Bool

/-- The problem of a token that may not come next. -/
def PrologToken.refusal : PrologToken → Problem
  | .parameterReference => .parameterReference
  | .declaration => .misplacedDeclaration
  | _ => .misplaced

/-- The characters that may occur in a public identifier. -/
def isPublicIdChar (c : Char) : Bool :=
  c.isAlphanum || c ∈ " \r\n-'()+,./:=?;!*#@$_%".toList

/-- The text of an entity as its declaration gives it: numbered characters are replaced, other
references are kept, and every line end becomes a line feed. `after` characters are left after the
value. -/
def entityText (after : Nat) (cs : List Char) : Nat → Except Fault (List Char)
  | 0 => .ok []
  | n + 1 =>
    match cs with
    | [] => .ok []
    | '%' :: rest =>
      match readPercent rest with
      | .ok (.percent, rest) => .error ⟨.invalidToken, rest.length + after⟩
      | .ok _ => .error ⟨.parameterReference, cs.length + after⟩
      | .error (.invalid left) => .error ⟨.invalidToken, left + after⟩
      | .error _ => .error ⟨.invalidToken, cs.length + after⟩
    | '&' :: rest =>
      match readReference rest with
      | .ok (.entity name, rest) =>
        (entityText after rest n).map fun text => '&' :: name ++ ';' :: text
      | .ok (.character (some c), rest) => (entityText after rest n).map (c :: ·)
      | .ok (.character none, _) => .error ⟨.badCharacterNumber, cs.length + after⟩
      | .error (.invalid left) => .error ⟨.invalidToken, left + after⟩
      | .error _ => .error ⟨.invalidToken, cs.length + after⟩
    | '\r' :: '\n' :: rest => (entityText after rest n).map ('\n' :: ·)
    | c :: rest => (entityText after rest n).map ((if c = '\r' then '\n' else c) :: ·)

/-- The default value that a literal writes, in a token that begins where so many characters are
left. -/
def defaultValue (d : Doctype) (free : Bool) (cs : List Char) (after start : Nat) :
    Except Fault (List Char) := do
  let shift (left : Nat) := left + after
  let (parts, stop?) := valueParts cs (cs.length + 1)
  let value ← (valueOf d free (unifyLineEndParts parts)).mapError fun f =>
    ⟨f.problem, (f.left.map shift).getD start⟩
  match stop? with
  | none => return value
  | some (.invalid left) => throw ⟨.invalidToken, shift left⟩
  | some _ => throw ⟨.invalidToken, shift 0⟩

namespace PrologState

def expect (s : PrologState) (e : Expecting) : Except Fault PrologState :=
  .ok { s with expecting := e }

/-- Declares an entity, unless declarations no longer count or the name is of no general entity. -/
def declareEntity (s : PrologState) (name : Option (List Char)) (text : EntityText)
    (next : Expecting) : PrologState :=
  match name with
  | some name =>
    { s with
      expecting := next
      doctype := if s.counting then s.doctype.declareEntity name text else s.doctype }
  | none => { s with expecting := next }

def declareAttribute (s : PrologState) (r : AttributeRule) : PrologState :=
  { s with
    expecting := .attributeName r.element
    doctype := if s.counting then s.doctype.declareAttribute r else s.doctype }

/-- A literal for the default value of an attribute. -/
def declareDefault (s : PrologState) (element name : List Char) (free : Bool) (cs : List Char)
    (after start : Nat) : Except Fault PrologState := do
  if !s.counting then s.expect (.attributeName element)
  else
    let value ← defaultValue s.doctype free cs after start
    return s.declareAttribute ⟨element, name, free, some value⟩

/-- A public identifier; its first wrong character is told. -/
def publicId (s : PrologState) (cs : List Char) (after : Nat) (next : Expecting) :
    Except Fault PrologState :=
  match cs.dropWhile isPublicIdChar with
  | [] => s.expect next
  | wrong => .error ⟨.badPublicId, wrong.length + after⟩

/-- The declarations of the internal subset. -/
def subset (s : PrologState) (token : PrologToken) (start : Nat) : Except Fault PrologState :=
  match token with
  | .aside => .ok s
  | .opening keyword =>
    match String.ofList keyword with
    | "ENTITY" => s.expect .entityName
    | "ATTLIST" => s.expect .attributeElement
    | "ELEMENT" => s.expect .elementName
    | "NOTATION" => s.expect .notationName
    | _ => .error ⟨.misplaced, start⟩
  | .parameterReference =>
    .ok { s with
      counting := s.doctype.standalone
      doctype := { s.doctype with incomplete := true } }
  | .closeBracket => s.expect .doctypeEnd
  | token => .error ⟨token.refusal, start⟩

/-- The parts of the document type declaration around the internal subset. -/
def doctypePart (s : PrologState) (token : PrologToken) (start : Nat) :
    Except Fault PrologState :=
  let outside : PrologState := { s with doctype := { s.doctype with incomplete := true } }
  match s.expecting, token with
  | .doctype, .aside | .element, .aside => .ok s
  | .doctype, .opening keyword =>
    if keyword = "DOCTYPE".toList then s.expect .doctypeName else .error ⟨.misplaced, start⟩
  | .doctypeName, .name _ | .doctypeName, .qualifiedName _ => s.expect .externalId
  | .externalId, .openBracket | .subsetOrEnd, .openBracket => s.expect .subset
  | .externalId, .closing | .subsetOrEnd, .closing | .doctypeEnd, .closing => s.expect .element
  | .externalId, .name keyword =>
    if keyword = "SYSTEM".toList then s.expect .doctypeSystemId
    else if keyword = "PUBLIC".toList then s.expect .doctypePublicId
    else .error ⟨.misplaced, start⟩
  | .doctypePublicId, .literal cs after => outside.publicId cs after .doctypeSystemId
  | .doctypeSystemId, .literal .. => outside.expect .subsetOrEnd
  | _, token => .error ⟨token.refusal, start⟩

/-- The parts of an entity declaration. -/
def entityPart (s : PrologState) (token : PrologToken) (start : Nat) : Except Fault PrologState :=
  match s.expecting, token with
  | .entityName, .percent => s.expect .parameterEntityName
  | .entityName, .name name => s.expect (.entityValue (some name))
  | .parameterEntityName, .name _ => s.expect (.entityValue none)
  | .entityValue name, .name keyword =>
    if keyword = "SYSTEM".toList then s.expect (.entitySystemId name)
    else if keyword = "PUBLIC".toList then s.expect (.entityPublicId name)
    else .error ⟨.misplaced, start⟩
  | .entityValue name, .literal cs after =>
    if s.counting then
      (entityText after cs (cs.length + 1)).map fun text =>
        s.declareEntity name (.internal text) .declarationEnd
    else s.expect .declarationEnd
  | .entityPublicId name, .literal cs after => s.publicId cs after (.entitySystemId name)
  | .entitySystemId name, .literal .. => s.expect (.entityEnd name)
  | .entityEnd name, .closing => .ok (s.declareEntity name .external .subset)
  | .entityEnd (some name), .name keyword =>
    if keyword = "NDATA".toList then s.expect (.entityNotation (some name))
    else .error ⟨.misplaced, start⟩
  | .entityNotation name, .name _ => .ok (s.declareEntity name .binary .declarationEnd)
  | _, token => .error ⟨token.refusal, start⟩

/-- The parts of a notation declaration. -/
def notationPart (s : PrologState) (token : PrologToken) (start : Nat) :
    Except Fault PrologState :=
  match s.expecting, token with
  | .notationName, .name _ => s.expect .notationId
  | .notationId, .name keyword =>
    if keyword = "SYSTEM".toList then s.expect .notationSystemId
    else if keyword = "PUBLIC".toList then s.expect .notationPublicId
    else .error ⟨.misplaced, start⟩
  | .notationPublicId, .literal cs after => s.publicId cs after .notationEnd
  | .notationSystemId, .literal .. | .notationEnd, .literal .. => s.expect .declarationEnd
  | .notationEnd, .closing => s.expect .subset
  | _, token => .error ⟨token.refusal, start⟩

/-- The types of attributes, except the enumerated ones. -/
def attributeTypes : List String :=
  ["CDATA", "ID", "IDREF", "IDREFS", "ENTITY", "ENTITIES", "NMTOKEN", "NMTOKENS"]

/-- The parts of an attribute declaration. -/
def attributePart (s : PrologState) (token : PrologToken) (start : Nat) :
    Except Fault PrologState :=
  match s.expecting, token with
  | .attributeElement, .name e | .attributeElement, .qualifiedName e => s.expect (.attributeName e)
  | .attributeName e, .name a | .attributeName e, .qualifiedName a => s.expect (.attributeType e a)
  | .attributeName _, .closing => s.expect .subset
  | .attributeType e a, .name type =>
    let type := String.ofList type
    if type = "NOTATION" then s.expect (.notationTypes e a)
    else if type ∈ attributeTypes then s.expect (.attributeDefault e a (type = "CDATA"))
    else .error ⟨.misplaced, start⟩
  | .attributeType e a, .openParen => s.expect (.firstChoice e a true)
  | .notationTypes e a, .openParen => s.expect (.firstChoice e a false)
  | .firstChoice e a plain, .name _ => s.expect (.nextChoice e a plain)
  | .firstChoice e a true, .nameToken _ | .firstChoice e a true, .qualifiedName _ =>
    s.expect (.nextChoice e a true)
  | .nextChoice e a _, .closeParen none => s.expect (.attributeDefault e a false)
  | .nextChoice e a plain, .bar => s.expect (.firstChoice e a plain)
  | .attributeDefault e a free, .keyword word =>
    match String.ofList word with
    | "IMPLIED" | "REQUIRED" => .ok (s.declareAttribute ⟨e, a, free, none⟩)
    | "FIXED" => s.expect (.fixedDefault e a free)
    | _ => .error ⟨.misplaced, start⟩
  | .attributeDefault e a free, .literal cs after | .fixedDefault e a free, .literal cs after =>
    s.declareDefault e a free cs after start
  | _, token => .error ⟨token.refusal, start⟩

/-- Notes the connector of the innermost group, which must always be the same. -/
def connect (s : PrologState) (token : PrologToken) (connectors : List (Option PrologToken))
    (start : Nat) : Except Fault PrologState :=
  match token, connectors with
  | .comma, some .bar :: _ | .bar, some .comma :: _ => .error ⟨.misplaced, start⟩
  | _, _ :: outer => s.expect (.modelItem (some token :: outer))
  | _, [] => .error ⟨.misplaced, start⟩

/-- The parts of an element declaration. -/
def elementPart (s : PrologState) (token : PrologToken) (start : Nat) :
    Except Fault PrologState :=
  match s.expecting, token with
  | .elementName, .name _ | .elementName, .qualifiedName _ => s.expect .elementContent
  | .elementContent, .name word =>
    if word = "EMPTY".toList ∨ word = "ANY".toList then s.expect .declarationEnd
    else .error ⟨.misplaced, start⟩
  | .elementContent, .openParen => s.expect .modelStart
  | .modelStart, .keyword word =>
    if word = "PCDATA".toList then s.expect .afterCharacterData else .error ⟨.misplaced, start⟩
  | .modelStart, .openParen => s.expect (.modelItem [none, none])
  | .modelStart, .name _ | .modelStart, .qualifiedName _ | .modelStart, .repeatedName =>
    s.expect (.afterModelItem [none])
  | .afterCharacterData, .closeParen none | .afterCharacterData, .closeParen (some '*')
  | .afterMixedName, .closeParen (some '*') => s.expect .declarationEnd
  | .afterCharacterData, .bar | .afterMixedName, .bar => s.expect .mixedName
  | .mixedName, .name _ | .mixedName, .qualifiedName _ => s.expect .afterMixedName
  | .modelItem connectors, .openParen => s.expect (.modelItem (none :: connectors))
  | .modelItem connectors, .name _ | .modelItem connectors, .qualifiedName _
  | .modelItem connectors, .repeatedName => s.expect (.afterModelItem connectors)
  | .afterModelItem (_ :: outer), .closeParen _ =>
    if outer.isEmpty then s.expect .declarationEnd else s.expect (.afterModelItem outer)
  | .afterModelItem connectors, .comma | .afterModelItem connectors, .bar =>
    s.connect token connectors start
  | _, token => .error ⟨token.refusal, start⟩

/-- One token of the prolog. Blanks may stand anywhere. -/
def accept (s : PrologState) (token : PrologToken) (start : Nat) : Except Fault PrologState :=
  match token with
  | .space => .ok s
  | token =>
    match s.expecting with
    | .doctype | .doctypeName | .externalId | .doctypePublicId | .doctypeSystemId | .subsetOrEnd
    | .doctypeEnd | .element => s.doctypePart token start
    | .subset => s.subset token start
    | .entityName | .parameterEntityName | .entityValue _ | .entityPublicId _ | .entitySystemId _
    | .entityEnd _ | .entityNotation _ => s.entityPart token start
    | .notationName | .notationId | .notationPublicId | .notationSystemId | .notationEnd =>
      s.notationPart token start
    | .attributeElement | .attributeName _ | .attributeType .. | .notationTypes .. | .firstChoice ..
    | .nextChoice .. | .attributeDefault .. | .fixedDefault .. => s.attributePart token start
    | .elementName | .elementContent | .modelStart | .afterCharacterData | .mixedName
    | .afterMixedName | .modelItem _ | .afterModelItem _ => s.elementPart token start
    | .declarationEnd =>
      match token with
      | .closing => s.expect .subset
      | token => .error ⟨token.refusal, start⟩

end PrologState

/-- The document type of a prolog, and the text from the first element on. -/
def readProlog (standalone : Bool) (cs : List Char) : Except Fault (Doctype × List Char) := do
  let found := prologTokens cs (cs.length + 1)
  let start : PrologState := ⟨.doctype, .empty standalone, true⟩
  let state ← found.tokens.foldlM (fun s (token, left) => s.accept token left) start
  let rest ← found.rest
  match state.expecting with
  | .doctype | .element => return (state.doctype, rest)
  | _ => throw ⟨.misplaced, rest.length⟩

end Recalc.Xml
