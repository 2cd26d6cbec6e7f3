import Recalc.Xml.Namespace

/-!
# Content

The pieces of the content of a document, and the tree that they build. An entity in the content is
replaced by its text, whose elements must be complete.
-/

namespace Recalc.Xml

/-- The number of characters that are left where an unclosed section is told: an ending that could
be the beginning of its close, or a line end, counts to it. -/
def unclosedLeft (text : List Char) : Nat :=
  match text.reverse with
  | ']' :: ']' :: _ => 2
  | ']' :: _ | '\r' :: _ => 1
  | _ => 0

/-- The text of a section up to its close; `whole` is the text from the opening on. -/
def readRawText (whole : List Char) : List Char → Except Fault (List Char × List Char)
  | [] => .error ⟨.unclosedSection, unclosedLeft whole⟩
  | ']' :: ']' :: '>' :: rest => .ok ([], rest)
  | c :: rest =>
    if c = cutOff then .error ⟨.partialCharacter, rest.length + 1⟩
    else if !isXmlChar c then .error ⟨.invalidToken, rest.length + 1⟩
    else (readRawText whole rest).map fun (text, rest) => (c :: text, rest)

/-- How a sequence of pieces ends: behind the outermost element, with the text, or in a fault. -/
inductive PiecesEnd where
  | closed (rest : List Char)
  | ranOut
  | fault (f : Fault)

/-- The depth of elements after a piece. -/
def Piece.depthAfter (depth : Nat) : Piece → Nat
  | .openTag _ _ false => depth + 1
  | .closeTag _ => depth - 1
  | _ => depth

def Piece.isTag : Piece → Bool
  | .openTag .. | .closeTag _ => true
  | _ => false

/-- The pieces from a place inside `depth` elements on, each with the text from its beginning; no
more than a number of them. With `toClose` they end behind the outermost element. -/
def pieces (toClose : Bool) (depth : Nat) (cs : List Char) :
    Nat → List (Piece × List Char) × PiecesEnd
  | 0 => ([], .ranOut)
  | n + 1 =>
    if cs.isEmpty then ([], .ranOut)
    else
      match readPiece cs with
      | .error stop => ([], .fault (stop.toFault cs.length))
      | .ok (.rawText, rest) =>
        match readRawText rest rest with
        | .error f => ([], .fault f)
        | .ok (text, rest) =>
          let (more, ending) := pieces toClose depth rest n
          ((.text text, cs) :: more, ending)
      | .ok (piece, rest) =>
        let depth := piece.depthAfter depth
        if toClose && piece.isTag && depth = 0 then ([(piece, cs)], .closed rest)
        else
          let (more, ending) := pieces toClose depth rest n
          ((piece, cs) :: more, ending)

/-! ### Building the tree -/

/-- An element that is still open; its content is in reverse order. -/
structure OpenElement where
  rawName : List Char
  tag : ExpandedTag
  content : List Node

/-- The open elements, innermost first, and the last element that was closed outside of all. -/
structure Building where
  stack : List OpenElement
  root : Option Element

namespace Building

def bindings (b : Building) : Bindings :=
  match b.stack with
  | e :: _ => e.tag.bindings
  | [] => .initial

/-- Adds a node to the innermost element. -/
def add (b : Building) (n : Node) : Building :=
  match b.stack with
  | e :: outer => { b with stack := { e with content := n :: e.content } :: outer }
  | [] =>
    match n with
    | .element name attributes content => { b with root := some ⟨name, attributes, content⟩ }
    | .text _ => b

/-- Closes the innermost element. -/
def close (b : Building) : Building :=
  match b.stack with
  | e :: outer =>
    { b with stack := outer }.add (.element e.tag.name e.tag.attributes e.content.reverse)
  | [] => b

/-- Takes one piece into the tree; `base` elements must stay open, and `expand` takes the text of
an entity. -/
def accept (d : Doctype) (base : Nat)
    (expand : List Char → List Char → Building → Except Problem Building) (b : Building)
    (piece : Piece) (here : List Char) : Except Fault Building :=
  match piece with
  | .text cs => .ok (b.add (.text (String.ofList cs)))
  | .aside => .ok b
  | .rawText => .ok b
  | .declaration => .error ⟨.misplacedDeclaration, here.length⟩
  | .openTag name attributes closed => do
    let tag ← expandTag d b.bindings name attributes here
    let b := { b with stack := ⟨name, tag, []⟩ :: b.stack }
    return if closed then b.close else b
  | .closeTag name =>
    if b.stack.length = base then .error ⟨.asynchronousEntity, here.length⟩
    else
      match b.stack with
      | e :: _ => if e.rawName = name then .ok b.close else .error ⟨.mismatchedTag, here.length - 2⟩
      | [] => .error ⟨.asynchronousEntity, here.length⟩
  | .reference (.character (some c)) => .ok (b.add (.text (String.singleton c)))
  | .reference (.character none) => .error ⟨.badCharacterNumber, here.length⟩
  | .reference (.entity name) =>
    match predefined? name with
    | some c => .ok (b.add (.text (String.singleton c)))
    | none =>
      let unresolved : Problem := .unresolvedEntity (String.ofList name)
      match d.entities.lookup name with
      | none => .error ⟨if d.isClosed then .undefinedEntity else unresolved, here.length⟩
      | some .binary => .error ⟨.binaryEntity, here.length⟩
      | some .external => .error ⟨unresolved, here.length⟩
      | some (.internal text) => (expand name text b).mapError fun p => ⟨p, here.length⟩

/-- Takes the text of an entity into the tree; `active` are the entities around it, and there are
fewer others than a number. -/
def acceptEntity (d : Doctype) :
    Nat → List (List Char) → List Char → List Char → Building → Except Problem Building
  | 0, _, _, _, _ => .error .recursiveEntity
  | n + 1, active, name, text, b =>
    if name ∈ active then .error .recursiveEntity
    else
      let base := b.stack.length
      let (found, ending) := pieces false 0 text (text.length + 1)
      let built := found.foldlM
        (fun b (piece, here) => accept d base (acceptEntity d n (name :: active)) b piece here) b
      match built, ending with
      | .error f, _ => .error f.problem
      | .ok _, .fault f => .error f.problem
      | .ok b, _ => if b.stack.length = base then .ok b else .error .asynchronousEntity

/-- Takes the pieces of a document into the tree. -/
def takeAll (d : Doctype) (b : Building) (found : List (Piece × List Char)) :
    Except Fault Building :=
  found.foldlM (fun b (piece, here) =>
    b.accept d 0 (acceptEntity d (d.entities.length + 1) []) piece.unifyLineEnds here) b

end Building

/-- The outermost element of a text that begins with it, and the text after it. -/
def readElement (d : Doctype) (cs : List Char) : Except Fault (Element × List Char) := do
  let (found, ending) := pieces true 0 cs (cs.length + 1)
  let built ← Building.takeAll d ⟨[], none⟩ found
  match ending, built.root with
  | .closed rest, some root => return (root, rest)
  | .fault f, _ => throw f
  | _, _ => throw ⟨.noElement, if cs.getLast? = some '\r' then 1 else 0⟩

end Recalc.Xml
