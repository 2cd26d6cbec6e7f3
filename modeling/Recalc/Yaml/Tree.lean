import Recalc.Yaml.Layout
import Recalc.Yaml.PlainTag

/-!
# The tree of a YAML document

The node that tokens build. Anchors name nodes, and an alias stands for the node that its name was
given to before. A text has at most one document.
-/

namespace Recalc.Yaml

/-- What is left of a text, and what was named in it. -/
structure Source where
  tokens : List Token
  /-- The fault behind the last token, if the text has one. -/
  fault : Option Fault
  /-- The nodes with names; one that is still open has no node yet. -/
  anchors : List (String × Option Node)
  /-- The handles of tags with what they stand for. -/
  handles : List (String × String)

abbrev Build := StateT Source (Except Fault)

namespace Build

def refuse {α : Type} (p : Problem) : Build α :=
  throw (.malformed p)

/-- The next token, or nothing at the end of the text. -/
def next : Build (Option Token) := do
  let s ← get
  match s.tokens, s.fault with
  | t :: _, _ => return some t
  | [], some f => throw f
  | [], none => return none

/-- Passes the next token. -/
def pass : Build Unit :=
  modify fun s => { s with tokens := s.tokens.drop 1 }

/-- Passes the next token if it is a given one. -/
def take (t : Token) : Build Bool := do
  if (← next) = some t then
    pass
    return true
  else return false

/-- Whether the next token is one of some, or the text ends where that is allowed. -/
def isNext (ts : List (Option Token)) : Build Bool :=
  return (← next) ∈ ts

/-! ### Properties of nodes -/

/-- The names that may stand before a node. -/
structure Properties where
  anchor : Option String
  tag : Option TagText

def anchor? : Build (Option String) := do
  match ← next with
  | some (.anchor name) =>
    pass
    return some name
  | _ => return none

def tag? : Build (Option TagText) := do
  match ← next with
  | some (.tag t) =>
    pass
    return some t
  | _ => return none

/-- An anchor and a tag in either order, each of which may be missing. -/
def properties : Build Properties := do
  match ← anchor? with
  | some name => return ⟨some name, ← tag?⟩
  | none =>
    match ← tag? with
    | some t => return ⟨← anchor?, some t⟩
    | none => return ⟨none, none⟩

/-- The full name of a tag. A lone exclamation mark is none. -/
def fullName (t : TagText) : Build (Option String) := do
  let name ←
    match t.handle with
    | none => pure t.name
    | some handle =>
      match (← get).handles.lookup handle with
      | some leading => pure (leading ++ t.name)
      | none => refuse .undefinedHandle
  return if name = "!" then none else some name

/-- Names a node that begins. -/
def openAnchor (anchor : Option String) : Build Unit := do
  match anchor with
  | none => return
  | some name =>
    if ((← get).anchors.lookup name).isSome then refuse .duplicateAnchor
    modify fun s => { s with anchors := (name, none) :: s.anchors }

/-- Gives a name its node. -/
def closeAnchor (anchor : Option String) (n : Node) : Build Node := do
  match anchor with
  | none => return n
  | some name =>
    modify fun s => { s with anchors := (name, some n) :: s.anchors }
    return n

/-- The node that an alias stands for. -/
def resolve (name : String) : Build Node := do
  match (← get).anchors.lookup name with
  | some (some n) => return n
  | some none => refuse .recursiveAlias
  | none => refuse .undefinedAlias

/-! ### Collections

Each collection is read by means of what reads a node inside it. -/

/-- Where a node stands: inside a flow collection, inside a block collection, or in a block mapping,
whose sequences need no indentation. -/
inductive Surroundings where
  | flow
  | block
  | blockMapping
  deriving DecidableEq, Repr

/-- Reads a node. -/
abbrev Inside := Surroundings → Build Node

/-- Reads parts up to the first that is missing, fewer than a number; those read so far are in
reverse order. -/
def many {α : Type} (part : Build (Option α)) (read : List α) : Nat → Build (List α)
  | 0 => throw .tooDeep
  | bound + 1 => do
    match ← part with
    | some a => many part (a :: read) bound
    | none => return read.reverse

/-- Reads all parts up to the first that is missing. Each begins with a token. -/
def all {α : Type} (part : Build (Option α)) : Build (List α) := do
  many part [] ((← get).tokens.length + 1)

/-- The node here, or an empty one before one of some tokens. -/
def nodeUnless (inside : Inside) (ends : List Token) (here : Surroundings) : Build Node := do
  if ← isNext (ends.map some) then return .empty else inside here

/-- The next item of a block sequence. -/
def blockItem (inside : Inside) : Build (Option Node) := do
  if ← take .blockEntry then some <$> nodeUnless inside [.blockEntry, .blockEnd] .block
  else if ← take .blockEnd then return none
  else refuse .unclosedBlock

/-- The next item of a sequence that is not indented. -/
def looseItem (inside : Inside) : Build (Option Node) := do
  if ← take .blockEntry then
    some <$> nodeUnless inside [.blockEntry, .key, .value, .blockEnd] .block
  else return none

/-- The next entry of a block mapping, whose value may be missing. -/
def blockPair (inside : Inside) : Build (Option (Node × Node)) := do
  let part := nodeUnless inside [.key, .value, .blockEnd] .blockMapping
  if ← take .key then
    let k ← part
    let v ← if ← take .value then part else pure .empty
    return some (k, v)
  else if ← take .blockEnd then return none
  else refuse .unclosedBlock

/-- The entry of a flow collection whose key is marked. -/
def flowPair (inside : Inside) (close : Token) : Build (Node × Node) := do
  let k ← nodeUnless inside [.value, .flowEntry, close] .flow
  let v ← if ← take .value then nodeUnless inside [.flowEntry, close] .flow else pure .empty
  return (k, v)

/-- An item of a flow sequence. One with a key is a mapping of one entry. -/
def flowItem (inside : Inside) : Build Node := do
  if ← take .key then return .mapping .mapping [← flowPair inside .flowSequenceEnd]
  else inside .flow

/-- An entry of a flow mapping. A node without a value is a key, too. -/
def flowMember (inside : Inside) : Build (Node × Node) := do
  if ← take .key then flowPair inside .flowMappingEnd else return (← inside .flow, .empty)

/-- The parts of a flow collection, with commas between them and perhaps after the last. -/
def flowParts {α : Type} (close : Token) (part : Build α) : Build (List α) := do
  if ← take close then return []
  let a ← part
  let bs ← all do
    if ← take close then return none
    if !(← take .flowEntry) then refuse .unclosedFlow
    if ← take close then return none
    some <$> part
  return a :: bs

/-! ### Nodes -/

/-- The node here, with fewer nodes inside each other than a number. -/
def node : Nat → Inside
  | 0, _ => throw .tooDeep
  | depth + 1, here => do
    if let some (.alias name) := ← next then
      pass
      return ← resolve name
    let ⟨anchor, tagText⟩ ← properties
    let name ←
      match tagText with
      | some t => fullName t
      | none => pure none
    let tagOr (tag : Tag) : Tag := (name.map Tag.ofName).getD tag
    let t ← next
    let collection (content : Build Node) : Build Node := do
      openAnchor anchor
      closeAnchor anchor (← content)
    match t with
    | some (.scalar text plain) =>
      openAnchor anchor
      pass
      let byText := plain || tagText.isSome
      closeAnchor anchor (.scalar (tagOr (if byText then .ofText text.lossy else .text)) text)
    | some .flowSequence => collection do
      pass
      return .sequence (tagOr .sequence) (← flowParts .flowSequenceEnd (flowItem (node depth)))
    | some .flowMapping => collection do
      pass
      return .mapping (tagOr .mapping) (← flowParts .flowMappingEnd (flowMember (node depth)))
    | _ =>
      if here = .blockMapping ∧ t = some .blockEntry then
        collection do return .sequence (tagOr .sequence) (← all (looseItem (node depth)))
      else if here ≠ .flow ∧ t = some .blockSequence then
        collection do
          pass
          return .sequence (tagOr .sequence) (← all (blockItem (node depth)))
      else if here ≠ .flow ∧ t = some .blockMapping then
        collection do
          pass
          return .mapping (tagOr .mapping) (← all (blockPair (node depth)))
      else if anchor.isSome || tagText.isSome then
        collection do return .scalar (tagOr .null) ""
      else refuse .noContent

/-! ### Documents -/

/-- The handles that every document has. -/
def commonHandles : List (String × String) :=
  [("!", "!"), ("!!", Tag.commonStart)]

/-- The directives before a document, fewer than a number. A version may be told once, and a handle
may be told once. -/
def directives (versionTold : Bool) (told : List (String × String)) : Nat → Build Unit
  | 0 => return
  | n + 1 => do
    match ← next with
    | some (.directive d) =>
      pass
      match d with
      | .version major =>
        if versionTold || major ≠ 1 then refuse .badDirective
        directives true told n
      | .handle name leading =>
        if (told.lookup name).isSome then refuse .badDirective
        directives versionTold ((name, leading) :: told) n
      | .reserved => directives versionTold told n
    | _ => modify fun s => { s with handles := told ++ commonHandles }

/-- Passes the marks of the end of a document, fewer than a number. -/
def documentEnds : Nat → Build Unit
  | 0 => return
  | n + 1 => do
    if ← take .documentEnd then documentEnds n

/-- The greatest number of nodes inside each other. -/
def depthLimit : Nat := 480

/-- The document of a text, if there is one. A document needs no mark of its start if it has content
and no directives. -/
def document (size : Nat) : Build (Option Node) := do
  let marked : Build Node := do
    directives false [] size
    if !(← take .documentStart) then refuse .noDocumentStart
    if let some (.directive _) := ← next then return .empty
    if ← isNext [some .documentStart, some .documentEnd, none] then return .empty
    node depthLimit .block
  let n? ←
    match ← next with
    | none => pure none
    | some (.directive _) | some .documentStart => some <$> marked
    | some _ => some <$> node depthLimit .block
  documentEnds size
  match ← next with
  | none => return n?
  | some (.directive _) | some .documentStart => refuse .severalDocuments
  | some _ => refuse .noDocumentStart

end Build

/-- The tree of a text, if it has a document. -/
def tree (s : String) : Except Fault (Option Node) :=
  let (ts, fault) := tokens s
  let source : Source := ⟨ts, fault, [], Build.commonHandles⟩
  ((Build.document (ts.length + 1)).run source).map Prod.fst

end Recalc.Yaml
