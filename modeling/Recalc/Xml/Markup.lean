import Recalc.Json.Reader
import Recalc.Text.Lines
import Recalc.Xml.Characters
import Recalc.Xml.Fault

/-!
# Markup

The tokens of the content of a document: tags, references, comments, instructions, sections and the
text between them. Each reader takes the characters from its place on and gives what it has read
together with the characters that follow.
-/

namespace Recalc.Xml

/-- The character at this place is refused. -/
def refuse {α : Type} (cs : List Char) : Except Stop α :=
  match cs with
  | [] => .error .unfinished
  | _ => .error (.invalid cs.length)

/-- The character at this place is refused where a name may stand. -/
def refuseInName {α : Type} (cs : List Char) : Except Stop α :=
  match cs with
  | c :: _ => if c = cutOff then .error .cut else refuse cs
  | [] => refuse cs

/-! ### Names and references -/

/-- A name without a colon. -/
def readName (cs : List Char) : Except Stop (List Char × List Char) :=
  match cs with
  | c :: rest =>
    if isNameStart c then .ok (c :: rest.takeWhile isNamePart, rest.dropWhile isNamePart)
    else refuseInName cs
  | [] => refuse cs

/-- A name that may have a prefix. -/
def readQualifiedName (cs : List Char) : Except Stop (List Char × List Char) := do
  let (name, rest) ← readName cs
  match rest with
  | ':' :: rest =>
    let (localName, rest) ← readName rest
    return (name ++ ':' :: localName, rest)
  | _ => return (name, rest)

/-- What stands after an ampersand. A number that is no character gives nothing. -/
inductive Reference where
  | entity (name : List Char)
  | character (c : Option Char)

/-- The character with a number. -/
def characterOf? (n : Nat) : Option Char :=
  if h : n.isValidChar then
    let c := Char.ofNatAux n h
    if isXmlChar c then some c else none
  else none

/-- A number with a semicolon after it. -/
def readCharacterNumber (isDigit : Char → Bool) (value : List Char → Nat) (cs : List Char) :
    Except Stop (Reference × List Char) :=
  match cs.span isDigit with
  | ([], rest) => refuse rest
  | (ds, ';' :: rest) => .ok (.character (characterOf? (value ds)), rest)
  | (_, rest) => refuse rest

/-- A reference whose ampersand has been read. -/
def readReference (cs : List Char) : Except Stop (Reference × List Char) :=
  match cs with
  | '#' :: 'x' :: rest =>
    readCharacterNumber (fun c => (Json.hexValue? c).isSome)
      (fun ds => (Json.hexValues? ds).getD 0) rest
  | '#' :: rest => readCharacterNumber Json.isAsciiDigit Text.digitsValue rest
  | _ => do
    let (name, rest) ← readName cs
    match rest with
    | ';' :: rest => return (.entity name, rest)
    | _ => refuseInName rest

/-- The character that an entity stands for in every document. -/
def predefined? (name : List Char) : Option Char :=
  let known := [("lt", '<'), ("gt", '>'), ("amp", '&'), ("quot", '"'), ("apos", '\'')]
  known.lookup (String.ofList name)

/-! ### Attributes -/

/-- A part of an attribute value, with the number of characters left where it begins. -/
inductive ValuePart where
  | char (c : Char)
  | reference (r : Reference) (left : Nat)

/-- The parts of a value up to its quote. -/
def readValue (quote : Char) (cs : List Char) : Nat → Except Stop (List ValuePart × List Char)
  | 0 => refuse cs
  | n + 1 =>
    match cs with
    | [] => .error .unfinished
    | c :: rest =>
      if quote = c then .ok ([], rest)
      else if c = '&' then do
        let (r, after) ← readReference rest
        let (parts, after) ← readValue quote after n
        return (.reference r cs.length :: parts, after)
      else if c = '<' || !isXmlChar c then refuseInName cs
      else do
        let (parts, after) ← readValue quote rest n
        return (.char c :: parts, after)

/-- The parts of a text up to the place where it is broken off, and where this is. They count even
if more of the text cannot be read. -/
def valueParts (cs : List Char) : Nat → List ValuePart × Option Stop
  | 0 => ([], none)
  | n + 1 =>
    match cs with
    | [] => ([], none)
    | c :: rest =>
      if c = '&' then
        match readReference rest with
        | .ok (r, after) =>
          let (parts, stop?) := valueParts after n
          (.reference r cs.length :: parts, stop?)
        | .error stop => ([], some stop)
      else if c = '<' || !isXmlChar c then ([], some (.invalid cs.length))
      else
        let (parts, stop?) := valueParts rest n
        (.char c :: parts, stop?)

/-- The parts in a document: every line end is one line feed. In the text of an entity the line
ends have become so where it was declared, and a carriage return that is left is a character. -/
def unifyLineEndParts : List ValuePart → List ValuePart
  | .char '\r' :: .char '\n' :: rest => .char '\n' :: unifyLineEndParts rest
  | .char '\r' :: rest => .char '\n' :: unifyLineEndParts rest
  | part :: rest => part :: unifyLineEndParts rest
  | [] => []

/-- An attribute as it is written. -/
structure RawAttribute where
  name : List Char
  value : List ValuePart
  /-- The number of characters left where the name begins. -/
  left : Nat

def RawAttribute.unifyLineEnds (a : RawAttribute) : RawAttribute :=
  { a with value := unifyLineEndParts a.value }

/-- How a tag ends. -/
inductive TagEnd where
  | opened
  | emptyElement

/-- Whether the element ends with its start tag. -/
def TagEnd.closes : TagEnd → Bool
  | .opened => false
  | .emptyElement => true

/-- The end of a start tag. -/
def readTagEnd (cs : List Char) : Option (Except Stop (TagEnd × List Char)) :=
  match cs with
  | '>' :: rest => some (.ok (.opened, rest))
  | '/' :: '>' :: rest => some (.ok (.emptyElement, rest))
  | '/' :: rest => some (refuse rest)
  | _ => none

/-- One attribute, from its name to its closing quote. -/
def readAttribute (cs : List Char) : Except Stop (RawAttribute × List Char) := do
  let (name, rest) ← readQualifiedName cs
  match rest with
  | c :: _ =>
    if c = '=' || isSpace c then
      match rest.dropWhile isSpace with
      | '=' :: rest =>
        match rest.dropWhile isSpace with
        | c :: rest =>
          if c = '"' || c = '\'' then
            let (value, rest) ← readValue c rest (rest.length + 1)
            return (⟨name, value, cs.length⟩, rest)
          else refuse (c :: rest)
        | [] => refuse []
      | rest => refuse rest
    else refuseInName rest
  | [] => refuse []

/-- The attributes of a start tag and how it ends. Before each attribute there is a space. -/
def readAttributes (cs : List Char) : Nat → Except Stop ((List RawAttribute × TagEnd) × List Char)
  | 0 => refuse cs
  | n + 1 =>
    match readTagEnd cs with
    | some found => found.map fun (tagEnd, rest) => (([], tagEnd), rest)
    | none =>
      match cs with
      | c :: _ =>
        if isSpace c then
          let rest := cs.dropWhile isSpace
          match readTagEnd rest with
          | some found => found.map fun (tagEnd, rest) => (([], tagEnd), rest)
          | none => do
            let (a, rest) ← readAttribute rest
            let ((more, tagEnd), rest) ← readAttributes rest n
            return ((a :: more, tagEnd), rest)
        else refuse cs
      | [] => refuse []

/-! ### Comments and instructions -/

/-- A comment after its first hyphen: two hyphens end it. -/
def readComment (cs : List Char) : Except Stop (Unit × List Char) :=
  let rec body : List Char → Except Stop (Unit × List Char)
    | '-' :: '-' :: '>' :: rest => .ok ((), rest)
    | '-' :: '-' :: rest => refuse rest
    | c :: rest => if isXmlChar c then body rest else refuseInName (c :: rest)
    | [] => .error .unfinished
  match cs with
  | '-' :: rest => body rest
  | rest => refuse rest

/-- The text of an instruction up to its end. -/
def readInstructionBody : List Char → Except Stop (List Char × List Char)
  | '?' :: '>' :: rest => .ok ([], rest)
  | c :: rest =>
    if isXmlChar c then
      (readInstructionBody rest).map fun (text, rest) => (c :: text, rest)
    else refuseInName (c :: rest)
  | [] => .error .unfinished

/-- An instruction after its question mark: its target and its text. The target `xml` may be
written in small letters only. -/
def readInstruction (cs : List Char) : Except Stop ((List Char × List Char) × List Char) := do
  let (target, rest) ← readName cs
  let reserved := target.map Char.toLower = "xml".toList ∧ target ≠ "xml".toList
  match rest with
  | '?' :: after =>
    if reserved then refuse rest
    else
      match after with
      | '>' :: rest => return ((target, []), rest)
      | _ => refuse after
  | c :: _ =>
    if isSpace c then
      if reserved then refuse rest
      else
        let (text, rest) ← readInstructionBody rest
        return ((target, text), rest)
    else refuseInName rest
  | [] => refuse []

/-! ### Pieces of content -/

inductive Piece where
  | text (cs : List Char)
  | reference (r : Reference)
  | openTag (name : List Char) (attributes : List RawAttribute) (closed : Bool)
  | closeTag (name : List Char)
  /-- The opening of a section whose text is taken as it is. -/
  | rawText
  /-- A comment or an instruction. -/
  | aside
  /-- A declaration that is not at the start of the document. -/
  | declaration

/-- The piece in a document, where every line end is one line feed. -/
def Piece.unifyLineEnds : Piece → Piece
  | .text cs => .text (Text.unifyLineEnds cs)
  | .openTag name attributes closed =>
    .openTag name (attributes.map RawAttribute.unifyLineEnds) closed
  | piece => piece

/-- The characters up to the next markup. -/
def readText : List Char → Except Stop (List Char × List Char)
  | [] => .ok ([], [])
  | ']' :: ']' :: '>' :: rest => .error (.invalid (rest.length + 1))
  | c :: rest =>
    if c = '<' || c = '&' || !isXmlChar c then .ok ([], c :: rest)
    else (readText rest).map fun (text, rest) => (c :: text, rest)

/-- An end tag after its slash. -/
def readCloseTag (cs : List Char) : Except Stop (Piece × List Char) := do
  let (name, rest) ← readName cs
  let more := rest.takeWhile fun c => isNamePart c || c = ':'
  match rest.drop more.length with
  | '>' :: rest => return (.closeTag (name ++ more), rest)
  | c :: rest =>
    if isSpace c then
      match rest.dropWhile isSpace with
      | '>' :: rest => return (.closeTag (name ++ more), rest)
      | rest => refuse rest
    else refuseInName (c :: rest)
  | [] => refuse []

/-- A start tag after its angle bracket. -/
def readOpenTag (cs : List Char) : Except Stop (Piece × List Char) := do
  let (name, rest) ← readQualifiedName cs
  match readTagEnd rest with
  | some found =>
    let (tagEnd, rest) ← found
    return (.openTag name [] tagEnd.closes, rest)
  | none =>
    match rest with
    | c :: _ => if !isSpace c then refuseInName rest
    | [] => refuse []
    let ((attributes, tagEnd), rest) ← readAttributes rest (rest.length + 1)
    return (.openTag name attributes tagEnd.closes, rest)

/-- Markup after an angle bracket and an exclamation mark. -/
def readExclamation (cs : List Char) : Except Stop (Piece × List Char) :=
  match cs with
  | '-' :: rest => (readComment rest).map fun (_, rest) => (.aside, rest)
  | '[' :: rest =>
    let opening := "CDATA[".toList
    if opening.isPrefixOf rest then .ok (.rawText, rest.drop opening.length)
    else if (String.ofList (rest.take opening.length)).utf8ByteSize < opening.length then
      .error .unfinished
    else
      let agreeing := (rest.zip opening).takeWhile fun (c, d) => c = d
      refuse (rest.drop agreeing.length)
  | rest => refuse rest

/-- The piece at the start of some content that is not empty. -/
def readPiece (cs : List Char) : Except Stop (Piece × List Char) :=
  match cs with
  | '<' :: '!' :: rest => readExclamation rest
  | '<' :: '?' :: rest =>
    (readInstruction rest).map fun ((target, _), rest) =>
      (if target = "xml".toList then .declaration else .aside, rest)
  | '<' :: '/' :: rest => readCloseTag rest
  | '<' :: rest => readOpenTag rest
  | '&' :: rest => (readReference rest).map fun (r, rest) => (.reference r, rest)
  | _ => do
    let (text, rest) ← readText cs
    if text.isEmpty then refuseInName rest
    return (.text text, rest)

end Recalc.Xml
