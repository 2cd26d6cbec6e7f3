import Recalc.Xml.Amplification

/-!
# Reading documents

A document has a declaration, which may be missing, a prolog, one outermost element, and nothing but
comments, instructions and blanks after it.
-/

namespace Recalc.Xml

open Recalc.Text

/-- Why octets are no document. -/
inductive ReadError where
  | malformed (problem : Problem) (line column : Nat)
  /-- The declaration names an encoding in which nothing can be read. -/
  | encoding (name : String) (fault : EncodingFault)
  deriving DecidableEq, Repr

def ReadError.message : ReadError → String
  | .malformed problem line column =>
    problem.text ++ ": line " ++ toString line ++ ", column " ++ toString column
  | .encoding name fault => fault.text name

/-! ### The declaration -/

/-- A setting of a declaration. -/
structure Setting where
  name : List Char
  /-- The text from the name, and from the value, on. -/
  nameHere : List Char
  value : List Char
  valueHere : List Char

def isSettingChar (c : Char) : Bool :=
  c.isAlphanum || c = '.' || c = '-' || c = '_'

/-- The next setting, if there is one, and the text after it; or the place of a fault. -/
def readSetting (cs : List Char) : Except (List Char) (Option Setting × List Char) :=
  match cs with
  | [] => .ok (none, [])
  | c :: _ =>
    if !isSpace c then .error cs
    else
      let nameHere := cs.dropWhile isSpace
      let name := nameHere.takeWhile fun c => !isSpace c && c ≠ '=' && c.toNat < 0x80
      match (nameHere.drop name.length).dropWhile isSpace with
      | '=' :: rest =>
        if name.isEmpty then .error nameHere
        else
          match rest.dropWhile isSpace with
          | quote :: valueHere =>
            if quote ≠ '"' ∧ quote ≠ '\'' then .error (quote :: valueHere)
            else
              let value := valueHere.takeWhile isSettingChar
              match valueHere.drop value.length with
              | c :: rest =>
                if c = quote then .ok (some ⟨name, nameHere, value, valueHere⟩, rest)
                else .error (c :: rest)
              | [] => .error []
          | [] => .error []
      | rest => if nameHere.isEmpty then .ok (none, []) else .error rest

/-- What a declaration says: the name of an encoding, with the text from it on, and whether the
document stands alone. -/
structure Declaration where
  encoding : Option (List Char × List Char)
  standalone : Bool

/-- Reads the last setting of a declaration. -/
def readStandalone (encoding : Option (List Char × List Char)) (setting : Setting)
    (rest : List Char) : Except (List Char) Declaration :=
  if setting.name ≠ "standalone".toList then .error setting.nameHere
  else if setting.value ≠ "yes".toList ∧ setting.value ≠ "no".toList then .error setting.valueHere
  else
    match rest.dropWhile isSpace with
    | [] => .ok ⟨encoding, setting.value = "yes".toList⟩
    | rest => .error rest

/-- Reads a declaration between its target and its question mark; a fault is told by the text from
it on. -/
def readDeclaration (cs : List Char) : Except (List Char) Declaration := do
  match ← readSetting cs with
  | (none, _) => throw cs
  | (some setting, rest) =>
    if setting.name ≠ "version".toList then throw setting.nameHere
    match ← readSetting rest with
    | (none, _) => return ⟨none, false⟩
    | (some setting, rest) =>
      if setting.name ≠ "encoding".toList then readStandalone none setting rest
      else
        if !(setting.value.head?.any Char.isAlpha) then throw setting.valueHere
        let encoding := some (setting.value, setting.valueHere)
        match ← readSetting rest with
        | (none, _) => return ⟨encoding, false⟩
        | (some setting, rest) => readStandalone encoding setting rest

/-! ### The end -/

/-- Whether nothing but comments, instructions and blanks is left. -/
def checkEnd (cs : List Char) : Nat → Except Fault Unit
  | 0 => .ok ()
  | n + 1 =>
    if cs.isEmpty then .ok ()
    else if startsElement cs then .error ⟨.junkAfterDocument, cs.length⟩
    else
      match readPrologToken cs with
      | .ok (.space, rest) | .ok (.aside, rest) => checkEnd rest n
      | .ok _ => .error ⟨.junkAfterDocument, cs.length⟩
      | .error stop => .error (stop.toFault cs.length)

/-- The outermost element of a document without its declaration. -/
def readBody (standalone : Bool) (cs : List Char) : Except Fault Element := do
  let (doctype, rest) ← readProlog standalone cs
  let (root, rest) ← readElement doctype rest
  checkEnd rest (rest.length + 1)
  return root

/-! ### Documents -/

/-- The start of a document: its text, the part of it behind the declaration, which may change the
encoding, and the encoding of this part. -/
structure Opening where
  text : List Char
  body : List Char
  standalone : Bool
  encoding : Encoding

/-- Tells the place of a fault in a text. -/
def placed {α : Type} (text : List Char) (r : Except Fault α) : Except ReadError α :=
  r.mapError fun f =>
    let (line, column) := positionAfter 1 0 (text.take (text.length - f.left))
    .malformed f.problem line column

/-- The number of characters that close a declaration. -/
def closeLength : Nat := 2

/-- Goes on after a declaration with its encoding. Places in what stands before are told in this
encoding, too, so that a mark of the byte order may count as three characters. -/
def chooseEncoding (first : Encoding) (octets : List UInt8) (text body : List Char)
    (d : Declaration) : Except ReadError Opening :=
  match d.encoding with
  | none => .ok ⟨text, body, d.standalone, first⟩
  | some (name, here) =>
    let left := here.length + closeLength + body.length
    match first.named name with
    | .unusable fault => .error (.encoding (String.ofList name) fault)
    | .differing => placed text (.error ⟨.unknownEncoding, left⟩)
    | .known e =>
      if !first.agreesWith e then placed text (.error ⟨.wrongEncoding, left⟩)
      else
        match e with
        | .utf16 _ => .ok ⟨text, body, d.standalone, e⟩
        | e =>
          let before := text.take (text.length - body.length)
          let octetsBefore := (toUtf8 (String.ofList before)).length
          let body := e.decode (octets.drop octetsBefore)
          .ok ⟨e.decode (octets.take octetsBefore) ++ body, body, d.standalone, e⟩

/-- Reads the mark of the byte order and the declaration at the start of a document. -/
def readOpening (octets : List UInt8) : Except ReadError Opening :=
  let first := Encoding.detect octets
  let text := first.decode octets
  let start := match text with | '\uFEFF' :: rest => rest | _ => text
  match start with
  | '<' :: '?' :: 'x' :: 'm' :: 'l' :: rest =>
    match readInstruction ("xml".toList ++ rest) with
    | .ok ((target, settings), body) =>
      if target ≠ "xml".toList then .ok ⟨text, start, false, first⟩
      else
        match readDeclaration settings with
        | .ok d => chooseEncoding first octets text body d
        | .error here =>
          placed text (.error ⟨.malformedDeclaration, here.length + closeLength + body.length⟩)
    | .error _ => .ok ⟨text, start, false, first⟩
  | _ => .ok ⟨text, start, false, first⟩

/-- The text behind the declaration, as the guard counts it. -/
def Opening.source (o : Opening) : Source :=
  let before := o.text.take (o.text.length - o.body.length)
  ⟨o.encoding, o.body, o.encoding.textWidth before⟩

/-- The outermost element of the document that octets write. -/
def parse (octets : List UInt8) : Except ReadError Element := do
  let opening ← readOpening octets
  placed opening.text (readBody opening.standalone opening.body)

/-- The outermost element of the document that octets write, as far as its entities do not stand for
too much. -/
def read (octets : List UInt8) : Except ReadError Element := do
  let opening ← readOpening octets
  placed opening.text
    (opening.source.guarded opening.standalone (readBody opening.standalone opening.body))

end Recalc.Xml
