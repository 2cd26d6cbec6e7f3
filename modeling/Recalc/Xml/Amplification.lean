import Recalc.Number.Binary64
import Recalc.Xml.Content
import Recalc.Xml.Doctype
import Recalc.Xml.Encoding

/-!
# Amplification

Entities may make much of a short document, so the parser counts the octets that it reads, those of
the document and those of the texts that entities stand for. It stops at the first token at which
both together are many, and many times those of the document.
-/

namespace Recalc.Xml

/-! ### Counting -/

/-- The octets that have been read of the document, and of the texts of entities. -/
structure Intake where
  direct : Nat
  indirect : Nat

inductive Charge where
  | direct (octets : Nat)
  | indirect (octets : Nat)
  /-- The character of a predefined entity, which is counted without a look at the limit. -/
  | predefined

/-- The number of octets up to which the guard looks on. -/
def activationThreshold : Nat := 8388608

/-- The number nearest to `n` that has 24 binary digits and zeros. -/
def toSingle (n : Nat) : Nat :=
  let step := Number.twoTo (n.log2 - 23)
  Number.nearestNat n step * step

namespace Intake

def total (i : Intake) : Nat :=
  i.direct + i.indirect

/-- Whether all is less than the threshold, or no more than a hundred times what the document has.
The factor is a number of single precision; a half step above a hundred is rounded to it. -/
def isTolerated (i : Intake) : Bool :=
  i.total < activationThreshold ||
    toSingle i.total * Number.twoTo 18 ≤ (100 * Number.twoTo 18 + 1) * toSingle i.direct

def add (i : Intake) : Charge → Intake
  | .direct octets => { i with direct := i.direct + octets }
  | .indirect octets => { i with indirect := i.indirect + octets }
  | .predefined => { i with indirect := i.indirect + 1 }

def admits (i : Intake) : Charge → Bool
  | .predefined => true
  | c => (i.add c).isTolerated

/-- The place of the first charge that is not admitted. -/
def breach? (i : Intake) : List (Nat × Charge) → Option Nat
  | [] => none
  | (left, c) :: rest => if i.admits c then (i.add c).breach? rest else some left

end Intake

/-- The octets of the text of an entity. -/
def octetCount (cs : List Char) : Nat :=
  Encoding.utf8.textWidth cs

/-! ### Values of attributes -/

/-- The tokens of a value with the references among them: words, blanks and line ends. In the value
of a document, a carriage return before the closing quote is not counted. -/
def valueTokens (ofDocument : Bool) (cs : List Char) : Nat → List (List Char × Option Reference)
  | 0 => []
  | n + 1 =>
    match cs with
    | [] => []
    | '&' :: rest =>
      match readReference rest with
      | .ok (r, after) =>
        (cs.take (cs.length - after.length), some r) :: valueTokens ofDocument after n
      | .error _ => []
    | '\r' :: '\n' :: rest => (['\r', '\n'], none) :: valueTokens ofDocument rest n
    | ['\r'] => [(if ofDocument then [] else ['\r'], none)]
    | c :: rest =>
      if isSpace c then ([c], none) :: valueTokens ofDocument rest n
      else
        let word := cs.takeWhile fun c => !isSpace c && c ≠ '&'
        (word, none) :: valueTokens ofDocument (cs.drop word.length) n

/-- The values in the source of a tag, where quotes stand around nothing else. -/
def quotedValues : List Char → Nat → List (List Char)
  | _, 0 => []
  | [], _ => []
  | c :: rest, n + 1 =>
    if c = '"' || c = '\'' then
      let value := rest.takeWhile (· ≠ c)
      value :: quotedValues (rest.drop (value.length + 1)) n
    else quotedValues rest n

/-- The value is taken over as it stands: there are no references in it, and no blanks but single
spaces between words. -/
def isNormalValue (cs : List Char) : Bool :=
  cs.all (fun c => c ≠ '&' && (c = ' ' || !isSpace c)) &&
    ((' ' :: cs).zip (cs ++ [' '])).all (· ≠ (' ', ' '))

namespace Doctype

variable (d : Doctype)

/-- What a reference is charged; `expand` charges the text of an entity. -/
def referenceCharges (expand : List Char → List Charge) : Reference → List Charge
  | .character _ => []
  | .entity name =>
    if (predefined? name).isSome then [.predefined]
    else
      match d.entities.lookup name with
      | some (.internal text) => expand text
      | _ => []

/-- How the tokens of a text are charged. -/
structure Counting where
  ofDocument : Bool
  charge : List Char → Charge

/-- In the text of an entity. -/
def Counting.inEntity : Counting :=
  ⟨false, fun cs => .indirect (octetCount cs)⟩

/-- What a value is charged: its tokens, if they count, and what it refers to. -/
def valueCharges (counting : Counting) (counts : Bool) (expand : List Char → List Charge)
    (cs : List Char) : List Charge :=
  (valueTokens counting.ofDocument cs (cs.length + 1)).flatMap fun (token, r?) =>
    (if counts then [counting.charge token] else []) ++ r?.elim [] (d.referenceCharges expand)

/-- The text of an entity in a value. -/
def attributeEntityCharges : Nat → List Char → List Charge
  | 0, _ => []
  | n + 1, text => d.valueCharges .inEntity true (attributeEntityCharges n) text

/-- The number of entities that may stand in each other. -/
def nesting : Nat :=
  d.entities.length + 1

/-- What the values of a tag are charged beside the tag itself. The tokens of a value are charged
once more, unless it is taken over as it stands or the tag is one of an empty element. -/
def tagCharges (counting : Counting) (closed : Bool) (source : List Char) : List Charge :=
  (quotedValues source source.length).flatMap fun value =>
    d.valueCharges counting (!closed && !isNormalValue value) (d.attributeEntityCharges d.nesting)
      value

/-- The text behind the piece at the beginning. -/
def afterPiece (cs : List Char) : List Char :=
  match readPiece cs with
  | .ok (.rawText, rest) =>
    match readRawText rest rest with
    | .ok (_, rest) => rest
    | .error _ => []
  | .ok (_, rest) => rest
  | .error _ => []

/-- The characters of the piece at the beginning. -/
def pieceSource (cs : List Char) : List Char :=
  cs.take (cs.length - (afterPiece cs).length)

/-- What a piece is charged beside its own characters. -/
def pieceCharges (counting : Counting) (expand : List Char → List Charge) (source : List Char) :
    Piece → List Charge
  | .reference r => d.referenceCharges expand r
  | .openTag _ _ closed => d.tagCharges counting closed source
  | _ => []

/-- The text of an entity in the content. -/
def entityCharges : Nat → List Char → List Charge
  | 0, _ => []
  | n + 1, text =>
    (pieces false 0 text (text.length + 1)).1.flatMap fun (piece, here) =>
      let source := pieceSource here
      .indirect (octetCount source) :: d.pieceCharges .inEntity (entityCharges n) source piece

end Doctype

/-! ### Documents -/

/-- The number of octets of a file that the parser is given at once. -/
def portionLength : Nat := 65536

/-- The text of a document in its encoding, with the number of octets in front of the place where
so many characters are left. -/
structure Source where
  encoding : Encoding
  text : List Char
  before : Nat

namespace Source

variable (s : Source)

/-- The number of octets that some characters have. -/
def width (cs : List Char) : Nat :=
  s.encoding.textWidth cs

def count (cs : List Char) : Charge :=
  .direct (s.width cs)

def counting : Doctype.Counting :=
  ⟨true, s.count⟩

/-- The characters of a text with the portions of the file in which they end, from a place behind so
many octets on. -/
def portions (s : Source) (offset : Nat) : List Char → List (Char × Nat)
  | [] => []
  | c :: rest =>
    let offset := offset + s.encoding.width c
    (c, (offset - 1) / portionLength) :: portions s offset rest

/-- The tokens of a text: its lines in each portion, and the line ends; another token begins where
`begins` says so. -/
def textTokens (begins : Char → Bool) (offset : Nat) (cs : List Char) : List (List Char) :=
  let isEnd (c : Char) := c = '\n' || c = '\r'
  let together (p q : Char × Nat) :=
    if isEnd p.1 || isEnd q.1 then p.1 = '\r' && q.1 = '\n' else p.2 = q.2 && !begins q.1
  ((s.portions offset cs).splitBy together).map (·.map Prod.fst)

/-- The number of octets in front of a text at the end of the document. -/
def offset (here : List Char) : Nat :=
  s.before + s.width (s.text.take (s.text.length - here.length))

/-- Some tokens of a document with their places. -/
def tokenCharges (left : Nat) : List (List Char) → List (Nat × Charge)
  | [] => []
  | token :: rest => (left, s.count token) :: tokenCharges (left - token.length) rest

/-- What the piece at the beginning of a text is charged, with the places that are told. -/
def charges (d : Doctype) (piece : Piece) (here : List Char) : List (Nat × Charge) :=
  let source := Doctype.pieceSource here
  match piece with
  | .text _ =>
    let opening := "<![CDATA[".toList
    if opening.isPrefixOf source then
      let close := "]]>".toList
      let inside := source.drop opening.length
      let inside := inside.take (inside.length - close.length)
      let lines := s.textTokens (· = ']') (s.offset here + s.width opening) inside
      s.tokenCharges here.length (opening :: lines ++ [close])
    else s.tokenCharges here.length (s.textTokens (fun _ => false) (s.offset here) source)
  | piece =>
    (s.count source :: d.pieceCharges s.counting (d.entityCharges d.nesting) source piece).map
      fun c => (here.length, c)

def contentCharges (d : Doctype) (found : List (Piece × List Char)) : List (Nat × Charge) :=
  found.flatMap fun (piece, here) => s.charges d piece here

/-- What a token in front of the content is charged beside its own characters: for a default value
the texts of its entities. -/
def defaultCharges (p : PrologState) (token : PrologToken) : List Charge :=
  match p.expecting, token with
  | .attributeDefault .., .literal cs _ | .fixedDefault .., .literal cs _ =>
    if p.counting then
      p.doctype.valueCharges .inEntity false
        (p.doctype.attributeEntityCharges p.doctype.nesting) cs
    else []
  | _, _ => []

/-- What tokens outside of the content are charged, from a text on; `finish` characters are left
behind the last one. -/
def prologCharges (s : Source) (finish : Nat) (p : PrologState) (cs : List Char) :
    List (PrologToken × Nat) → List (Nat × Charge)
  | [] => []
  | (token, left) :: more =>
    let next := (more.head?.map Prod.snd).getD finish
    let own := s.count (cs.take (left - next)) :: defaultCharges p token
    own.map (fun c => (left, c)) ++
      match p.accept token left with
      | .ok p => prologCharges s finish p (cs.drop (left - next)) more
      | .error _ => []

/-- What a run of tokens outside of the content is charged. -/
def outsideCharges (p : PrologState) (cs : List Char) : List (Nat × Charge) :=
  let found := prologTokens cs (cs.length + 1)
  let finish := match found.rest with | .ok rest => rest.length | .error _ => 0
  s.prologCharges finish p cs found.tokens

/-- All that a document is charged behind its declaration. -/
def allCharges (standalone : Bool) : List (Nat × Charge) :=
  s.outsideCharges ⟨.doctype, .empty standalone, true⟩ s.text ++
    match readProlog standalone s.text with
    | .error _ => []
    | .ok (d, content) =>
      let (found, ending) := pieces true 0 content (content.length + 1)
      s.contentCharges d found ++
        match ending with
        | .closed rest => s.outsideCharges ⟨.element, d, false⟩ rest
        | _ => []

/-- Where the guard stops the reading of a document, told by the number of characters left. Without
entities of its own, no document is stopped. -/
def breach? (standalone : Bool) : Option Nat :=
  match readProlog standalone s.text with
  | .ok (⟨[], _, _, _⟩, _) => none
  | _ => Intake.breach? ⟨s.before, 0⟩ (s.allCharges standalone)

/-- What comes of a document under the guard: the first fault is told, and in one place that of the
document. -/
def guarded {α : Type} (standalone : Bool) (r : Except Fault α) : Except Fault α :=
  match s.breach? standalone, r with
  | none, r => r
  | some left, .ok _ => .error ⟨.amplified, left⟩
  | some left, .error f => .error (if f.left < left then ⟨.amplified, left⟩ else f)

end Source

end Recalc.Xml
