/-!
# Faults in documents

Why a text is no XML document, and at which line and column that shows. Lines are counted from one,
columns from zero.
-/

namespace Recalc.Xml

inductive Problem where
  | misplaced
  | noElement
  | invalidToken
  | unclosedToken
  | partialCharacter
  | mismatchedTag
  | duplicateAttribute
  | junkAfterDocument
  | parameterReference
  | undefinedEntity
  /-- An entity whose text is not at hand. -/
  | unresolvedEntity (name : String)
  | recursiveEntity
  | asynchronousEntity
  | badCharacterNumber
  | binaryEntity
  | externalInAttribute
  | misplacedDeclaration
  | unknownEncoding
  | wrongEncoding
  | unclosedSection
  | unboundPrefix
  | undeclaredPrefix
  | malformedDeclaration
  | badPublicId
  | reservedPrefix
  | reservedDeclarationPrefix
  | reservedNamespace
  /-- The entities of the document stand for too much. -/
  | amplified
  deriving DecidableEq, Repr

def Problem.text : Problem → String
  | .misplaced => "syntax error"
  | .noElement => "no element found"
  | .invalidToken => "not well-formed (invalid token)"
  | .unclosedToken => "unclosed token"
  | .partialCharacter => "partial character"
  | .mismatchedTag => "mismatched tag"
  | .duplicateAttribute => "duplicate attribute"
  | .junkAfterDocument => "junk after document element"
  | .parameterReference => "illegal parameter entity reference"
  | .undefinedEntity => "undefined entity"
  | .unresolvedEntity name => "undefined entity &" ++ name ++ ";"
  | .recursiveEntity => "recursive entity reference"
  | .asynchronousEntity => "asynchronous entity"
  | .badCharacterNumber => "reference to invalid character number"
  | .binaryEntity => "reference to binary entity"
  | .externalInAttribute => "reference to external entity in attribute"
  | .misplacedDeclaration => "XML or text declaration not at start of entity"
  | .unknownEncoding => "unknown encoding"
  | .wrongEncoding => "encoding specified in XML declaration is incorrect"
  | .unclosedSection => "unclosed CDATA section"
  | .unboundPrefix => "unbound prefix"
  | .undeclaredPrefix => "must not undeclare prefix"
  | .malformedDeclaration => "XML declaration not well-formed"
  | .badPublicId => "illegal character(s) in public id"
  | .reservedPrefix =>
    "reserved prefix (xml) must not be undeclared or bound to another namespace name"
  | .reservedDeclarationPrefix => "reserved prefix (xmlns) must not be declared or undeclared"
  | .reservedNamespace => "prefix must not be bound to one of the reserved namespace names"
  | .amplified => "limit on input amplification factor (from DTD and entities) breached"

/-- A problem at the place where so many characters are left. -/
structure Fault where
  problem : Problem
  left : Nat
  deriving DecidableEq, Repr

/-- The line and the column after some characters. A carriage return ends a line, together with a
line feed after it. -/
def positionAfter (line column : Nat) : List Char → Nat × Nat
  | [] => (line, column)
  | '\r' :: '\n' :: rest => positionAfter (line + 1) 0 rest
  | c :: rest =>
    if c = '\n' ∨ c = '\r' then positionAfter (line + 1) 0 rest
    else positionAfter line (column + 1) rest

/-- What is said about a fault in a text. -/
def Fault.message (f : Fault) (text : List Char) : String :=
  let (line, column) := positionAfter 1 0 (text.take (text.length - f.left))
  f.problem.text ++ ": line " ++ toString line ++ ", column " ++ toString column

/-- How the reading of a token fails: at a place with so many characters left, at the end of the
text, or at a character that the end cuts off. -/
inductive Stop where
  | invalid (left : Nat)
  | unfinished
  | cut
  deriving DecidableEq, Repr

/-- The fault of a token that begins where so many characters are left. -/
def Stop.toFault (s : Stop) (start : Nat) : Fault :=
  match s with
  | .invalid left => ⟨.invalidToken, left⟩
  | .unfinished => ⟨.unclosedToken, start⟩
  | .cut => ⟨.partialCharacter, start⟩

end Recalc.Xml
