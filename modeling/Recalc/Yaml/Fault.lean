import Recalc.Moment
import Recalc.Number.Numeral
import Recalc.Text.Quoted

/-!
# Faults in YAML texts

A text may be malformed: it has no tokens, no tree, or a node that no datum corresponds to. Apart
from that, a scalar may write a value that does not exist.
-/

namespace Recalc.Yaml

/-- What is malformed. -/
inductive Problem where
  | unprintable
  | noToken
  | missingColon
  | misplacedEntry
  | misplacedKey
  | misplacedValue
  | unbalanced
  | badDirective
  | badName
  | badTag
  | badEscape
  | unclosedQuote
  | separatorInQuote
  | badBlockHeader
  | noContent
  | unclosedBlock
  | unclosedFlow
  | noDocumentStart
  | severalDocuments
  | undefinedHandle
  | undefinedAlias
  | recursiveAlias
  | duplicateAnchor
  | unknownTag
  | wrongKind
  | unhashableKey
  | badMerge
  | badBinary
  deriving DecidableEq, Repr

def Problem.text : Problem → String
  | .unprintable => "special characters are not allowed"
  | .noToken => "a character that cannot start any token"
  | .missingColon => "a simple key without its colon"
  | .misplacedEntry => "sequence entries are not allowed here"
  | .misplacedKey => "mapping keys are not allowed here"
  | .misplacedValue => "mapping values are not allowed here"
  | .unbalanced => "a closing bracket without an opening one"
  | .badDirective => "a malformed directive"
  | .badName => "a malformed anchor or alias"
  | .badTag => "a malformed tag"
  | .badEscape => "an unknown escape sequence"
  | .unclosedQuote => "an unclosed quotation"
  | .separatorInQuote => "a document separator in a quotation"
  | .badBlockHeader => "a malformed header of a block scalar"
  | .noContent => "no content where a node is expected"
  | .unclosedBlock => "an unclosed block collection"
  | .unclosedFlow => "an unclosed flow collection"
  | .noDocumentStart => "no start of a document"
  | .severalDocuments => "more than one document"
  | .undefinedHandle => "an undefined tag handle"
  | .undefinedAlias => "an undefined alias"
  | .recursiveAlias => "an alias inside its own node"
  | .duplicateAnchor => "a duplicate anchor"
  | .unknownTag => "an unknown tag"
  | .wrongKind => "a tag that does not fit its node"
  | .unhashableKey => "a collection as a key"
  | .badMerge => "a merged node that is no mapping"
  | .badBinary => "malformed binary data"

inductive Fault where
  | malformed (p : Problem)
  /-- An escape for a number that no character has. -/
  | characterNumber (n : Nat)
  | emptyNumber
  | noInteger (base : Nat) (text : String)
  | longInteger (digits : Nat)
  | noReal (text : String)
  | hugeReal
  | noTruth (text : String)
  | noMoment
  | badMoment (e : MomentError)
  | tooDeep
  deriving DecidableEq, Repr

namespace Fault

/-- How much of a quoted text is shown where an integer was expected. -/
def shownLimit : Nat := 200

/-- From this number on an escape is not even compared with the numbers of characters. -/
def hugeCharacter : Nat := 0x80000000

def message : Fault → String
  | .malformed p => p.text
  | .characterNumber n =>
    if n < hugeCharacter then "chr() arg not in range(0x110000)"
    else "Python int too large to convert to C int"
  | .emptyNumber => "string index out of range"
  | .noInteger base text =>
    "invalid literal for int() with base " ++ toString base ++ ": " ++
      String.ofList ((Text.quotedChars text.toList).take shownLimit)
  | .longInteger digits => Number.integerTooLongText digits
  | .noReal text => "could not convert string to float: " ++ Text.quoted text
  | .hugeReal => "int too large to convert to float"
  | .noTruth text => Text.quoted text
  | .noMoment => "'NoneType' object has no attribute 'groupdict'"
  | .badMoment e => e.message
  | .tooDeep => "maximum recursion depth exceeded"

end Fault

end Recalc.Yaml
