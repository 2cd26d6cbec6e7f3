import Recalc.Yaml.Scalar.Block
import Recalc.Yaml.Scalar.Plain
import Recalc.Yaml.Scalar.Quoted
import Recalc.Yaml.Token

/-!
# The layout of a YAML text

The tokens of a text, where indentation opens and closes block collections. A node that a colon
follows on the same line is a key, which is only known when the colon is read; until then the tokens
from that node on are not settled.
-/

namespace Recalc.Yaml

/-- A node that may turn out to be a key. -/
structure KeyStart where
  /-- The number of tokens before it. -/
  tokensBefore : Nat
  /-- Whether nothing but a key can stand here. -/
  required : Bool
  index : Nat
  line : Nat
  column : Nat

/-- The longest key before its colon, in characters. -/
def keyLimit : Nat := 1024

/-- What is known of a text up to a place. -/
structure Layout where
  place : Place
  tokens : Array Token
  /-- The columns of the open block collections, innermost first. -/
  blocks : List Nat
  /-- Where the innermost flow collection, or the text outside of all, may have a key. -/
  keyStart : Option KeyStart
  /-- The same for the flow collections around, innermost first. -/
  outerKeyStarts : List (Option KeyStart)
  /-- Whether a key may start at the place. -/
  keyAllowed : Bool

namespace Layout

def start (p : Place) : Layout :=
  ⟨if p.next = some byteOrderMark then p.skip 1 else p, #[], [], none, [], true⟩

def inFlow (l : Layout) : Bool :=
  !l.outerKeyStarts.isEmpty

def push (l : Layout) (t : Token) : Layout :=
  { l with tokens := l.tokens.push t }

/-! ### Keys -/

/-- Whether the place is still in reach of a key start. -/
def inReach (p : Place) (k : KeyStart) : Bool :=
  k.line = p.line && p.index - k.index ≤ keyLimit

/-- Gives up a key start that is out of reach. -/
def expire (p : Place) (k? : Option KeyStart) : Except Fault (Option KeyStart) :=
  match k? with
  | none => .ok none
  | some k =>
    if inReach p k then .ok k?
    else if k.required then .error (.malformed .missingColon)
    else .ok none

/-- Gives up all key starts that are out of reach. -/
def expireAll (l : Layout) : Except Fault Layout := do
  let outerKeyStarts ← l.outerKeyStarts.mapM (expire l.place)
  let keyStart ← expire l.place l.keyStart
  return { l with keyStart, outerKeyStarts }

/-- Gives up the innermost key start. -/
def dropKeyStart (l : Layout) : Except Fault Layout :=
  if l.keyStart.any KeyStart.required then .error (.malformed .missingColon)
  else .ok { l with keyStart := none }

/-- Notes that a key may start at the place. -/
def noteKeyStart (l : Layout) : Except Fault Layout :=
  if l.keyAllowed then do
    let required := !l.inFlow && l.blocks.head? = some l.place.column
    let l ← l.dropKeyStart
    return { l with
      keyStart := some ⟨l.tokens.size, required, l.place.index, l.place.line, l.place.column⟩ }
  else .ok l

/-- The tokens before all nodes that may still turn out to be keys. -/
def settled (l : Layout) : List Token :=
  let starts := (l.keyStart :: l.outerKeyStarts).filterMap fun k? => k?.filter (inReach l.place)
  l.tokens.toList.take (starts.foldl (fun n k => min n k.tokensBefore) l.tokens.size)

/-! ### Indentation -/

/-- Closes the block collections that satisfy a condition on their columns, from the innermost
on. -/
def closeBlocks (l : Layout) (f : Nat → Bool) : Layout :=
  let closed := l.blocks.takeWhile f
  { l with
    blocks := l.blocks.drop closed.length
    tokens := l.tokens ++ (closed.map fun _ => Token.blockEnd) }

/-- Closes the block collections that are indented further than the place. -/
def unindent (l : Layout) : Layout :=
  if l.inFlow then l else l.closeBlocks (l.place.column < ·)

def closeAllBlocks (l : Layout) : Layout :=
  if l.inFlow then l else l.closeBlocks fun _ => true

/-- Opens a block collection at a column that is further than the innermost one, by a token before
which there are some others. -/
def indent (l : Layout) (column : Nat) (t : Token) (before : Nat) : Layout :=
  if l.blocks.head?.all (· < column) then
    { l with
      blocks := column :: l.blocks
      tokens := l.tokens.insertIdxIfInBounds before t }
  else l

/-! ### Tokens with a meaning for the layout -/

/-- A token of one character. -/
def mark (l : Layout) (t : Token) : Layout :=
  { l with place := l.place.skip 1 }.push t

/-- The start or the end of a document. -/
def documentMark (l : Layout) (t : Token) : Except Fault Layout := do
  let l ← l.closeAllBlocks.dropKeyStart
  return { l with place := l.place.skip 3, keyAllowed := false }.push t

def openFlow (l : Layout) (t : Token) : Except Fault Layout := do
  let l ← l.noteKeyStart
  return { l with
    keyStart := none
    outerKeyStarts := l.keyStart :: l.outerKeyStarts
    keyAllowed := true }.mark t

def closeFlow (l : Layout) (t : Token) : Except Fault Layout := do
  let l ← l.dropKeyStart
  match l.outerKeyStarts with
  | [] => throw (.malformed .unbalanced)
  | keyStart :: outerKeyStarts =>
    return { l with keyStart, outerKeyStarts, keyAllowed := false }.mark t

def flowEntry (l : Layout) : Except Fault Layout := do
  let l ← l.dropKeyStart
  return { l with keyAllowed := true }.mark .flowEntry

def blockEntry (l : Layout) : Except Fault Layout := do
  if !l.inFlow && !l.keyAllowed then throw (.malformed .misplacedEntry)
  let l := if l.inFlow then l else l.indent l.place.column .blockSequence l.tokens.size
  let l ← l.dropKeyStart
  return { l with keyAllowed := true }.mark .blockEntry

/-- The indicator of a key. -/
def explicitKey (l : Layout) : Except Fault Layout := do
  if !l.inFlow && !l.keyAllowed then throw (.malformed .misplacedKey)
  let l := if l.inFlow then l else l.indent l.place.column .blockMapping l.tokens.size
  let l ← l.dropKeyStart
  return { l with keyAllowed := !l.inFlow }.mark .key

/-- The indicator of a value. The node before it on the line turns out to be a key, if there is
one. -/
def valueMark (l : Layout) : Except Fault Layout :=
  match l.keyStart with
  | some k =>
    let l := { l with
      keyStart := none
      tokens := l.tokens.insertIdxIfInBounds k.tokensBefore .key
      keyAllowed := false }
    let l := if l.inFlow then l else l.indent k.column .blockMapping k.tokensBefore
    .ok (l.mark .value)
  | none => do
    if !l.inFlow && !l.keyAllowed then throw (.malformed .misplacedValue)
    let l := if l.inFlow then l else l.indent l.place.column .blockMapping l.tokens.size
    return { l with keyAllowed := !l.inFlow }.mark .value

/-- A token that is a node or the beginning of one, and may start a key. -/
def node (l : Layout) (read : Place → Except Fault (Token × Place)) : Except Fault Layout := do
  let l ← l.noteKeyStart
  let (t, place) ← read l.place
  return { l with place, keyAllowed := false }.push t

def plain (l : Layout) : Except Fault Layout := do
  let l ← l.noteKeyStart
  let column := match l.blocks with | [] => 0 | c :: _ => c + 1
  let (text, t) := readPlain l.inFlow column l.place
  return { l with place := t.place, keyAllowed := t.broke }.push (.scalar text true)

def block (l : Layout) (folded : Bool) : Except Fault Layout := do
  let l ← l.dropKeyStart
  let least := match l.blocks with | [] => 1 | c :: _ => c + 1
  let (text, place) ← readBlock folded least l.place
  return { l with place, keyAllowed := true }.push (.scalar text false)

def directive (l : Layout) : Except Fault Layout := do
  let l ← l.closeAllBlocks.dropKeyStart
  let (d, place) ← readDirective l.place
  return { l with place, keyAllowed := false }.push (.directive d)

/-! ### All tokens -/

/-- Characters that cannot start a plain scalar, or not before a blank. -/
def indicators : List Char :=
  "-?:,[]\x7b\x7d#&*!|>'\"%@`\t".toList

/-- Takes the next token, which starts with a character at the place. -/
def accept (l : Layout) (c : Char) : Except Fault Layout :=
  let wordEnds := endsWord (l.place.after 1)
  let atStart := l.place.column = 0
  if c = '%' && atStart then l.directive
  else if c = '-' && atStart && l.place.isMark c then l.documentMark .documentStart
  else if c = '.' && atStart && l.place.isMark c then l.documentMark .documentEnd
  else if c = '[' then l.openFlow .flowSequence
  else if c = '{' then l.openFlow .flowMapping
  else if c = ']' then l.closeFlow .flowSequenceEnd
  else if c = '}' then l.closeFlow .flowMappingEnd
  else if c = ',' then l.flowEntry
  else if c = '-' && wordEnds then l.blockEntry
  else if c = '?' && (l.inFlow || wordEnds) then l.explicitKey
  else if c = ':' && (l.inFlow || wordEnds) then l.valueMark
  else if c = '*' then l.node fun p => (readAnchorName p).map fun (n, p) => (.alias n, p)
  else if c = '&' then l.node fun p => (readAnchorName p).map fun (n, p) => (.anchor n, p)
  else if c = '!' then l.node fun p => (readTag p).map fun (t, p) => (.tag t, p)
  else if c = '|' && !l.inFlow then l.block false
  else if c = '>' && !l.inFlow then l.block true
  else if c = '\'' || c = '"' then
    l.node fun p => (readQuoted (c = '"') p).map fun (s, p) => (.scalar s false, p)
  else if c ∉ indicators || (!wordEnds && (c = '-' || (!l.inFlow && c ∈ ['?', ':']))) then l.plain
  else .error (.malformed .noToken)

/-- Goes on to the next token; at the end of the text all blocks are closed. -/
def advance (l : Layout) : Except Fault (Layout × Bool) := do
  let l ← l.expireAll
  let (place, broke) := l.place.toToken false (l.place.rest.length + 1)
  let l := { l with place, keyAllowed := l.keyAllowed || (broke && !l.inFlow) }
  let l := (← l.expireAll).unindent
  match l.place.next with
  | some c => return (← l.accept c, false)
  | none => return (← l.closeAllBlocks.dropKeyStart, true)

/-- The tokens from a place on, and the fault that they end in if there is one; fewer tokens than a
number. -/
def run (l : Layout) : Nat → List Token × Option Fault
  | 0 => (l.tokens.toList, none)
  | n + 1 =>
    match l.advance with
    | .ok (l, false) => l.run n
    | .ok (l, true) => (l.tokens.toList, none)
    | .error f => (l.settled, some f)

end Layout

/-- Characters that may stand in a text. -/
def isPrintable (c : Char) : Bool :=
  let n := c.toNat
  n = 0x09 || n = 0x0A || n = 0x0D || (0x20 ≤ n && n ≤ 0x7E) || n = 0x85 ||
    (0xA0 ≤ n && n ≤ 0xFFFD) || 0x10000 ≤ n

/-- The tokens of a text. -/
def tokens (s : String) : List Token × Option Fault :=
  if s.toList.all isPrintable then
    let p := Place.start s
    (Layout.start p).run (p.rest.length + 2)
  else ([], some (.malformed .unprintable))

end Recalc.Yaml
