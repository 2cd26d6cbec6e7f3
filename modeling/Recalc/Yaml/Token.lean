import Recalc.Json.Reader
import Recalc.Text.Utf8
import Recalc.Yaml.Fault
import Recalc.Yaml.Place

/-!
# Tokens of YAML

The tokens that a text is made of, and the reading of those that consist of names: directives,
anchors, aliases and tags.
-/

namespace Recalc.Yaml

inductive Directive where
  | version (major : Nat)
  | handle (name leading : String)
  | reserved
  deriving DecidableEq, Repr

/-- A tag as it is written: a whole name, or a handle and what it is put before. -/
structure TagText where
  handle : Option String
  name : String
  deriving DecidableEq, Repr

inductive Token where
  | directive (d : Directive)
  | documentStart
  | documentEnd
  | blockSequence
  | blockMapping
  | blockEnd
  | flowSequence
  | flowSequenceEnd
  | flowMapping
  | flowMappingEnd
  | blockEntry
  | flowEntry
  | key
  | value
  | alias (name : String)
  | anchor (name : String)
  | tag (t : TagText)
  | scalar (text : CodePoints) (plain : Bool)
  deriving DecidableEq

/-! ### Names -/

def isWordChar (c : Char) : Bool :=
  c.isAlphanum || c = '-' || c = '_'

/-- The name of an anchor or an alias, at its indicator. -/
def readAnchorName (p : Place) : Except Fault (String × Place) :=
  let (name, p) := (p.skip 1).span isWordChar
  if name.isEmpty then .error (.malformed .badName)
  else if endsWord p.next || p.next.any (· ∈ "?:,]\x7d%@`".toList) then .ok (String.ofList name, p)
  else .error (.malformed .badName)

/-! ### Tags -/

/-- Characters of the names of tags. -/
def isTagChar (c : Char) : Bool :=
  c.isAlphanum || c ∈ "-;/?:@&=+$,_.!~*'()[]".toList

/-- The handle of a tag: an exclamation mark, or a word between two. -/
def readHandle (p : Place) : Except Fault (String × Place) :=
  if p.next ≠ some '!' then .error (.malformed .badTag)
  else if p.after 1 = some ' ' then .ok ("!", p.skip 1)
  else
    let (word, after) := (p.skip 1).span isWordChar
    if after.next = some '!' then .ok (String.ofList ('!' :: word ++ ['!']), after.skip 1)
    else .error (.malformed .badTag)

/-- The octets of the escapes here, fewer than a number, each a percent sign and two digits. -/
def readOctets (octets : List UInt8) (p : Place) : Nat → Except Fault (List UInt8 × Place)
  | 0 => .ok (octets, p)
  | n + 1 =>
    match p.rest with
    | '%' :: a :: b :: _ =>
      match Json.hexValues? [a, b] with
      | some value => readOctets (octets ++ [UInt8.ofNat value]) (p.skip 3) n
      | none => .error (.malformed .badTag)
    | '%' :: _ => .error (.malformed .badTag)
    | _ => .ok (octets, p)

/-- The name of a tag, with its escapes read as octets of text; fewer parts than a number. -/
def tagNameFrom (read : List Char) (p : Place) : Nat → Except Fault (List Char × Place)
  | 0 => .ok (read, p)
  | parts + 1 => do
    let (cs, p) := p.span isTagChar
    let read := read ++ cs
    if p.next ≠ some '%' then return (read, p)
    let (octets, p) ← readOctets [] p (p.rest.length + 1)
    match Text.ofUtf8 octets with
    | .ok s => tagNameFrom (read ++ s.toList) p parts
    | .error _ => throw (.malformed .badTag)

def readTagName (p : Place) : Except Fault (String × Place) := do
  let (name, after) ← tagNameFrom [] p (p.rest.length + 1)
  if name.isEmpty then throw (.malformed .badTag)
  return (String.ofList name, after)

/-- The tag that starts here. It is a handle with a name if there is a second exclamation mark in
the word. -/
def readTag (p : Place) : Except Fault (TagText × Place) := do
  let (tag, p) ←
    if p.after 1 = some '<' then do
      let (name, p) ← readTagName (p.skip 2)
      if p.next ≠ some '>' then throw (.malformed .badTag)
      pure ((⟨none, name⟩ : TagText), p.skip 1)
    else if endsWord (p.after 1) then pure ((⟨none, "!"⟩ : TagText), p.skip 1)
    else do
      let word := (p.rest.drop 1).takeWhile fun c => !endsWordAtSpace (some c)
      let (handle, p) ← if '!' ∈ word then readHandle p else pure ("!", p.skip 1)
      let (name, p) ← readTagName p
      pure ((⟨some handle, name⟩ : TagText), p)
  if endsWordAtSpace p.next then return (tag, p) else throw (.malformed .badTag)

/-! ### Directives -/

def readDecimal (p : Place) : Except Fault (Nat × Place) :=
  let (ds, p) := p.span Char.isDigit
  if ds.isEmpty then .error (.malformed .badDirective) else .ok (Text.digitsValue ds, p)

/-- What follows the name of a directive. -/
def readDirectiveValue (name : String) (p : Place) : Except Fault (Directive × Place) := do
  match name with
  | "YAML" =>
    let (major, p) ← readDecimal p.skipSpaces
    if p.next ≠ some '.' then throw (.malformed .badDirective)
    let (_, p) ← readDecimal (p.skip 1)
    if !endsWordAtSpace p.next then throw (.malformed .badDirective)
    return (.version major, p)
  | "TAG" =>
    let (handle, p) ← readHandle p.skipSpaces
    if p.next ≠ some ' ' then throw (.malformed .badDirective)
    let (leading, p) ← readTagName p.skipSpaces
    if !endsWordAtSpace p.next then throw (.malformed .badDirective)
    return (.handle handle leading, p)
  | _ => return (.reserved, p.lineText.2)

/-- The directive whose indicator is here, and the place on the line after it. -/
def readDirective (p : Place) : Except Fault (Directive × Place) := do
  let (name, p) := (p.skip 1).span isWordChar
  if name.isEmpty || !endsWordAtSpace p.next then throw (.malformed .badDirective)
  let (directive, p) ← readDirectiveValue (String.ofList name) p
  match p.restOfLine? with
  | some p => return (directive, p)
  | none => throw (.malformed .badDirective)

end Recalc.Yaml
