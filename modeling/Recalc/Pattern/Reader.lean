import Recalc.Pattern.Node
import Recalc.Text.Quoted

/-!
# Reading patterns

A pattern is cut into characters and escapes of two characters, and read from left to right. An
error is told at a place counted from the start of the pattern.
-/

namespace Recalc.Pattern

open Recalc.Text

inductive PatternError where
  /-- What is wrong, and where if that can be said. -/
  | malformed (what : String) (place : Option Nat)
  /-- A repetition number beyond 32 bits. -/
  | repetitionTooLarge
  /-- Two kinds of characters are asked for at once. -/
  | incompatible
  deriving DecidableEq, Repr

/-- The text of an error of a pattern. In a pattern of several lines the line is told as well. -/
def PatternError.message (pattern : String) : PatternError → String
  | .malformed what none => what
  | .malformed what (some place) =>
    let cs := pattern.toList
    let before := cs.take place
    let lineInfo :=
      if '\n' ∈ cs then
        let column := (before.reverse.takeWhile (· ≠ '\n')).length + 1
        " (line " ++ toString (before.count '\n' + 1) ++ ", column " ++ toString column ++ ")"
      else ""
    what ++ " at position " ++ toString place ++ lineInfo
  | .repetitionTooLarge => "the repetition number is too large"
  | .incompatible => "ASCII and UNICODE flags are incompatible"

/-! ### Pieces -/

/-- A piece of a pattern: a character, an escape, or a backslash that nothing follows. -/
inductive Piece where
  | plain (c : Char)
  | escape (c : Char)
  | broken

def pieces : List Char → List Piece
  | [] => []
  | ['\\'] => [.broken]
  | '\\' :: c :: rest => .escape c :: pieces rest
  | c :: rest => .plain c :: pieces rest

def Piece.chars : Piece → List Char
  | .plain c => [c]
  | .escape c => ['\\', c]
  | .broken => ['\\']

/-- What is known while a pattern is read. -/
structure Progress where
  ahead : List Piece
  position : Nat
  /-- Options for the whole pattern, and whether the letters of all scripts were asked for. -/
  options : Options
  unicodeAsked : Bool
  /-- The widths of the groups, from the first one on; nothing for a group that is open. -/
  groups : List (Option Width)
  names : List (String × Nat)
  /-- The number of the first group that was opened inside an assertion about what precedes. -/
  lookBehindFrom : Option Nat
  /-- Groups that conditions mention, with the place of the first mention. -/
  conditions : List (Nat × Nat)

abbrev Reader := StateT Progress (Except PatternError)

/-- The greatest number of groups. -/
def groupLimit : Nat := 1073741823

def repetitionLimit : Nat := 4294967295

/-- Fails at a place so many characters before the next piece. -/
def failBack {α : Type} (what : String) (offset : Nat) : Reader α := do
  throw (.malformed what (some ((← get).position - offset)))

/-- The next piece, if there is one. A broken one fails as soon as it is next. -/
def peek : Reader (Option Piece) := do
  match (← get).ahead with
  | [] => return none
  | .broken :: _ => throw (.malformed "bad escape (end of pattern)" (some (← get).position))
  | p :: _ => return some p

def advance : Reader (Option Piece) := do
  let p? ← peek
  match p? with
  | none => return none
  | some p =>
    modify fun s => { s with ahead := s.ahead.tail, position := s.position + p.chars.length }
    let _ ← peek
    return some p

def nextIs (c : Char) : Reader Bool := do
  match ← peek with
  | some (.plain d) => return c = d
  | _ => return false

def accept (c : Char) : Reader Bool := do
  if ← nextIs c then
    let _ ← advance
    return true
  else return false

/-- The characters of a class that come next, at most so many of them. -/
def takeWhile (p : Char → Bool) : Nat → Reader (List Char)
  | 0 => return []
  | n + 1 => do
    match ← peek with
    | some (.plain c) =>
      if p c then
        let _ ← advance
        return c :: (← takeWhile p n)
      else return []
    | _ => return []

/-- The characters before a terminator, which is read as well. -/
def takeUntil (terminator : Char) (what : String) (read : List Char) : Nat → Reader (List Char)
  | 0 => return read
  | n + 1 => do
    match ← advance with
    | none =>
      if read.isEmpty then failBack ("missing " ++ what) 0
      else
        failBack ("missing " ++ String.singleton terminator ++ ", unterminated name") read.length
    | some p =>
      if p.chars = [terminator] then
        if read.isEmpty then failBack ("missing " ++ what) 1 else return read
      else takeUntil terminator what (read ++ p.chars) n

def readName (terminator : Char) (what : String) : Reader String := do
  let cs ← takeUntil terminator what [] ((← get).ahead.length + 1)
  return String.ofList cs

/-! ### Groups -/

def groupWidth (s : Progress) (index : Nat) : Option Width :=
  if index = 0 then none else (s.groups[index - 1]?).join

/-- Whether a group has been closed. -/
def isClosed (index : Nat) : Reader Bool := do
  return (groupWidth (← get) index).isSome

/-- Inside an assertion about what precedes, only groups from before it may be mentioned. -/
def checkLookBehind (index : Nat) : Reader Unit := do
  match (← get).lookBehindFrom with
  | none => return ()
  | some first =>
    if !(← isClosed index) then failBack "cannot refer to an open group" 0
    if first ≤ index then
      failBack "cannot refer to group defined in the same lookbehind subpattern" 0

def openGroup (name : Option String) : Reader Nat := do
  let s ← get
  let index := s.groups.length + 1
  if groupLimit < index + 1 then
    failBack "too many groups" ((name.getD "").length + 1)
  match name with
  | none => set { s with groups := s.groups ++ [none] }
  | some n =>
    match s.names.lookup n with
    | some other =>
      failBack ("redefinition of group name " ++ quoted n ++ " as group " ++ toString index ++
        "; was group " ++ toString other) (n.length + 1)
    | none => set { s with groups := s.groups ++ [none], names := (n, index) :: s.names }
  return index

/-- The widths of all groups; one that is open counts as empty. -/
def widths (s : Progress) (index : Nat) : Width :=
  (groupWidth s index).getD .zero

def closeGroup (index : Nat) (body : List Node) : Reader Unit :=
  modify fun s => { s with groups := s.groups.set (index - 1) (some (widthOfAll (widths s) body)) }

def isIdentifier (s : String) : Bool :=
  match s.toList with
  | [] => false
  | c :: rest => isWord c && !isDigit c && rest.all isWord

def checkGroupName (name : String) (offset : Nat) : Reader Unit := do
  if !isIdentifier name then
    failBack ("bad character in group name " ++ quoted name) (name.length + offset)

/-- The number of a named group. -/
def namedGroup (name : String) : Reader Nat := do
  match (← get).names.lookup name with
  | some index => return index
  | none => failBack ("unknown group name " ++ quoted name) (name.length + 1)

/-! ### Escapes -/

def hexNumber (cs : List Char) : Nat :=
  cs.foldl (fun n c => 16 * n + (if c.isDigit then c.toNat - 0x30 else c.toLower.toNat - 0x57)) 0

def isHexDigit (c : Char) : Bool :=
  c.isDigit || ('a' ≤ c.toLower && c.toLower ≤ 'f')

def isOctalDigit (c : Char) : Bool :=
  '0' ≤ c && c ≤ '7'

def octalNumber (cs : List Char) : Nat :=
  cs.foldl (fun n c => 8 * n + (c.toNat - 0x30)) 0

/-- The character of an escape with a number of hexadecimal digits. -/
def readHexEscape (letter : Char) (count : Nat) : Reader Char := do
  let ds ← takeWhile isHexDigit count
  let written := String.ofList ('\\' :: letter :: ds)
  if ds.length < count then failBack ("incomplete escape " ++ written) written.length
  let n := hexNumber ds
  if n ≥ 0x110000 then failBack ("bad escape " ++ written) written.length
  return Char.ofNat n

/-- Escapes that mean one character. -/
def controlEscape? (c : Char) : Option Char :=
  [('a', '\x07'), ('b', '\x08'), ('f', '\x0c'), ('n', '\n'), ('r', '\r'), ('t', '\t'),
    ('v', '\x0b'), ('\\', '\\')].lookup c

/-- Escapes that mean a class of characters. -/
def categoryEscape? (c : Char) : Option SetItem :=
  [('d', SetItem.category .digit false), ('D', .category .digit true),
    ('s', .category .space false), ('S', .category .space true),
    ('w', .category .word false), ('W', .category .word true)].lookup c

/-- Characters by name are not known. -/
def readNamedCharacter : Reader Char := do
  if !(← accept '\x7b') then failBack "missing \x7b" 0
  let name ← readName '\x7d' "character name"
  failBack ("undefined character name " ++ quoted name) (name.length + 4)

def badEscape {α : Type} (written : List Char) : Reader α :=
  failBack ("bad escape " ++ String.ofList written) written.length

/-- Escapes that mean the same inside and outside sets. -/
def readCommonEscape (c : Char) : Reader Char := do
  if c = 'x' then readHexEscape c 2
  else if c = 'u' then readHexEscape c 4
  else if c = 'U' then readHexEscape c 8
  else if c = 'N' then readNamedCharacter
  else if c.isAlphanum then badEscape ['\\', c]
  else return c

def checkOctal (written : List Char) : Reader Char := do
  let n := octalNumber (written.drop 1)
  if n > 0o377 then
    failBack ("octal escape value " ++ String.ofList written ++ " outside of range 0-0o377")
      written.length
  return Char.ofNat n

/-- An escape inside a set. -/
def readSetEscape (c : Char) : Reader SetItem := do
  match controlEscape? c, categoryEscape? c with
  | some d, _ => return .char d
  | none, some item => return item
  | none, none =>
    if isOctalDigit c then
      let more ← takeWhile isOctalDigit 2
      return .char (← checkOctal ('\\' :: c :: more))
    else return .char (← readCommonEscape c)

/-- A set of one character. -/
def literal (o : Options) (c : Char) : Node :=
  .set [.char c] false o.ignoreCase o.ascii

/-- The rest of an escape that starts with a digit other than zero: a number of a group, or three
octal digits. -/
def readReference (o : Options) (c : Char) : Reader Node := do
  let second ← takeWhile Char.isDigit 1
  let octal := isOctalDigit c && !second.isEmpty && second.all isOctalDigit
  let third ← if octal then takeWhile isOctalDigit 1 else pure []
  let written := '\\' :: c :: (second ++ third)
  if !third.isEmpty then
    return literal o (← checkOctal written)
  else
    let index := (written.drop 1).foldl (fun n d => 10 * n + (d.toNat - 0x30)) 0
    if index ≤ (← get).groups.length then
      if !(← isClosed index) then failBack "cannot refer to an open group" written.length
      checkLookBehind index
      return .reference index o.ignoreCase o.ascii
    else failBack ("invalid group reference " ++ toString index) (written.length - 1)

/-- An escape outside sets. -/
def readEscape (o : Options) (c : Char) : Reader Node := do
  match c with
  | 'A' => return .place .textStart
  | 'Z' => return .place .textEnd
  | 'b' => return .place (.wordBoundary false o.ascii)
  | 'B' => return .place (.wordBoundary true o.ascii)
  | _ =>
    match categoryEscape? c, controlEscape? c with
    | some item, _ => return .set [item] false o.ignoreCase o.ascii
    | none, some d => return literal o d
    | none, none =>
      if c = '0' then
        let more ← takeWhile isOctalDigit 2
        return literal o (Char.ofNat (octalNumber more))
      else if c.isDigit then readReference o c
      else return literal o (← readCommonEscape c)

/-! ### Sets -/

/-- One member of a set, as an item. -/
def readSetMember (p : Piece) : Reader SetItem :=
  match p with
  | .plain c => return .char c
  | .escape c => readSetEscape c
  | .broken => badEscape ['\\']

/-- The members of a set up to its bracket. The set was opened at `start`. -/
def readSetItems (start : Nat) (items : List SetItem) : Nat → Reader (List SetItem)
  | 0 => return items
  | n + 1 => do
    let unterminated {α : Type} : Reader α :=
      throw (.malformed "unterminated character set" (some start))
    match ← advance with
    | none => unterminated
    | some p =>
      if p.chars = [']'] ∧ !items.isEmpty then return items
      let low ← readSetMember p
      if ← accept '-' then
        match ← advance with
        | none => unterminated
        | some q =>
          if q.chars = [']'] then return items ++ [low, .char '-']
          let high ← readSetMember q
          match low, high with
          | .char c, .char d =>
            if d < c then
              failBack ("bad character range " ++ String.ofList (p.chars ++ '-' :: q.chars))
                (p.chars.length + 1 + q.chars.length)
            readSetItems start (items ++ [.range c d]) n
          | _, _ =>
            failBack ("bad character range " ++ String.ofList (p.chars ++ '-' :: q.chars))
              (p.chars.length + 1 + q.chars.length)
      else readSetItems start (items ++ [low]) n

def readSet (o : Options) : Reader Node := do
  let start := (← get).position - 1
  let negated ← accept '^'
  let items ← readSetItems start [] ((← get).ahead.length + 1)
  return .set items negated o.ignoreCase o.ascii

/-! ### Repetitions -/

/-- The numbers of a repetition in braces; nothing when the brace stands for itself. -/
def readCounts : Reader (Option (Nat × Option Nat)) := do
  let saved ← get
  let enough := saved.ahead.length + 1
  let low ← takeWhile Char.isDigit enough
  let high ← do
    if ← accept ',' then takeWhile Char.isDigit enough else pure low
  if ← accept '\x7d' then
    let number (ds : List Char) := digitsValue ds
    let least := number low
    if repetitionLimit ≤ least then throw .repetitionTooLarge
    if high.isEmpty then return some (least, none)
    else
      let most := number high
      if repetitionLimit ≤ most then throw .repetitionTooLarge
      if most < least then
        throw (.malformed "min repeat greater than max repeat" (some saved.position))
      return some (least, some most)
  else
    set saved
    return none

/-- Repeats the last of the nodes, which are in reverse order. The repetition was opened at
`start`. -/
def repeatLast (start : Nat) (least : Nat) (most : Option Nat) (nodes : List Node) :
    Reader (List Node) := do
  match nodes with
  | [] => throw (.malformed "nothing to repeat" (some start))
  | last :: others =>
    if last.isPlace then throw (.malformed "nothing to repeat" (some start))
    if last.isRepetition then throw (.malformed "multiple repeat" (some start))
    if ← accept '?' then return .repetition least most .lazy [last] :: others
    if ← accept '+' then return .repetition least most .possessive [last] :: others
    return .repetition least most .greedy [last] :: others

/-! ### Options -/

inductive OptionLetter where
  | ignoreCase
  | locale
  | multiLine
  | dotAll
  | verbose
  | ascii
  | template
  | unicode
  deriving DecidableEq

def optionLetter? (c : Char) : Option OptionLetter :=
  [('i', OptionLetter.ignoreCase), ('L', .locale), ('m', .multiLine), ('s', .dotAll),
    ('x', .verbose), ('a', .ascii), ('t', .template), ('u', .unicode)].lookup c

/-- The option that a piece asks for. -/
def Piece.option? : Piece → Option OptionLetter
  | .plain c => optionLetter? c
  | _ => none

def Piece.isLetter : Piece → Bool
  | .plain c => isAlphanumeric c && !isDigit c
  | _ => false

def OptionLetter.isKind (l : OptionLetter) : Bool :=
  l = .locale || l = .ascii || l = .unicode

def Options.set (o : Options) (value : Bool) : OptionLetter → Options
  | .ignoreCase => { o with ignoreCase := value }
  | .multiLine => { o with multiLine := value }
  | .dotAll => { o with dotAll := value }
  | .verbose => { o with verbose := value }
  | .ascii => { o with ascii := value }
  | .unicode => { o with ascii := !value }
  | .locale | .template => o

/-- Letters that turn options on, up to a closing mark, which is the second part of the answer. -/
def readOptionsOn (on : List OptionLetter) (p : Piece) : Nat →
    Reader (List OptionLetter × Char)
  | 0 => return (on, ')')
  | n + 1 => do
    match p.option? with
    | none => return (on, ')')
    | some letter =>
      if letter = .locale then
        failBack "bad inline flags: cannot use 'L' flag with a str pattern" 0
      let on := on ++ [letter]
      if letter.isKind && on.any fun l => l.isKind && l ≠ letter then
        failBack "bad inline flags: flags 'a', 'u' and 'L' are incompatible" 0
      match ← advance with
      | none => failBack "missing -, : or )" 0
      | some q =>
        match q with
        | .plain ')' => return (on, ')')
        | .plain '-' => return (on, '-')
        | .plain ':' => return (on, ':')
        | _ =>
          if q.option?.isSome then readOptionsOn on q n
          else if q.isLetter then failBack "unknown flag" q.chars.length
          else failBack "missing -, : or )" q.chars.length

/-- Letters that turn options off, up to the colon. -/
def readOptionsOff (off : List OptionLetter) (p : Piece) : Nat → Reader (List OptionLetter)
  | 0 => return off
  | n + 1 => do
    match p.option? with
    | none => return off
    | some letter =>
      if letter.isKind then
        failBack "bad inline flags: cannot turn off flags 'a', 'u' and 'L'" 0
      let off := off ++ [letter]
      match ← advance with
      | none => failBack "missing :" 0
      | some q =>
        if q.chars = [':'] then return off
        else if q.option?.isSome then readOptionsOff off q n
        else if q.isLetter then failBack "unknown flag" q.chars.length
        else failBack "missing :" q.chars.length

/-- The options of a group: nothing when they are for the whole pattern, and otherwise what is
turned on and off. -/
def readOptions (p : Piece) : Reader (Option (List OptionLetter × List OptionLetter)) := do
  let enough := (← get).ahead.length + 2
  let (on, mark) ← if p.chars = ['-'] then pure ([], '-') else readOptionsOn [] p enough
  if mark = ')' then
    modify fun s =>
      { s with
        options := on.foldl (fun o l => if l = .unicode then o else o.set true l) s.options
        unicodeAsked := s.unicodeAsked || on.contains .unicode }
    return none
  if on.contains .template then
    failBack "bad inline flags: cannot turn on global flag" 1
  let off ←
    if mark = '-' then
      match ← advance with
      | none => failBack "missing flag" 0
      | some q =>
        if q.option?.isSome then readOptionsOff [] q enough
        else if q.isLetter then failBack "unknown flag" q.chars.length
        else failBack "missing flag" q.chars.length
    else pure []
  if off.contains .template then
    failBack "bad inline flags: cannot turn off global flag" 1
  if on.any off.contains then
    failBack "bad inline flags: flag turned on and off" 1
  return some (on, off)

/-! ### Expressions -/

/-- Skips a comment up to its parenthesis. The comment was opened at `start`. -/
def skipComment (start : Nat) : Nat → Reader Unit
  | 0 => return ()
  | n + 1 => do
    match ← advance with
    | none => throw (.malformed "missing ), unterminated comment" (some start))
    | some p => if p.chars = [')'] then return () else skipComment start n

/-- Skips the rest of a line. -/
def skipLine : Nat → Reader Unit
  | 0 => return ()
  | n + 1 => do
    match ← advance with
    | none => return ()
    | some p => if p.chars = ['\n'] then return () else skipLine n

def isPatternBlank (c : Char) : Bool :=
  isAsciiBlank c

/-- The closing parenthesis of a part that was opened at `start`. -/
def expectClose (start : Nat) : Reader Unit := do
  if !(← accept ')') then
    throw (.malformed "missing ), unterminated subpattern" (some start))

/-- The group that a condition asks about. -/
def readCondition : Reader Nat := do
  let name ← readName ')' "group name"
  let index ←
    if isIdentifier name then namedGroup name
    else
      let ds := (trimBoth isBlank name.toList)
      let ds := if ds.head? = some '+' then ds.tail else ds
      if ds.isEmpty || !ds.all isDigit then
        failBack ("bad character in group name " ++ quoted name) (name.length + 1)
      else
        let index := digitsValue ds
        if index = 0 then failBack "bad group number" (name.length + 1)
        if groupLimit ≤ index then
          failBack ("invalid group reference " ++ toString index) (name.length + 1)
        let place := (← get).position - name.length - 1
        modify fun s =>
          if s.conditions.any (·.1 = index) then s
          else { s with conditions := s.conditions ++ [(index, place)] }
        pure index
  checkLookBehind index
  return index

/-- What an opening parenthesis begins. -/
inductive Opening where
  | capture (name : Option String)
  | scoped (on off : List OptionLetter)
  | atomic
  | assertion (behind negated : Bool)
  | condition (index : Nat)
  /-- A part that is complete: a comment, a reference by name, or options for all. -/
  | complete (nodes : List Node)

/-- Reads what follows an opening parenthesis at `start`. Options for the whole pattern are
allowed at its beginning only. -/
def readOpening (o : Options) (start : Nat) (atBeginning : Bool) : Reader Opening := do
  if !(← accept '?') then return .capture none
  match ← advance with
  | none => failBack "unexpected end of pattern" 0
  | some p =>
    match p with
    | .plain 'P' =>
      if ← accept '<' then
        let name ← readName '>' "group name"
        checkGroupName name 1
        return .capture (some name)
      if ← accept '=' then
        let name ← readName ')' "group name"
        checkGroupName name 1
        let index ← namedGroup name
        if !(← isClosed index) then failBack "cannot refer to an open group" (name.length + 1)
        checkLookBehind index
        return .complete [.reference index o.ignoreCase o.ascii]
      match ← advance with
      | none => failBack "unexpected end of pattern" 0
      | some q => failBack ("unknown extension ?P" ++ String.ofList q.chars) (q.chars.length + 2)
    | .plain ':' => return .scoped [] []
    | .plain '#' =>
      skipComment start ((← get).ahead.length + 1)
      return .complete []
    | .plain '=' => return .assertion false false
    | .plain '!' => return .assertion false true
    | .plain '<' =>
      match ← advance with
      | none => failBack "unexpected end of pattern" 0
      | some q =>
        match q with
        | .plain '=' => return .assertion true false
        | .plain '!' => return .assertion true true
        | _ => failBack ("unknown extension ?<" ++ String.ofList q.chars) (q.chars.length + 2)
    | .plain '(' => return .condition (← readCondition)
    | .plain '>' => return .atomic
    | _ =>
      if p.option?.isSome || p.chars = ['-'] then
        match ← readOptions p with
        | some (on, off) => return .scoped on off
        | none =>
          if !atBeginning then
            throw (.malformed "global flags not at the start of the expression" (some start))
          return .complete []
      else failBack ("unknown extension ?" ++ String.ofList p.chars) (p.chars.length + 1)

/-- The options that hold inside a group. -/
def Options.scoped (o : Options) (on off : List OptionLetter) : Options :=
  off.foldl (·.set false) (on.foldl (·.set true) o)

mutual
/-- Branches with bars between them. Inside no parentheses, options that the whole pattern has
got meanwhile hold from the next branch on. -/
def readChoice (o : Options) (nested : Bool) (branches : List (List Node)) :
    Nat → Reader (List Node)
  | 0 => return []
  | n + 1 => do
    let branch ← readSequence o (!nested && branches.isEmpty) [] n
    let branches := branches ++ [branch]
    if ← accept '|' then
      let s ← get
      readChoice (if nested then o else s.options) nested branches n
    else
      match branches with
      | [only] => return only
      | _ => return [.choice branches]

/-- Nodes up to a bar or a closing parenthesis; those read so far are in reverse order. -/
def readSequence (o : Options) (first : Bool) (nodes : List Node) : Nat → Reader (List Node)
  | 0 => return nodes.reverse
  | n + 1 => do
    let place := (← get).position
    if (← nextIs '|') || (← nextIs ')') then return nodes.reverse
    match ← advance with
    | none => return nodes.reverse
    | some (.escape c) => readSequence o first ((← readEscape o c) :: nodes) n
    | some .broken => return nodes.reverse
    | some (.plain c) =>
      if o.verbose && isPatternBlank c then readSequence o first nodes n
      else if o.verbose && c = '#' then
        skipLine ((← get).ahead.length + 1)
        readSequence o first nodes n
      else
        match c with
        | '[' => readSequence o first ((← readSet o) :: nodes) n
        | '.' => readSequence o first (.any o.dotAll :: nodes) n
        | '^' =>
          let p := if o.multiLine then Place.lineStart else .textStart
          readSequence o first (.place p :: nodes) n
        | '$' =>
          let p := if o.multiLine then Place.lineEnd else .lastLineEnd
          readSequence o first (.place p :: nodes) n
        | '?' => readSequence o first (← repeatLast place 0 (some 1) nodes) n
        | '*' => readSequence o first (← repeatLast place 0 none nodes) n
        | '+' => readSequence o first (← repeatLast place 1 none nodes) n
        | '\x7b' =>
          if ← nextIs '\x7d' then readSequence o first (literal o c :: nodes) n
          else
            match ← readCounts with
            | some (least, most) =>
              readSequence o first (← repeatLast place least most nodes) n
            | none => readSequence o first (literal o c :: nodes) n
        | '(' =>
          let opening ← readOpening o place (first && nodes.isEmpty)
          match opening with
          | .complete more =>
            let s ← get
            let o := if first && nodes.isEmpty then s.options else o
            readSequence o first (more.reverse ++ nodes) n
          | _ =>
            let node ← readGroup o place opening n
            readSequence o first (node :: nodes) n
        | _ => readSequence o first (literal o c :: nodes) n

/-- The part that an opening parenthesis at `start` begins. -/
def readGroup (o : Options) (start : Nat) (opening : Opening) : Nat → Reader Node
  | 0 => return .sequence []
  | n + 1 => do
    match opening with
    | .capture name =>
      let index ← openGroup name
      let body ← readChoice o true [] n
      expectClose start
      closeGroup index body
      return .group index body
    | .scoped on off =>
      let body ← readChoice (o.scoped on off) true [] n
      expectClose start
      return .sequence body
    | .atomic =>
      let body ← readChoice o true [] n
      expectClose start
      return .atomic body
    | .assertion behind negated =>
      let outer := (← get).lookBehindFrom
      if behind && outer.isNone then
        modify fun s => { s with lookBehindFrom := some (s.groups.length + 1) }
      let body ← readChoice o true [] n
      if behind && outer.isNone then
        modify fun s => { s with lookBehindFrom := none }
      expectClose start
      if behind then
        let width := widthOfAll (widths (← get)) body
        return .assertion (some width.least) negated body
      else return .assertion none negated body
    | .condition index =>
      let yes ← readSequence o false [] n
      let no ←
        if ← accept '|' then
          let no ← readSequence o false [] n
          if ← nextIs '|' then
            failBack "conditional backref with more than two branches" 0
          pure no
        else pure []
      expectClose start
      return .condition index yes no
    | .complete nodes => return .sequence nodes
end

/-! ### Assertions about what precedes -/

mutual
/-- The first complaint about the widths of assertions about what precedes. -/
def Node.widthFault? (groups : Nat → Width) : Node → Option String
  | .set .. | .any _ | .place _ | .reference .. => none
  | .group _ body | .sequence body | .atomic body | .repetition _ _ _ body
  | .assertion none _ body => widthFaultOfAll? groups body
  | .assertion (some _) _ body =>
    let w := widthOfAll groups body
    if repetitionLimit < w.least then some "looks too much behind"
    else if w.most ≠ some w.least then some "look-behind requires fixed-width pattern"
    else widthFaultOfAll? groups body
  | .choice branches => widthFaultOfEach? groups branches
  | .condition _ yes no => (widthFaultOfAll? groups yes).or (widthFaultOfAll? groups no)

def widthFaultOfAll? (groups : Nat → Width) : List Node → Option String
  | [] => none
  | n :: rest => (n.widthFault? groups).or (widthFaultOfAll? groups rest)

def widthFaultOfEach? (groups : Nat → Width) : List (List Node) → Option String
  | [] => none
  | branch :: rest => (widthFaultOfAll? groups branch).or (widthFaultOfEach? groups rest)
end

/-! ### Patterns -/

def readPattern (enough : Nat) : Reader (List Node) := do
  let _ ← peek
  let nodes ← readChoice .none false [] enough
  let s ← get
  if s.options.ascii && s.unicodeAsked then throw .incompatible
  if (← peek).isSome then failBack "unbalanced parenthesis" 0
  match s.conditions.find? fun (index, _) => s.groups.length < index with
  | some (index, place) =>
    throw (.malformed ("invalid group reference " ++ toString index) (some place))
  | none =>
    match widthFaultOfAll? (widths s) nodes with
    | some what => throw (.malformed what none)
    | none => return nodes

/-- The nodes of a pattern. -/
def parse (pattern : String) : Except PatternError (List Node) :=
  let ahead := pieces pattern.toList
  let start : Progress :=
    { ahead, position := 0, options := .none, unicodeAsked := false, groups := [], names := []
      lookBehindFrom := none, conditions := [] }
  (readPattern (3 * ahead.length + 3)).run' start

end Recalc.Pattern
