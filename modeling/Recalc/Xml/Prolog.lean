import Recalc.Xml.Markup

/-!
# Tokens of the prolog

What may stand before the first element: comments, instructions, and the parts of the document type
declaration.
-/

namespace Recalc.Xml

inductive PrologToken where
  | space
  | aside
  | declaration
  /-- The opening of a markup declaration, with its keyword. -/
  | opening (keyword : List Char)
  /-- The close of a markup declaration. -/
  | closing
  | name (cs : List Char)
  /-- A name with a prefix. -/
  | qualifiedName (cs : List Char)
  /-- Characters of names that do not form a name. -/
  | nameToken (cs : List Char)
  /-- A name with a mark of repetition. -/
  | repeatedName
  | keyword (cs : List Char)
  /-- A text in quotes; the number of characters left after it is counted from its last one. -/
  | literal (cs : List Char) (after : Nat)
  | openBracket
  | closeBracket
  | openParen
  | closeParen (mark : Option Char)
  | comma
  | bar
  | percent
  | parameterReference
  /-- The opening or the close of a conditional section. -/
  | conditional

/-- The start of an element, where the prolog ends. -/
def startsElement (cs : List Char) : Bool :=
  match cs with
  | '<' :: c :: _ => isNameStart c || (0x80 ≤ c.toNat && c ≠ unreadable)
  | _ => false

/-- The keyword of a declaration. -/
def readKeyword (cs : List Char) : Except Stop (PrologToken × List Char) :=
  let word := cs.takeWhile fun c => c.isAlpha || c = '_'
  let rest := cs.drop word.length
  if word.isEmpty then refuse cs
  else
    match rest with
    | '%' :: after =>
      match after with
      | [] => .error .unfinished
      | c :: _ => if isSpace c || c = '%' then refuse rest else .ok (.opening word, rest)
    | c :: _ => if isSpace c then .ok (.opening word, rest) else refuse rest
    | [] => .error .unfinished

/-- A text up to its closing quote, which must not touch what follows. -/
def readLiteral (quote : Char) (cs : List Char) : Except Stop (PrologToken × List Char) :=
  let text := cs.takeWhile fun c => c ≠ quote && isXmlChar c
  match cs.drop text.length with
  | [] => .error .unfinished
  | c :: rest =>
    if c ≠ quote then refuseInName (c :: rest)
    else
      let token : PrologToken := .literal text (rest.length + 1)
      match rest with
      | [] => .ok (token, rest)
      | d :: _ =>
        if isSpace d || d = '>' || d = '%' || d = '[' then .ok (token, rest) else refuse rest

/-- What follows a percent sign. -/
def readPercent (cs : List Char) : Except Stop (PrologToken × List Char) :=
  match cs with
  | c :: _ =>
    if isSpace c || c = '%' then .ok (.percent, cs)
    else do
      let (_, rest) ← readName cs
      match rest with
      | ';' :: rest => return (.parameterReference, rest)
      | _ => refuseInName rest
  | [] => refuse cs

/-- A word after a number sign. -/
def readHashWord (cs : List Char) : Except Stop (PrologToken × List Char) := do
  let (name, rest) ← readName cs
  match rest with
  | c :: _ =>
    if isSpace c || c ∈ [')', '>', '%', '|'] then return (.keyword name, rest)
    else refuseInName rest
  | [] => return (.keyword name, rest)

/-- What has been read of a name so far. -/
inductive NameForm where
  | plain
  | qualified
  | token

def NameForm.toToken (form : NameForm) (cs : List Char) : PrologToken :=
  match form with
  | .plain => .name cs
  | .qualified => .qualifiedName cs
  | .token => .nameToken cs

/-- The rest of a name of which `read` is known, in reverse order. -/
def readNameRest (form : NameForm) (read : List Char) :
    List Char → Except Stop (PrologToken × List Char)
  | [] => .ok (form.toToken read.reverse, [])
  | ':' :: rest =>
    match form with
    | .plain =>
      match rest.head? with
      | none => .error .unfinished
      | some c =>
        if c = cutOff then .error .cut
        else readNameRest (if isNamePart c then .qualified else .token) (':' :: read) rest
    | _ => readNameRest .token (':' :: read) rest
  | c :: rest =>
    if isNamePart c then readNameRest form (c :: read) rest
    else if isSpace c || c ∈ ['>', ')', ',', '|', '[', '%'] then
      .ok (form.toToken read.reverse, c :: rest)
    else if c ∈ ['+', '*', '?'] then
      match form with
      | .token => refuse (c :: rest)
      | _ => .ok (.repeatedName, rest)
    else refuseInName (c :: rest)

/-- A closing parenthesis with its mark of repetition. -/
def readCloseParen (cs : List Char) : Except Stop (PrologToken × List Char) :=
  match cs with
  | [] => .ok (.closeParen none, [])
  | c :: rest =>
    if c ∈ ['*', '?', '+'] then .ok (.closeParen (some c), rest)
    else if isSpace c || c ∈ ['>', ',', '|', ')'] then .ok (.closeParen none, cs)
    else refuse cs

/-- The token at the start of a text that is not empty and starts no element. -/
def readPrologToken (cs : List Char) : Except Stop (PrologToken × List Char) :=
  match cs with
  | '<' :: '!' :: '-' :: rest => (readComment rest).map fun (_, rest) => (.aside, rest)
  | '<' :: '!' :: '[' :: rest => .ok (.conditional, rest)
  | '<' :: '!' :: rest => readKeyword rest
  | '<' :: '?' :: rest =>
    (readInstruction rest).map fun ((target, _), rest) =>
      (if target = "xml".toList then .declaration else .aside, rest)
  | '<' :: rest => refuse rest
  | ']' :: ']' :: '>' :: rest => .ok (.conditional, rest)
  | [']', ']'] => .error .unfinished
  | '"' :: rest => readLiteral '"' rest
  | '\'' :: rest => readLiteral '\'' rest
  | '%' :: rest => readPercent rest
  | '#' :: rest => readHashWord rest
  | ',' :: rest => .ok (.comma, rest)
  | '[' :: rest => .ok (.openBracket, rest)
  | ']' :: rest => .ok (.closeBracket, rest)
  | '(' :: rest => .ok (.openParen, rest)
  | ')' :: rest => readCloseParen rest
  | '|' :: rest => .ok (.bar, rest)
  | '>' :: rest => .ok (.closing, rest)
  | c :: rest =>
    if isSpace c then .ok (.space, rest.dropWhile isSpace)
    else if isNameStart c then readNameRest .plain [c] rest
    else if isNamePart c || c = ':' then readNameRest .token [c] rest
    else refuseInName cs
  | [] => refuse cs

/-- Tokens with the number of characters left where each begins. -/
structure PrologTokens where
  tokens : List (PrologToken × Nat)
  /-- The text from the first element on, or the fault that ended the reading. -/
  rest : Except Fault (List Char)

/-- The tokens up to the first element, no more than a number of them. -/
def prologTokens (cs : List Char) : Nat → PrologTokens
  | 0 => ⟨[], .error ⟨.noElement, cs.length⟩⟩
  | n + 1 =>
    if startsElement cs then ⟨[], .ok cs⟩
    else if cs.isEmpty then ⟨[], .error ⟨.noElement, 0⟩⟩
    else
      match readPrologToken cs with
      | .ok (token, rest) =>
        let more := prologTokens rest n
        ⟨(token, cs.length) :: more.tokens, more.rest⟩
      | .error stop => ⟨[], .error (stop.toFault cs.length)⟩

end Recalc.Xml
