import Recalc.Datum
import Recalc.Formula.Lexeme
import Recalc.Formula.Token
import Recalc.Formula.FormatError

/-!
# Reading formulas

The lexemes of a text are checked one by one against their predecessor and the number of open
parentheses, and each becomes a token. The first fault in the order of the text is the one that
is told.
-/

namespace Recalc.Formula

open Recalc.Number

/-- The lexemes of a text, if it consists of lexemes and separators. -/
def lexemes (text : String) : Except FormatError (List Lexeme) :=
  let found := scan text
  match found.fault with
  | some (c, column) => .error (.unrecognized c column)
  | none => .ok found.lexemes

/-- Whether a lexeme of this kind must be followed by an operand; the others end one. -/
def LexemeKind.awaitsOperand : LexemeKind → Bool
  | .openParen | .operator => true
  | .closeParen | .name | .number => false

/-- Whether a lexeme of this kind begins an operand. -/
def LexemeKind.beginsOperand : LexemeKind → Bool
  | .openParen | .name | .number => true
  | .closeParen | .operator => false

/-- A lexeme must begin an operand where one is awaited, and must not elsewhere. -/
def checkPlace (previous : Option LexemeKind) (l : Lexeme) : Except FormatError Unit :=
  match previous with
  | none => if l.kind.beginsOperand then .ok () else .error (.beginsWrong l.position.column)
  | some kind =>
    if kind.awaitsOperand then
      if l.kind.beginsOperand then .ok ()
      else .error (.operandExpected l.text l.position.column)
    else if l.kind.beginsOperand then .error (.operatorExpected l.text l.position.column)
    else .ok ()

/-- The normal form of a variable. -/
def variableToken (naming : Naming) (name : String) : Except FormatError Token :=
  let normal := naming.normalize name
  if !isName normal then .error (.notAName name normal)
  else if !naming.accepts normal then .error (.refused normal)
  else .ok (.variable normal)

/-- The number that a numeral writes. -/
def numberToken (l : Lexeme) : Except FormatError Token :=
  match readSigned? l.chars with
  | some x => if isFinite x then .ok (.number x) else .error (.outOfRange l.text l.position.column)
  | none => .error (.outOfRange l.text l.position.column)

/-- The token of a lexeme, and the number of parentheses that are open after it. -/
def convert (naming : Naming) (depth : Nat) (l : Lexeme) : Except FormatError (Token × Nat) :=
  match l.kind with
  | .openParen => .ok (.openParen, depth + 1)
  | .closeParen =>
    match depth with
    | 0 => .error (.unmatchedClose l.position.column)
    | depth + 1 => .ok (.closeParen, depth)
  | .operator =>
    match l.chars with
    | [c] =>
      match Operator.ofSymbol? c with
      | some o => .ok (.operator o, depth)
      | none => .error (.unrecognized c l.position.column)
    | _ => .error .empty
  | .name => (variableToken naming l.text).map (·, depth)
  | .number => (numberToken l).map (·, depth)

/-- Whether a formula may end after the lexemes so far. -/
def checkEnd (previous : Option LexemeKind) (depth : Nat) : Except FormatError Unit :=
  match previous with
  | none => .error .empty
  | some kind =>
    if kind.awaitsOperand then .error .endsWrong
    else if depth ≠ 0 then .error .unmatchedOpen
    else .ok ()

/-- The tokens of the lexemes that follow a lexeme of kind `previous` inside `depth` parentheses;
`fault` is the character that ended the scan. -/
def tokensFrom (naming : Naming) (fault : Option (Char × Nat)) (previous : Option LexemeKind)
    (depth : Nat) : List Lexeme → Except FormatError (List Token)
  | [] =>
    match fault with
    | some (c, column) => .error (.unrecognized c column)
    | none => (checkEnd previous depth).map fun _ => []
  | l :: rest => do
    checkPlace previous l
    let (token, depth) ← convert naming depth l
    let tokens ← tokensFrom naming fault (some l.kind) depth rest
    return token :: tokens

/-- The formula that a text writes under a naming policy. -/
def parse (text : String) (naming : Naming) : Except FormatError Formula :=
  let found := scan text
  (tokensFrom naming found.fault none 0 found.lexemes).map Formula.mk

/-- Why a datum does not give a formula. -/
inductive InputError where
  | notText (kind : String)
  | format (e : FormatError)

def InputError.message : InputError → String
  | .notText kind => "formula must be a string, got " ++ kind
  | .format e => e.message

/-- The formula that a datum writes. -/
def ofDatum (d : Datum) (naming : Naming) : Except InputError Formula :=
  match d.text? with
  | some text => (parse text naming).mapError .format
  | none => .error (.notText d.kind)

end Recalc.Formula
