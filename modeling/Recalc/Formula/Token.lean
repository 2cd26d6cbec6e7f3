import Recalc.Name
import Recalc.Number.Layout
import Recalc.Text.Quoted

/-!
# Formulas

A formula is its canonical sequence of tokens: numbers by value, variables in their normal form.
Its text has no blanks and spells numbers in one way only.
-/

namespace Recalc

inductive Operator where
  | plus
  | minus
  | times
  | divide
  deriving DecidableEq, Repr

namespace Operator

def symbol : Operator → Char
  | .plus => '+'
  | .minus => '-'
  | .times => '*'
  | .divide => '/'

def ofSymbol? : Char → Option Operator
  | '+' => some .plus
  | '-' => some .minus
  | '*' => some .times
  | '/' => some .divide
  | _ => none

/-- Plus and minus bind less tightly than times and divide. -/
def isAdditive : Operator → Bool
  | .plus | .minus => true
  | .times | .divide => false

end Operator

inductive Token where
  | openParen
  | closeParen
  | operator (o : Operator)
  | variable (name : String)
  | number (value : Float)

def Token.text : Token → String
  | .openParen => "("
  | .closeParen => ")"
  | .operator o => String.singleton o.symbol
  | .variable name => name
  | .number value => Number.plainText value

structure Formula where
  tokens : List Token

namespace Formula

/-- The canonical text. -/
def text (f : Formula) : String :=
  String.join (f.tokens.map Token.text)

/-- One line about the formula. -/
def summary (f : Formula) : String :=
  "Formula(" ++ Text.quoted f.text ++ ")"

/-- The names of the variables of some tokens. -/
def variablesOf : List Token → Names
  | [] => ∅
  | .variable name :: rest => (variablesOf rest).insert name
  | _ :: rest => variablesOf rest

def variableSet (f : Formula) : Names :=
  variablesOf f.tokens

/-- Formulas are the same when their canonical texts are. -/
instance : BEq Formula where
  beq f g := f.text == g.text

end Formula

end Recalc
