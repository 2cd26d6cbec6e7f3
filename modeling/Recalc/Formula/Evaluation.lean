import Recalc.Formula.Token
import Recalc.Text.Blank
import Recalc.Text.Quoted

/-!
# Evaluating formulas

The tokens are read once from left to right, with a stack of values and a stack of operators that
wait for their right operand. Times and divide are applied as soon as that operand is there, plus
and minus when the next of them, the closing parenthesis or the end comes. The values of variables
are asked for one by one, in the order of the tokens; what asking involves is left open.
-/

namespace Recalc

open Recalc.Text

/-- Why a formula has no number as its value. -/
inductive EvaluationError where
  | divisionByZero
  | unresolved (name detail : String)
  | notNumeric (name : String)
  /-- The tokens do not form a formula. -/
  | malformed
  deriving DecidableEq, Repr

def EvaluationError.reason : EvaluationError → String
  | .divisionByZero => "Division by zero"
  | .unresolved name detail =>
    "Cannot resolve variable " ++ quoted name ++ if detail = "" then "" else ": " ++ detail
  | .notNumeric name => "Variable " ++ quoted name ++ " does not have a numeric value"
  | .malformed => "Malformed formula"

/-- A variable that cannot be resolved; quotes around the detail are dropped. -/
def EvaluationError.unresolvedBecause (name detail : String) : EvaluationError :=
  .unresolved name (String.ofList (trimBoth (fun c => c = '\'' || c = '"') detail.toList))

/-- Only division can fail. -/
def Operator.apply (o : Operator) (left right : Float) : Except EvaluationError Float :=
  match o with
  | .plus => .ok (left + right)
  | .minus => .ok (left - right)
  | .times => .ok (left * right)
  | .divide => if right == 0 then .error .divisionByZero else .ok (left / right)

namespace Formula

/-- An entry of the stack of operators. -/
inductive Pending where
  | openParen
  | operator (o : Operator)
  deriving DecidableEq, Repr

/-- The two stacks, each with its top first. -/
structure Machine where
  values : List Float
  pending : List Pending

namespace Machine

def start : Machine := ⟨[], []⟩

def additiveOnTop (m : Machine) : Bool :=
  match m.pending with
  | .operator o :: _ => o.isAdditive
  | _ => false

def multiplicativeOnTop (m : Machine) : Bool :=
  match m.pending with
  | .operator o :: _ => !o.isAdditive
  | _ => false

/-- Applies the operator on top to the two values on top. -/
def reduce (m : Machine) : Except EvaluationError Machine :=
  match m.pending, m.values with
  | .operator o :: pending, right :: left :: values =>
    (o.apply left right).map fun v => ⟨v :: values, pending⟩
  | _, _ => .error .malformed

def reduceIf (condition : Machine → Bool) (m : Machine) : Except EvaluationError Machine :=
  if condition m then m.reduce else .ok m

def push (m : Machine) (p : Pending) : Machine :=
  { m with pending := p :: m.pending }

def dropOpenParen (m : Machine) : Machine :=
  match m.pending with
  | .openParen :: pending => { m with pending := pending }
  | _ => m

/-- The value of a variable or a number comes in. -/
def operand (m : Machine) (x : Float) : Except EvaluationError Machine :=
  reduceIf multiplicativeOnTop { m with values := x :: m.values }

def operator (m : Machine) (o : Operator) : Except EvaluationError Machine :=
  if o.isAdditive then (m.reduceIf additiveOnTop).map (·.push (.operator o))
  else .ok (m.push (.operator o))

def closeParen (m : Machine) : Except EvaluationError Machine := do
  let m ← m.reduceIf additiveOnTop
  m.dropOpenParen.reduceIf multiplicativeOnTop

/-- The value when there are no more tokens. -/
def result (m : Machine) : Except EvaluationError Float :=
  match m.pending, m.values with
  | [], x :: _ => .ok x
  | .operator o :: _, right :: left :: _ => o.apply left right
  | _, _ => .error .malformed

end Machine

variable {m : Type → Type} [Monad m]

/-- Reads one token. -/
def step (lookup : String → m (Except EvaluationError Float)) (machine : Machine) :
    Token → ExceptT EvaluationError m Machine
  | .openParen => return machine.push .openParen
  | .closeParen => liftExcept machine.closeParen
  | .operator o => liftExcept (machine.operator o)
  | .number x => liftExcept (machine.operand x)
  | .variable name => do
    let x ← ExceptT.mk (lookup name)
    liftExcept (machine.operand x)

/-- Reads tokens. A failure ends the reading, so nothing more is asked for. -/
def run (lookup : String → m (Except EvaluationError Float)) (machine : Machine)
    (tokens : List Token) : ExceptT EvaluationError m Machine :=
  tokens.foldlM (step lookup) machine

def evaluateM (f : Formula) (lookup : String → m (Except EvaluationError Float)) :
    m (Except EvaluationError Float) :=
  ExceptT.run do
    let machine ← run lookup .start f.tokens
    liftExcept machine.result

/-- The value when every variable has one answer. -/
def evaluate (f : Formula) (lookup : String → Except EvaluationError Float) :
    Except EvaluationError Float :=
  (f.evaluateM (m := Id) lookup).run

/-! ### Answers of any kind -/

/-- An exception that breaks an evaluation off. -/
inductive Escape where
  /-- An integer that exceeds all finite doubles. -/
  | integerTooLarge
  /-- What the code of an answer raises. -/
  | raised (kind message : String)
  deriving DecidableEq, Repr

def Escape.message : Escape → String
  | .integerTooLarge => "int too large to convert to float"
  | .raised _ message => message

/-- How an object with code of its own takes the questions put to it: each of them may raise. -/
structure Conduct where
  /-- Whether it passes for a truth value. -/
  isTruth : Except Escape Bool
  /-- Whether it passes for an integer or a float. -/
  isNumber : Except Escape Bool
  /-- The float that it is converted to. -/
  double : Except Escape Float

/-- What a variable may stand for outside a sheet: a value that is returned or an exception that is
raised. Each name has one answer, however often it is asked for. Two things are left out: what else
an answer does to the program while it is given, and surrogates in the texts of exceptions. -/
inductive Answer where
  | number (x : Float)
  | integer (n : Int)
  /-- A truth value, or anything that is no number and does not pass for one. -/
  | other
  /-- A value with code of its own, such as a kind of integer that converts itself. -/
  | object (conduct : Conduct)
  /-- An exception with its text. -/
  | failure (detail : String)
  /-- An exception whose text comes from code of its own, which may raise another one. -/
  | telling (detail : Except Escape String)
  /-- An exception that is not meant to be caught, such as an interruption by the user. -/
  | interruption (e : Escape)

/-- The number that an object stands for. -/
def Conduct.resolve (name : String) (c : Conduct) :
    Except Escape (Except EvaluationError Float) := do
  if ← c.isTruth then return .error (.notNumeric name)
  if !(← c.isNumber) then return .error (.notNumeric name)
  return .ok (← c.double)

def Answer.resolve (name : String) : Answer → Except Escape (Except EvaluationError Float)
  | .number x => .ok (.ok x)
  | .integer n =>
    match Number.ofInt? n with
    | some x => .ok (.ok x)
    | none => .error .integerTooLarge
  | .other => .ok (.error (.notNumeric name))
  | .object c => c.resolve name
  | .failure detail => .ok (.error (.unresolvedBecause name detail))
  | .telling detail => detail.map fun detail => .error (.unresolved name detail)
  | .interruption e => .error e

/-- Asks for a variable and keeps its name. -/
def askAndKeep (answers : String → Answer) (name : String) :
    ExceptT Escape (StateM (List String)) (Except EvaluationError Float) := do
  modify (name :: ·)
  match (answers name).resolve name with
  | .ok found => return found
  | .error e => throw e

/-- The value together with the names that were asked for, in order. -/
def evaluateKeeping (f : Formula) (answers : String → Answer) :
    Except Escape (Except EvaluationError Float) × List String :=
  let (result, asked) := (f.evaluateM (askAndKeep answers)).run.run []
  (result, asked.reverse)

end Formula

end Recalc
