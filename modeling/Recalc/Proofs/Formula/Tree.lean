import Mathlib.Tactic.Common
import Recalc.Formula.Evaluation

/-!
# Formulas as trees

The grammar of formulas: an expression is a sum of terms, a term is a product of factors, and a
factor is a number, a variable or an expression in parentheses. Sums and products group from the
left. A sequence of tokens is written by at most one tree, and the value of a tree is computed by
recursion on it.
-/

namespace Recalc.Formula

mutual
/-- A sum of terms. -/
inductive Expression where
  | term (t : Term)
  | plus (left : Expression) (right : Term)
  | minus (left : Expression) (right : Term)

/-- A product of factors. -/
inductive Term where
  | factor (f : Factor)
  | times (left : Term) (right : Factor)
  | divide (left : Term) (right : Factor)

inductive Factor where
  | number (x : Float)
  | variable (name : String)
  | parens (e : Expression)
end

/-! ### The tokens that write a tree -/

mutual
def Expression.tokens : Expression → List Token
  | .term t => t.tokens
  | .plus left right => left.tokens ++ .operator .plus :: right.tokens
  | .minus left right => left.tokens ++ .operator .minus :: right.tokens

def Term.tokens : Term → List Token
  | .factor f => f.tokens
  | .times left right => left.tokens ++ .operator .times :: right.tokens
  | .divide left right => left.tokens ++ .operator .divide :: right.tokens

def Factor.tokens : Factor → List Token
  | .number x => [.number x]
  | .variable name => [.variable name]
  | .parens e => .openParen :: e.tokens ++ [.closeParen]
end

/-! ### The value of a tree -/

section Evaluate

variable {m : Type → Type} [Monad m]

mutual
/-- The operands are evaluated from left to right, and the first failure is the answer. -/
def Expression.evaluate (lookup : String → m (Except EvaluationError Float)) :
    Expression → ExceptT EvaluationError m Float
  | .term t => t.evaluate lookup
  | .plus left right => do
    let x ← left.evaluate lookup
    let y ← right.evaluate lookup
    return x + y
  | .minus left right => do
    let x ← left.evaluate lookup
    let y ← right.evaluate lookup
    return x - y

/-- A division by a number that equals zero fails. -/
def Term.evaluate (lookup : String → m (Except EvaluationError Float)) :
    Term → ExceptT EvaluationError m Float
  | .factor f => f.evaluate lookup
  | .times left right => do
    let x ← left.evaluate lookup
    let y ← right.evaluate lookup
    return x * y
  | .divide left right => do
    let x ← left.evaluate lookup
    let y ← right.evaluate lookup
    if y == 0 then throw .divisionByZero else return x / y

def Factor.evaluate (lookup : String → m (Except EvaluationError Float)) :
    Factor → ExceptT EvaluationError m Float
  | .number x => return x
  | .variable name => ExceptT.mk (lookup name)
  | .parens e => e.evaluate lookup
end

end Evaluate

/-! ### A tree is determined by its tokens -/

/-- No operator stands at the end. -/
def NoOperatorLast (ts : List Token) : Prop :=
  ∀ ts' o, ts ≠ ts' ++ [.operator o]

/-- No operator of products stands at the end. -/
def NoProductLast (ts : List Token) : Prop :=
  ∀ ts' o, ts = ts' ++ [.operator o] → o.isAdditive = true

variable {before before' : List Token}

lemma NoOperatorLast.noProductLast (h : NoOperatorLast before) : NoProductLast before :=
  fun ts' o ho => absurd ho (h ts' o)

lemma noProductLast_append_operator {o : Operator} (ho : o.isAdditive = true) :
    NoProductLast (before ++ [.operator o]) := by
  intro ts' o' h
  obtain ⟨-, heq⟩ := List.append_inj' h rfl
  cases heq
  exact ho

lemma noOperatorLast_append_openParen : NoOperatorLast (before ++ [.openParen]) := by
  intro ts' o h
  obtain ⟨-, heq⟩ := List.append_inj' h rfl
  cases heq

lemma noOperatorLast_nil : NoOperatorLast [] := by
  intro ts' o h
  simp at h

/-- An operator that is followed by the same tokens on both sides is the same on both. -/
lemma append_operator_inj {left left' : List Token} {o o' : Operator}
    (h : before ++ left ++ [.operator o] = before' ++ left' ++ [.operator o']) :
    o = o' ∧ before ++ left = before' ++ left' := by
  obtain ⟨hleft, heq⟩ := List.append_inj' h rfl
  cases heq
  exact ⟨rfl, hleft⟩

-- Trees are compared from the right: there the last operand is set off by its own tokens, and what
-- stands before it tells whether there is a further operator of its level.
mutual
theorem Expression.cancel (e e' : Expression) {before before' : List Token}
    (hb : NoOperatorLast before) (hb' : NoOperatorLast before')
    (h : before ++ e.tokens = before' ++ e'.tokens) :
    e = e' ∧ before = before' := by
  match e, e' with
  | .term t, .term t' =>
    obtain ⟨rfl, hbefore⟩ := Term.cancel t t' hb.noProductLast hb'.noProductLast h
    exact ⟨rfl, hbefore⟩
  | .term t, .plus left' right' | .term t, .minus left' right' =>
    rw [Expression.tokens, Expression.tokens, List.append_cons, ← List.append_assoc,
      ← List.append_assoc] at h
    obtain ⟨-, hbefore⟩ :=
      Term.cancel t right' hb.noProductLast (noProductLast_append_operator rfl) h
    exact absurd hbefore (hb _ _)
  | .plus left right, .term t' | .minus left right, .term t' =>
    rw [Expression.tokens, Expression.tokens, List.append_cons, ← List.append_assoc,
      ← List.append_assoc] at h
    obtain ⟨-, hbefore⟩ :=
      Term.cancel right t' (noProductLast_append_operator rfl) hb'.noProductLast h
    exact absurd hbefore.symm (hb' _ _)
  | .plus left right, .plus left' right' | .minus left right, .minus left' right'
  | .plus left right, .minus left' right' | .minus left right, .plus left' right' =>
    rw [Expression.tokens, Expression.tokens, List.append_cons, List.append_cons left'.tokens,
      ← List.append_assoc, ← List.append_assoc, ← List.append_assoc, ← List.append_assoc] at h
    obtain ⟨rfl, hbefore⟩ := Term.cancel right right' (noProductLast_append_operator rfl)
      (noProductLast_append_operator rfl) h
    obtain ⟨ho, hleft⟩ := append_operator_inj hbefore
    obtain ⟨rfl, hb⟩ := Expression.cancel left left' hb hb' hleft
    cases ho <;> exact ⟨rfl, hb⟩

theorem Term.cancel (t t' : Term) {before before' : List Token}
    (hb : NoProductLast before) (hb' : NoProductLast before')
    (h : before ++ t.tokens = before' ++ t'.tokens) :
    t = t' ∧ before = before' := by
  match t, t' with
  | .factor f, .factor f' =>
    obtain ⟨rfl, hbefore⟩ := Factor.cancel f f' h
    exact ⟨rfl, hbefore⟩
  | .factor f, .times left' right' | .factor f, .divide left' right' =>
    rw [Term.tokens, Term.tokens, List.append_cons, ← List.append_assoc, ← List.append_assoc] at h
    obtain ⟨-, hbefore⟩ := Factor.cancel f right' h
    exact absurd (hb _ _ hbefore) (by decide)
  | .times left right, .factor f' | .divide left right, .factor f' =>
    rw [Term.tokens, Term.tokens, List.append_cons, ← List.append_assoc, ← List.append_assoc] at h
    obtain ⟨-, hbefore⟩ := Factor.cancel right f' h
    exact absurd (hb' _ _ hbefore.symm) (by decide)
  | .times left right, .times left' right' | .divide left right, .divide left' right'
  | .times left right, .divide left' right' | .divide left right, .times left' right' =>
    rw [Term.tokens, Term.tokens, List.append_cons, List.append_cons left'.tokens,
      ← List.append_assoc, ← List.append_assoc, ← List.append_assoc, ← List.append_assoc] at h
    obtain ⟨rfl, hbefore⟩ := Factor.cancel right right' h
    obtain ⟨ho, hleft⟩ := append_operator_inj hbefore
    obtain ⟨rfl, hb⟩ := Term.cancel left left' hb hb' hleft
    cases ho <;> exact ⟨rfl, hb⟩

theorem Factor.cancel (f f' : Factor) {before before' : List Token}
    (h : before ++ f.tokens = before' ++ f'.tokens) :
    f = f' ∧ before = before' := by
  match f, f' with
  | .parens e, .parens e' =>
    rw [Factor.tokens, Factor.tokens, List.cons_append, List.cons_append, List.append_cons,
      List.append_cons before', ← List.append_assoc, ← List.append_assoc] at h
    obtain ⟨hinside, -⟩ := List.append_inj' h rfl
    obtain ⟨rfl, hopen⟩ :=
      Expression.cancel e e' noOperatorLast_append_openParen noOperatorLast_append_openParen hinside
    exact ⟨rfl, (List.append_inj' hopen rfl).1⟩
  | .number x, .number x' | .variable x, .variable x' =>
    obtain ⟨hbefore, heq⟩ := List.append_inj' h rfl
    cases heq
    exact ⟨rfl, hbefore⟩
  | .number x, .variable x' | .variable x, .number x' =>
    obtain ⟨-, heq⟩ := List.append_inj' h rfl
    cases heq
  | .number x, .parens e' | .variable x, .parens e' =>
    rw [Factor.tokens, Factor.tokens, ← List.append_assoc] at h
    obtain ⟨-, heq⟩ := List.append_inj' h rfl
    cases heq
  | .parens e, .number x' | .parens e, .variable x' =>
    rw [Factor.tokens, Factor.tokens, ← List.append_assoc] at h
    obtain ⟨-, heq⟩ := List.append_inj' h rfl
    cases heq
end

/-- The grammar is unambiguous. -/
theorem Expression.tokens_injective {e e' : Expression} (h : e.tokens = e'.tokens) : e = e' :=
  (Expression.cancel e e' noOperatorLast_nil noOperatorLast_nil h).1

end Recalc.Formula
