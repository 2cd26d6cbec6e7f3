import Mathlib.Tactic.Common
import Recalc.Proofs.Formula.Tree

/-!
# The two stacks on the tokens of a tree

Reading the tokens of a factor brings one value in, reading those of a term leaves its value on top,
and reading those of an expression leaves its value or its last sum with the operator waiting. What
was on the stacks before stays below. So the machine computes the value of the tree, asks for
the same variables in the same order, and never lacks an operand.
-/

namespace Recalc.Formula

variable {values : List Float} {waiting : List Pending} {x y : Float} {o : Operator}

/-- No operator is on top. -/
def NoOperatorOnTop (waiting : List Pending) : Prop :=
  ∀ o, waiting.head? ≠ some (.operator o)

/-- No operator of products is on top. -/
def NoProductOnTop (waiting : List Pending) : Prop :=
  ∀ o, waiting.head? = some (.operator o) → o.isAdditive = true

lemma NoOperatorOnTop.noProductOnTop (h : NoOperatorOnTop waiting) : NoProductOnTop waiting :=
  fun o ho => absurd ho (h o)

lemma noOperatorOnTop_nil : NoOperatorOnTop [] := by
  simp [NoOperatorOnTop]

lemma noOperatorOnTop_openParen : NoOperatorOnTop (.openParen :: waiting) := by
  simp [NoOperatorOnTop]

lemma noProductOnTop_operator (ho : o.isAdditive = true) :
    NoProductOnTop (.operator o :: waiting) := by
  simp [NoProductOnTop, ho]

/-! ### Operators on top of the stack -/

lemma reduceIf_additive_of_noOperator (h : NoOperatorOnTop waiting) :
    Machine.reduceIf Machine.additiveOnTop ⟨values, waiting⟩ = .ok ⟨values, waiting⟩ := by
  have htop : Machine.additiveOnTop ⟨values, waiting⟩ = false := by
    unfold Machine.additiveOnTop
    split
    next o rest hw => exact absurd (by rw [show waiting = _ from hw]; rfl) (h o)
    next => rfl
  rw [Machine.reduceIf, if_neg (by simp [htop])]

lemma operand_of_noProduct (h : NoProductOnTop waiting) :
    Machine.operand ⟨values, waiting⟩ x = .ok ⟨x :: values, waiting⟩ := by
  have htop : Machine.multiplicativeOnTop ⟨x :: values, waiting⟩ = false := by
    unfold Machine.multiplicativeOnTop
    split
    next o rest hw => simp [h o (by rw [show waiting = _ from hw]; rfl)]
    next => rfl
  rw [Machine.operand, Machine.reduceIf, if_neg (by simp [htop])]

lemma operand_of_product (ho : o.isAdditive = false) :
    Machine.operand ⟨x :: values, .operator o :: waiting⟩ y =
      (o.apply x y).map fun z => ⟨z :: values, waiting⟩ := by
  simp [Machine.operand, Machine.reduceIf, Machine.multiplicativeOnTop, Machine.reduce, ho]

lemma reduceIf_additive_of_sum (ho : o.isAdditive = true) :
    Machine.reduceIf Machine.additiveOnTop ⟨y :: x :: values, .operator o :: waiting⟩ =
      (o.apply x y).map fun z => ⟨z :: values, waiting⟩ := by
  simp [Machine.reduceIf, Machine.additiveOnTop, Machine.reduce, ho]

/-! ### Computations that may fail -/

variable {m : Type → Type} [Monad m] {lookup : String → m (Except EvaluationError Float)}
  {machine : Machine} {rest : List Token} {α β : Type}

@[simp]
lemma liftExcept_ok (x : α) :
    (liftExcept (.ok x : Except EvaluationError α) : ExceptT EvaluationError m α) = pure x := rfl

lemma liftExcept_divide :
    (liftExcept (Operator.divide.apply x y) : ExceptT EvaluationError m Float) =
      if y == 0 then throw .divisionByZero else return x / y := by
  cases h : y == 0 <;> simp [Operator.apply, h]
  rfl

@[simp]
lemma run_nil : run lookup machine [] = pure machine := rfl

lemma run_cons {token : Token} :
    run lookup machine (token :: rest) =
      step lookup machine token >>= fun machine => run lookup machine rest := by
  rw [run, List.foldlM_cons]
  rfl

variable [LawfulMonad m]

@[simp]
lemma liftExcept_bind (x : Except EvaluationError α) (f : α → Except EvaluationError β) :
    (liftExcept (x >>= f) : ExceptT EvaluationError m β) =
      liftExcept x >>= fun a => liftExcept (f a) := by
  cases x with
  | ok a => rw [liftExcept_ok, pure_bind]; rfl
  | error e => exact (ExceptT.bind_throw _).symm

@[simp]
lemma liftExcept_map (x : Except EvaluationError α) (f : α → β) :
    (liftExcept (x.map f) : ExceptT EvaluationError m β) = f <$> liftExcept x := by
  cases x with
  | ok a => rw [Except.map, liftExcept_ok, liftExcept_ok, map_pure]
  | error e => exact (ExceptT.map_throw f e).symm

/-! ### Reading a tree -/

/-- What reading an expression leaves: the last sum of the expression is still to be applied. -/
def Expression.leave (lookup : String → m (Except EvaluationError Float)) (values : List Float)
    (waiting : List Pending) : Expression → ExceptT EvaluationError m Machine
  | .term t => do
    let x ← t.evaluate lookup
    return ⟨x :: values, waiting⟩
  | .plus left right => do
    let x ← left.evaluate lookup
    let y ← right.evaluate lookup
    return ⟨y :: x :: values, .operator .plus :: waiting⟩
  | .minus left right => do
    let x ← left.evaluate lookup
    let y ← right.evaluate lookup
    return ⟨y :: x :: values, .operator .minus :: waiting⟩

/-- Applying the last sum leaves the value of the expression. -/
lemma Expression.leave_reduce (e : Expression)
    (lookup : String → m (Except EvaluationError Float)) (values : List Float)
    (h : NoOperatorOnTop waiting) :
    e.leave lookup values waiting >>= (fun machine =>
      liftExcept (machine.reduceIf Machine.additiveOnTop)) =
    e.evaluate lookup >>= fun x => pure ⟨x :: values, waiting⟩ := by
  cases e with
  | term t => simp [leave, evaluate, reduceIf_additive_of_noOperator h]
  | plus left right =>
    simp [leave, evaluate, reduceIf_additive_of_sum (o := .plus) rfl, Operator.apply, Except.map]
  | minus left right =>
    simp [leave, evaluate, reduceIf_additive_of_sum (o := .minus) rfl, Operator.apply, Except.map]

lemma Expression.leave_result (e : Expression) :
    e.leave lookup [] [] >>= (fun machine => liftExcept machine.result) = e.evaluate lookup := by
  cases e with
  | term t => simp [leave, evaluate, Machine.result]
  | plus left right => simp [leave, evaluate, Machine.result, Operator.apply]
  | minus left right => simp [leave, evaluate, Machine.result, Operator.apply]

/-- A sum goes on: what was left is applied, and the operator waits. -/
lemma Expression.leave_operator (e : Expression) (h : NoOperatorOnTop waiting)
    (ho : o.isAdditive = true) :
    e.leave lookup values waiting >>= (fun machine =>
      run lookup machine (.operator o :: rest)) =
    e.evaluate lookup >>= fun x => run lookup ⟨x :: values, .operator o :: waiting⟩ rest := by
  have hreduce := e.leave_reduce lookup values h
  simp only [run_cons, step, Machine.operator, ho, if_true, liftExcept_map, bind_map_left]
  rw [← bind_assoc, hreduce, bind_assoc]
  simp [Machine.push]

/-- A parenthesis closes: its value comes in like any operand. -/
lemma Expression.leave_closeParen (e : Expression) :
    e.leave lookup values (.openParen :: waiting) >>= (fun machine =>
      run lookup machine (.closeParen :: rest)) =
    (do
      let x ← e.evaluate lookup
      let machine ← liftExcept (Machine.operand ⟨values, waiting⟩ x)
      run lookup machine rest) := by
  have hreduce := e.leave_reduce lookup values (@noOperatorOnTop_openParen waiting)
  simp only [run_cons, step, Machine.closeParen, liftExcept_bind, bind_assoc]
  rw [← bind_assoc, hreduce, bind_assoc]
  simp [Machine.dropOpenParen, Machine.operand]

mutual
theorem Expression.run_tokens (e : Expression) {values : List Float} {waiting : List Pending}
    {rest : List Token} (h : NoOperatorOnTop waiting) :
    run lookup ⟨values, waiting⟩ (e.tokens ++ rest) =
      e.leave lookup values waiting >>= fun machine => run lookup machine rest := by
  match e with
  | .term t => simp [Expression.tokens, Expression.leave, Term.run_tokens t h.noProductOnTop]
  | .plus left right =>
    have htop : NoProductOnTop (.operator .plus :: waiting) := noProductOnTop_operator rfl
    rw [Expression.tokens, List.append_assoc, Expression.run_tokens left h, List.cons_append,
      left.leave_operator h rfl]
    simp [Expression.leave, Term.run_tokens right htop]
  | .minus left right =>
    have htop : NoProductOnTop (.operator .minus :: waiting) := noProductOnTop_operator rfl
    rw [Expression.tokens, List.append_assoc, Expression.run_tokens left h, List.cons_append,
      left.leave_operator h rfl]
    simp [Expression.leave, Term.run_tokens right htop]

theorem Term.run_tokens (t : Term) {values : List Float} {waiting : List Pending}
    {rest : List Token} (h : NoProductOnTop waiting) :
    run lookup ⟨values, waiting⟩ (t.tokens ++ rest) =
      t.evaluate lookup >>= fun x => run lookup ⟨x :: values, waiting⟩ rest := by
  match t with
  | .factor f =>
    simp [Term.tokens, Term.evaluate, Factor.run_tokens f, operand_of_noProduct h]
  | .times left right =>
    rw [Term.tokens, List.append_assoc, Term.run_tokens left h]
    simp [run_cons, step, Machine.operator, Machine.push, Operator.isAdditive, Term.evaluate,
      Factor.run_tokens right, operand_of_product (o := .times) rfl, Operator.apply]
  | .divide left right =>
    rw [Term.tokens, List.append_assoc, Term.run_tokens left h]
    simp [run_cons, step, Machine.operator, Machine.push, Operator.isAdditive, Term.evaluate,
      Factor.run_tokens right, operand_of_product (o := .divide) rfl, liftExcept_divide]

theorem Factor.run_tokens (f : Factor) {values : List Float} {waiting : List Pending}
    {rest : List Token} :
    run lookup ⟨values, waiting⟩ (f.tokens ++ rest) = (do
      let x ← f.evaluate lookup
      let machine ← liftExcept (Machine.operand ⟨values, waiting⟩ x)
      run lookup machine rest) := by
  match f with
  | .number x => simp [Factor.tokens, Factor.evaluate, run_cons, step]
  | .variable name => simp [Factor.tokens, Factor.evaluate, run_cons, step]
  | .parens e =>
    rw [Factor.tokens, List.cons_append, List.cons_append, List.append_assoc, run_cons, step,
      pure_bind, Machine.push, Expression.run_tokens e noOperatorOnTop_openParen]
    exact e.leave_closeParen
end

/-- The machine ends as the tree of the tokens leaves it. -/
theorem run_of_tokens_eq {f : Formula} {e : Expression} (h : e.tokens = f.tokens) :
    run lookup .start f.tokens = e.leave lookup [] [] := by
  have hrun : run lookup .start (e.tokens ++ []) = _ := e.run_tokens noOperatorOnTop_nil
  rw [List.append_nil, h] at hrun
  simpa using hrun

/-- A formula has the value of the tree of its tokens. -/
theorem evaluateM_of_tokens_eq {f : Formula} {e : Expression} (h : e.tokens = f.tokens) :
    f.evaluateM lookup = (e.evaluate lookup).run := by
  rw [evaluateM, run_of_tokens_eq h, e.leave_result]

end Recalc.Formula
