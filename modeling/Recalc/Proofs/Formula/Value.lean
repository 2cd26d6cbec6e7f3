import Mathlib
import Recalc.Proofs.Formula.Accepted
import Recalc.Proofs.Formula.Machine

/-!
# The value of a formula

The two stacks compute the value of the tree of an accepted text, whatever it involves to ask for a
variable. Only the variables of the formula are asked for, and only they and divisions can fail.
-/

namespace Recalc.Formula

variable {f : Formula} {e : Expression} {machine : Machine} {ts : List Token} {name : String}

/-! ### Only variables are asked for -/

section Congr

variable {m : Type → Type} [Monad m] {lookup lookup' : String → m (Except EvaluationError Float)}

lemma run_congr (h : ∀ name, .variable name ∈ ts → lookup name = lookup' name) :
    run lookup machine ts = run lookup' machine ts := by
  induction ts generalizing machine with
  | nil => rfl
  | cons token ts ih =>
    have hstep : step lookup machine token = step lookup' machine token := by
      match token with
      | .variable name => rw [step, step, h name List.mem_cons_self]
      | .openParen | .closeParen | .operator _ | .number _ => rfl
    rw [run_cons, run_cons, hstep]
    congr 1
    funext machine
    exact ih fun name hname => h name (List.mem_cons_of_mem token hname)

theorem evaluateM_congr (h : ∀ name ∈ f.variableSet, lookup name = lookup' name) :
    f.evaluateM lookup = f.evaluateM lookup' := by
  rw [evaluateM, evaluateM, run_congr fun name hname => h name (mem_variablesOf.mpr hname)]

end Congr

theorem evaluate_congr {lookup lookup' : String → Except EvaluationError Float}
    (h : ∀ name ∈ f.variableSet, lookup name = lookup' name) :
    f.evaluate lookup = f.evaluate lookup' := by
  rw [evaluate, evaluate, evaluateM_congr (m := Id) h]

/-! ### The names that are asked for -/

section Asked

/-- A computation that may fail and keeps the names that are asked for. -/
abbrev Asking (α : Type) : Type :=
  ExceptT EvaluationError (ExceptT Escape (StateM (List String))) α

/-- The names asked for at the end, the latest first. -/
def Asking.names {α : Type} (x : Asking α) (asked : List String) : List String :=
  (x.run.run.run asked).2

variable {answers : String → Answer} {asked : List String} {α β : Type}

lemma Asking.mem_names_bind {x : Asking α} {k : α → Asking β} (h : name ∈ (x >>= k).names asked) :
    name ∈ x.names asked ∨ ∃ a, name ∈ (k a).names (x.names asked) := by
  simp only [names, ExceptT.run_bind, StateT.run_bind] at h ⊢
  generalize StateT.run x.run.run asked = found at h ⊢
  obtain ⟨outcome, asked'⟩ := found
  match outcome with
  | .ok (.ok a) => exact .inr ⟨a, h⟩
  | .ok (.error e) => exact .inl h
  | .error e => exact .inl h

/-- An outcome asks for nothing. -/
@[simp]
lemma names_liftExcept {x : Except EvaluationError α} :
    Asking.names (liftExcept x) asked = asked := by
  cases x <;> rfl

/-- Asking for a variable keeps its name, whatever the answer. -/
lemma names_askAndKeep : Asking.names (ExceptT.mk (askAndKeep answers name)) asked =
    name :: asked := by
  rw [Asking.names, ExceptT.run_mk]
  unfold askAndKeep
  cases (answers name).resolve name <;> rfl

/-- A token asks for no name but its own. -/
lemma mem_names_step {token : Token}
    (h : name ∈ Asking.names (step (askAndKeep answers) machine token) asked) :
    name ∈ asked ∨ token = .variable name := by
  match token with
  | .variable other =>
    have hasked : name ∈ other :: asked := by
      rcases Asking.mem_names_bind h with hask | ⟨x, hoperand⟩
      · rwa [names_askAndKeep] at hask
      · rwa [names_liftExcept, names_askAndKeep] at hoperand
    rcases List.mem_cons.mp hasked with rfl | hasked
    · exact .inr rfl
    · exact .inl hasked
  | .openParen => exact .inl h
  | .closeParen | .operator _ | .number _ =>
    rw [step, names_liftExcept] at h
    exact .inl h

lemma mem_names_run (h : name ∈ Asking.names (run (askAndKeep answers) machine ts) asked) :
    name ∈ asked ∨ .variable name ∈ ts := by
  induction ts generalizing machine asked with
  | nil => exact .inl h
  | cons token ts ih =>
    rw [run_cons] at h
    have hstep : name ∈ Asking.names (step (askAndKeep answers) machine token) asked ∨
        .variable name ∈ ts := by
      rcases Asking.mem_names_bind h with hstep | ⟨machine, hrest⟩
      · exact .inl hstep
      · exact ih hrest
    rcases hstep with hstep | hrest
    · rcases mem_names_step hstep with hasked | rfl
      · exact .inl hasked
      · exact .inr List.mem_cons_self
    · exact .inr (List.mem_cons_of_mem token hrest)

/-- Only variables of the formula are asked for. -/
theorem mem_variableSet_of_asked (h : name ∈ (f.evaluateKeeping answers).2) :
    name ∈ f.variableSet := by
  have hnames : name ∈ Asking.names (run (askAndKeep answers) .start f.tokens >>=
      fun machine => liftExcept machine.result) [] := List.mem_reverse.mp h
  rcases Asking.mem_names_bind hnames with hrun | ⟨machine, hresult⟩
  · exact mem_variablesOf.mpr ((mem_names_run hrun).resolve_left List.not_mem_nil)
  · rw [names_liftExcept] at hresult
    exact mem_variablesOf.mpr ((mem_names_run hresult).resolve_left List.not_mem_nil)

end Asked

/-! ### What can fail -/

section Failure

variable {lookup : String → Except EvaluationError Float} {error : EvaluationError}

lemma run_bind_eq {α β : Type} (x : ExceptT EvaluationError Id α)
    (k : α → ExceptT EvaluationError Id β) :
    (x >>= k).run = (match Id.run x.run with
      | .ok a => (k a).run
      | .error e => pure (.error e)) := by
  cases hx : Id.run x.run with
  | ok a => rw [ExceptT.run_bind, show x.run = pure (.ok a) from hx, pure_bind]
  | error e => rw [ExceptT.run_bind, show x.run = pure (.error e) from hx, pure_bind]

lemma ok_of_bind {α β : Type} {x : ExceptT EvaluationError Id α}
    {k : α → ExceptT EvaluationError Id β} {b : β} (h : (x >>= k).run = .ok b) :
    ∃ a, (k a).run = .ok b := by
  rw [run_bind_eq] at h
  split at h
  next a _ => exact ⟨a, h⟩
  next => cases h

lemma error_of_bind {α β : Type} {x : ExceptT EvaluationError Id α}
    {k : α → ExceptT EvaluationError Id β} (h : (x >>= k).run = .error error) :
    x.run = .error error ∨ ∃ a, (k a).run = .error error := by
  rw [run_bind_eq] at h
  split at h
  next a _ => exact .inr ⟨a, h⟩
  next e he =>
    cases h
    exact .inl he

/-- A failure of tokens: a division by zero, or what one of their variables answers. -/
def Failure (lookup : String → Except EvaluationError Float) (error : EvaluationError)
    (ts : List Token) : Prop :=
  error = .divisionByZero ∨ ∃ name, .variable name ∈ ts ∧ lookup name = .error error

lemma Failure.mono {ts' : List Token} (h : Failure lookup error ts) (hsub : ts ⊆ ts') :
    Failure lookup error ts' :=
  h.imp_right fun ⟨name, hname, hlookup⟩ => ⟨name, hsub hname, hlookup⟩

mutual
theorem Expression.failure_of_evaluate (e : Expression)
    (h : (e.evaluate (m := Id) lookup).run = .error error) : Failure lookup error e.tokens := by
  match e with
  | .term t => exact Term.failure_of_evaluate t h
  | .plus left right | .minus left right =>
    rw [Expression.tokens]
    rcases error_of_bind h with hleft | ⟨x, h⟩
    · exact (Expression.failure_of_evaluate left hleft).mono (List.subset_append_left _ _)
    rcases error_of_bind h with hright | ⟨y, h⟩
    · exact (Term.failure_of_evaluate right hright).mono
        (List.subset_append_of_subset_right _ (List.subset_cons_self _ _))
    · cases h

theorem Term.failure_of_evaluate (t : Term)
    (h : (t.evaluate (m := Id) lookup).run = .error error) : Failure lookup error t.tokens := by
  match t with
  | .factor f => exact Factor.failure_of_evaluate f h
  | .times left right =>
    rw [Term.tokens]
    rcases error_of_bind h with hleft | ⟨x, h⟩
    · exact (Term.failure_of_evaluate left hleft).mono (List.subset_append_left _ _)
    rcases error_of_bind h with hright | ⟨y, h⟩
    · exact (Factor.failure_of_evaluate right hright).mono
        (List.subset_append_of_subset_right _ (List.subset_cons_self _ _))
    · cases h
  | .divide left right =>
    rw [Term.tokens]
    rcases error_of_bind h with hleft | ⟨x, h⟩
    · exact (Term.failure_of_evaluate left hleft).mono (List.subset_append_left _ _)
    rcases error_of_bind h with hright | ⟨y, h⟩
    · exact (Factor.failure_of_evaluate right hright).mono
        (List.subset_append_of_subset_right _ (List.subset_cons_self _ _))
    split at h
    next =>
      cases h
      exact .inl rfl
    next => cases h

theorem Factor.failure_of_evaluate (f : Factor)
    (h : (f.evaluate (m := Id) lookup).run = .error error) : Failure lookup error f.tokens := by
  match f with
  | .number x => cases h
  | .variable name => exact .inr ⟨name, List.mem_singleton_self _, h⟩
  | .parens e =>
    rw [Factor.tokens]
    exact (Expression.failure_of_evaluate e h).mono
      (List.Subset.trans (List.subset_cons_self _ _) (List.subset_append_left _ _))
end

/-! ### What a number needs -/

lemma exists_of_bind {α β : Type} {x : ExceptT EvaluationError Id α}
    {k : α → ExceptT EvaluationError Id β} {b : β} (h : (x >>= k).run = .ok b) :
    ∃ a, x.run = .ok a ∧ (k a).run = .ok b := by
  rw [run_bind_eq] at h
  split at h
  next a ha => exact ⟨a, ha, h⟩
  next => cases h

mutual
/-- No operand is left out when a tree has a number. -/
theorem Expression.exists_number_of_mem (e : Expression) {x : Float}
    (h : (e.evaluate (m := Id) lookup).run = .ok x) (hname : .variable name ∈ e.tokens) :
    ∃ y, lookup name = .ok y := by
  match e with
  | .term t => exact Term.exists_number_of_mem t h hname
  | .plus left right | .minus left right =>
    obtain ⟨y, hleft, h⟩ := exists_of_bind h
    obtain ⟨z, hright, -⟩ := exists_of_bind h
    rw [Expression.tokens, List.mem_append, List.mem_cons] at hname
    rcases hname with hname | hname | hname
    · exact Expression.exists_number_of_mem left hleft hname
    · cases hname
    · exact Term.exists_number_of_mem right hright hname

theorem Term.exists_number_of_mem (t : Term) {x : Float}
    (h : (t.evaluate (m := Id) lookup).run = .ok x) (hname : .variable name ∈ t.tokens) :
    ∃ y, lookup name = .ok y := by
  match t with
  | .factor f => exact Factor.exists_number_of_mem f h hname
  | .times left right | .divide left right =>
    obtain ⟨y, hleft, h⟩ := exists_of_bind h
    obtain ⟨z, hright, -⟩ := exists_of_bind h
    rw [Term.tokens, List.mem_append, List.mem_cons] at hname
    rcases hname with hname | hname | hname
    · exact Term.exists_number_of_mem left hleft hname
    · cases hname
    · exact Factor.exists_number_of_mem right hright hname

theorem Factor.exists_number_of_mem (f : Factor) {x : Float}
    (h : (f.evaluate (m := Id) lookup).run = .ok x) (hname : .variable name ∈ f.tokens) :
    ∃ y, lookup name = .ok y := by
  match f with
  | .number y =>
    rw [Factor.tokens, List.mem_singleton] at hname
    cases hname
  | .variable other =>
    rw [Factor.tokens, List.mem_singleton, Token.variable.injEq] at hname
    subst hname
    exact ⟨x, h⟩
  | .parens e =>
    rw [Factor.tokens, List.cons_append, List.mem_cons, List.mem_append, List.mem_singleton]
      at hname
    rcases hname with hname | hname | hname
    · cases hname
    · exact Expression.exists_number_of_mem e h hname
    · cases hname
end

/-- A formula has a number only when each of its variables has one. -/
theorem exists_number_of_evaluate {text : String} {naming : Naming} {x : Float}
    (hparse : parse text naming = .ok f) (h : f.evaluate lookup = .ok x)
    (hname : name ∈ f.variableSet) : ∃ y, lookup name = .ok y := by
  obtain ⟨e, he⟩ := exists_tree_of_parse hparse
  refine Expression.exists_number_of_mem e (x := x) ?_ (he ▸ mem_variablesOf.mp hname)
  rw [← evaluateM_of_tokens_eq he]
  exact h

/-! ### How the stacks end -/

/-- The stacks hold one value, or two values and the sum that is still to be applied. -/
def Machine.Complete (machine : Machine) : Prop :=
  (∃ x, machine = ⟨[x], []⟩) ∨
    ∃ x y o, o.isAdditive = true ∧ machine = ⟨[y, x], [.operator o]⟩

lemma Expression.complete_of_leave (h : (e.leave (m := Id) lookup [] []).run = .ok machine) :
    machine.Complete := by
  match e with
  | .term t =>
    obtain ⟨x, hx⟩ := ok_of_bind h
    cases hx
    exact .inl ⟨x, rfl⟩
  | .plus left right =>
    obtain ⟨x, hx⟩ := ok_of_bind h
    obtain ⟨y, hy⟩ := ok_of_bind hx
    cases hy
    exact .inr ⟨x, y, .plus, rfl, rfl⟩
  | .minus left right =>
    obtain ⟨x, hx⟩ := ok_of_bind h
    obtain ⟨y, hy⟩ := ok_of_bind hx
    cases hy
    exact .inr ⟨x, y, .minus, rfl, rfl⟩

end Failure

/-! ### The main statement -/

/-- The formula means the tree: what the two stacks do with its tokens is to evaluate the tree. -/
structure Means (f : Formula) (e : Expression) : Prop where
  tokens_eq : e.tokens = f.tokens
  eq_of_tokens_eq : ∀ e' : Expression, e'.tokens = f.tokens → e' = e
  /-- The same answer after asking for the same names in the same order, whatever asking is. -/
  evaluateM_eq : ∀ {m : Type → Type} [Monad m] [LawfulMonad m]
    (lookup : String → m (Except EvaluationError Float)),
    f.evaluateM lookup = (e.evaluate lookup).run
  evaluateM_congr : ∀ {m : Type → Type} [Monad m]
    (lookup lookup' : String → m (Except EvaluationError Float)),
    (∀ name ∈ f.variableSet, lookup name = lookup' name) →
      f.evaluateM lookup = f.evaluateM lookup'
  asked_mem : ∀ answers, ∀ name ∈ (f.evaluateKeeping answers).2, name ∈ f.variableSet
  /-- No operand is ever lacking: a failure is a division by zero or that of a variable. -/
  failure : ∀ lookup error, f.evaluate lookup = .error error → Failure lookup error f.tokens
  /-- Nothing is left over. -/
  complete : ∀ lookup machine,
    (run (m := Id) lookup .start f.tokens).run = .ok machine → machine.Complete
  /-- What is applied without a look at the outcome cannot fail. -/
  apply_additive : ∀ (o : Operator) (x y : Float), o.isAdditive = true → ∃ z, o.apply x y = .ok z

/-- Every accepted text means a tree. -/
theorem exists_means_of_parse {text : String} {naming : Naming} (h : parse text naming = .ok f) :
    ∃ e : Expression, f.Means e := by
  obtain ⟨e, he⟩ := exists_tree_of_parse h
  refine ⟨e, he, ?_, ?_, ?_, ?_, ?_, ?_, ?_⟩
  · intro e' he'
    exact Expression.tokens_injective (he'.trans he.symm)
  · intro m _ _ lookup
    exact evaluateM_of_tokens_eq he
  · intro m _ lookup lookup' hagree
    exact evaluateM_congr hagree
  · intro answers name hname
    exact mem_variableSet_of_asked hname
  · intro lookup error herror
    rw [← he]
    refine Expression.failure_of_evaluate e ?_
    rw [← evaluateM_of_tokens_eq he]
    exact herror
  · intro lookup machine hmachine
    rw [run_of_tokens_eq he] at hmachine
    exact Expression.complete_of_leave hmachine
  · intro o x y ho
    cases o with
    | plus => exact ⟨x + y, rfl⟩
    | minus => exact ⟨x - y, rfl⟩
    | times | divide => cases ho

theorem means_nested_quotient :
    parse "a-b*(c-a)/b" .free = .ok ⟨[.variable "a", .operator .minus, .variable "b",
      .operator .times, .openParen, .variable "c", .operator .minus, .variable "a", .closeParen,
      .operator .divide, .variable "b"]⟩ ∧
    ∃ e : Expression, Means ⟨[.variable "a", .operator .minus, .variable "b", .operator .times,
      .openParen, .variable "c", .operator .minus, .variable "a", .closeParen, .operator .divide,
      .variable "b"]⟩ e := by
  have hparse : parse "a-b*(c-a)/b" .free = .ok ⟨[.variable "a", .operator .minus, .variable "b",
      .operator .times, .openParen, .variable "c", .operator .minus, .variable "a", .closeParen,
      .operator .divide, .variable "b"]⟩ := by cbv
  exact ⟨hparse, exists_means_of_parse hparse⟩

end Recalc.Formula
