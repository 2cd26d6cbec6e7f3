import Recalc.Proofs.Formula.Value
import Recalc.Proofs.Number.Integers

/-!
# Answers of any kind

Variables may be answered with anything. The evaluation goes on while the answers are numbers, and
any other answer ends it: as a rule with an error as the value of the formula. What breaks the
evaluation off is an answer that escapes: an integer beyond the doubles, an object or an exception
whose own code raises when it is looked at, and an exception that is not meant to be caught.
-/

namespace Recalc.Formula

open Recalc.Number

variable {answers : String → Answer} {name : String} {names asked : List String} {α β : Type}
  {n : Int} {e : Escape}

/-! ### One answer -/

/-- The answers that break an evaluation off, each with what escapes. -/
inductive Answer.Escapes : Answer → Escape → Prop where
  | integer {n : Int} (h : roundingLimit ≤ n.natAbs) : Escapes (.integer n) .integerTooLarge
  | truth {c : Conduct} {e : Escape} (h : c.isTruth = .error e) : Escapes (.object c) e
  | number {c : Conduct} {e : Escape} (h : c.isTruth = .ok false)
      (hnumber : c.isNumber = .error e) : Escapes (.object c) e
  | double {c : Conduct} {e : Escape} (h : c.isTruth = .ok false) (hnumber : c.isNumber = .ok true)
      (hdouble : c.double = .error e) : Escapes (.object c) e
  | telling {e : Escape} : Escapes (.telling (.error e)) e
  | interruption {e : Escape} : Escapes (.interruption e) e

lemma Conduct.resolve_eq_error_iff {c : Conduct} :
    c.resolve name = .error e ↔ (Answer.object c).Escapes e := by
  constructor
  · intro h
    simp only [Conduct.resolve] at h
    cases htruth : c.isTruth with
    | error e' =>
      rw [htruth] at h
      cases h
      exact .truth htruth
    | ok isTruth =>
      cases isTruth with
      | true =>
        rw [htruth] at h
        cases h
      | false =>
        cases hnumber : c.isNumber with
        | error e' =>
          rw [htruth, hnumber] at h
          cases h
          exact .number htruth hnumber
        | ok isNumber =>
          cases isNumber with
          | false =>
            rw [htruth, hnumber] at h
            cases h
          | true =>
            cases hdouble : c.double with
            | error e' =>
              rw [htruth, hnumber, hdouble] at h
              cases h
              exact .double htruth hnumber hdouble
            | ok x =>
              rw [htruth, hnumber, hdouble] at h
              cases h
  · intro h
    cases h with
    | truth h =>
      rw [Conduct.resolve, h]
      rfl
    | number h hnumber =>
      rw [Conduct.resolve, h, hnumber]
      rfl
    | double h hnumber hdouble =>
      rw [Conduct.resolve, h, hnumber, hdouble]
      rfl

/-- An answer is neither a number nor an error just when it escapes. -/
lemma Answer.resolve_eq_error_iff {answer : Answer} :
    answer.resolve name = .error e ↔ answer.Escapes e := by
  cases answer with
  | integer n =>
    rw [Answer.resolve]
    cases hn : ofInt? n with
    | none =>
      have hlimit : roundingLimit ≤ n.natAbs := ofInt?_eq_none_iff.mp hn
      constructor
      · rintro ⟨⟩
        exact .integer hlimit
      · rintro ⟨⟩
        rfl
    | some x =>
      have hlt : ¬roundingLimit ≤ n.natAbs := by simp [← ofInt?_eq_none_iff, hn]
      refine iff_of_false nofun ?_
      rintro ⟨h⟩
      exact hlt h
  | object c => exact Conduct.resolve_eq_error_iff
  | telling detail =>
    cases detail with
    | error e' =>
      constructor
      · rintro ⟨⟩
        exact .telling
      · rintro ⟨⟩
        rfl
    | ok detail => exact iff_of_false nofun nofun
  | interruption e' =>
    constructor
    · rintro ⟨⟩
      exact .interruption
    · rintro ⟨⟩
      rfl
  | number x | other | failure detail => exact iff_of_false nofun nofun

/-! ### All answers up to the end -/

/-- All of the names are answered with numbers. -/
def AllNumbers (answers : String → Answer) (names : List String) : Prop :=
  ∀ name ∈ names, ∃ x, (answers name).resolve name = .ok (.ok x)

/-- How an evaluation ends that has asked for the names, the latest first. Only the latest answer
may be something else than a number. -/
inductive Ends (answers : String → Answer) :
    List String → Except Escape (Except EvaluationError α) → Prop where
  | value {names : List String} (h : AllNumbers answers names) (a : α) :
      Ends answers names (.ok (.ok a))
  | division {names : List String} (h : AllNumbers answers names) :
      Ends answers names (.ok (.error .divisionByZero))
  | failure {names : List String} {name : String} {e : EvaluationError}
      (h : AllNumbers answers names) (hname : (answers name).resolve name = .ok (.error e)) :
      Ends answers (name :: names) (.ok (.error e))
  | escape {names : List String} {name : String} {e : Escape} (h : AllNumbers answers names)
      (hname : (answers name).resolve name = .error e) : Ends answers (name :: names) (.error e)

/-- However much was asked for before, the computation ends in one of the ways. -/
def Asking.AlwaysEnds (answers : String → Answer) (x : Asking α) : Prop :=
  ∀ asked, ∃ names, x.names asked = names ++ asked ∧ Ends answers names (x.run.run.run asked).1

lemma alwaysEnds_pure (a : α) : Asking.AlwaysEnds answers (pure a) :=
  fun _ => ⟨[], rfl, .value (List.forall_mem_nil _) a⟩

lemma alwaysEnds_division : Asking.AlwaysEnds answers (throw .divisionByZero : Asking α) :=
  fun _ => ⟨[], rfl, .division (List.forall_mem_nil _)⟩

lemma alwaysEnds_ask (name : String) :
    Asking.AlwaysEnds answers (ExceptT.mk (askAndKeep answers name)) := by
  intro asked
  refine ⟨[name], names_askAndKeep, ?_⟩
  have houtcome : (ExceptT.mk (askAndKeep answers name) : Asking Float).run.run.run asked =
      ((answers name).resolve name, name :: asked) := by
    rw [ExceptT.run_mk]
    unfold askAndKeep
    cases (answers name).resolve name <;> rfl
  rw [houtcome]
  cases hname : (answers name).resolve name with
  | error e => exact .escape (List.forall_mem_nil _) hname
  | ok found =>
    cases found with
    | error e => exact .failure (List.forall_mem_nil _) hname
    | ok x => exact .value (List.forall_mem_singleton.mpr ⟨x, hname⟩) x

lemma AllNumbers.append {names' : List String} (h : AllNumbers answers names)
    (h' : AllNumbers answers names') : AllNumbers answers (names ++ names') :=
  List.forall_mem_append.mpr ⟨h, h'⟩

/-- After answers that are numbers, an end is an end of the whole. -/
lemma Ends.append {outcome : Except Escape (Except EvaluationError α)} {names' : List String}
    (h : Ends answers names' outcome) (hbefore : AllNumbers answers names) :
    Ends answers (names' ++ names) outcome := by
  cases h with
  | value h a => exact .value (h.append hbefore) a
  | division h => exact .division (h.append hbefore)
  | failure h hname => exact .failure (h.append hbefore) hname
  | escape h hname => exact .escape (h.append hbefore) hname

lemma Asking.AlwaysEnds.bind {x : Asking α} {k : α → Asking β} (hx : x.AlwaysEnds answers)
    (hk : ∀ a, (k a).AlwaysEnds answers) : (x >>= k).AlwaysEnds answers := by
  intro asked
  obtain ⟨names, hnames, hends⟩ := hx asked
  simp only [Asking.names, ExceptT.run_bind, StateT.run_bind] at hnames ⊢
  generalize StateT.run x.run.run asked = found at hnames hends ⊢
  obtain ⟨outcome, asked'⟩ := found
  simp only at hnames hends
  subst hnames
  cases hends with
  | value h a =>
    obtain ⟨names', hnames', hends'⟩ := hk a (names ++ asked)
    refine ⟨names' ++ names, ?_, hends'.append h⟩
    rw [List.append_assoc]
    exact hnames'
  | division h => exact ⟨_, rfl, .division h⟩
  | failure h hname => exact ⟨_, rfl, .failure h hname⟩
  | escape h hname => exact ⟨_, rfl, .escape h hname⟩

/-! ### Trees -/

mutual
theorem Expression.alwaysEnds (e : Expression) :
    Asking.AlwaysEnds answers (e.evaluate (askAndKeep answers)) := by
  match e with
  | .term t => exact Term.alwaysEnds t
  | .plus left right | .minus left right =>
    refine (Expression.alwaysEnds left).bind fun x => ?_
    exact (Term.alwaysEnds right).bind fun y => alwaysEnds_pure _

theorem Term.alwaysEnds (t : Term) :
    Asking.AlwaysEnds answers (t.evaluate (askAndKeep answers)) := by
  match t with
  | .factor f => exact Factor.alwaysEnds f
  | .times left right =>
    refine (Term.alwaysEnds left).bind fun x => ?_
    exact (Factor.alwaysEnds right).bind fun y => alwaysEnds_pure _
  | .divide left right =>
    refine (Term.alwaysEnds left).bind fun x => ?_
    refine (Factor.alwaysEnds right).bind fun y => ?_
    split
    · exact alwaysEnds_division
    · exact alwaysEnds_pure _

theorem Factor.alwaysEnds (f : Factor) :
    Asking.AlwaysEnds answers (f.evaluate (askAndKeep answers)) := by
  match f with
  | .number x => exact alwaysEnds_pure x
  | .variable name => exact alwaysEnds_ask name
  | .parens e => exact Expression.alwaysEnds e
end

/-! ### The main statement -/

lemma AllNumbers.not_escapes (h : AllNumbers answers names) (hname : name ∈ names) :
    ¬(answers name).Escapes e := by
  intro hescapes
  obtain ⟨x, hx⟩ := h name hname
  cases (Answer.resolve_eq_error_iff.mpr hescapes).symm.trans hx

/-- An evaluation is broken off just when an answer escapes. -/
lemma Ends.error_iff {outcome : Except Escape (Except EvaluationError α)}
    (h : Ends answers names outcome) :
    outcome = .error e ↔ ∃ name ∈ names, (answers name).Escapes e := by
  cases h with
  | value h a =>
    refine iff_of_false nofun ?_
    rintro ⟨name, hname, hescapes⟩
    exact h.not_escapes hname hescapes
  | division h =>
    refine iff_of_false nofun ?_
    rintro ⟨name, hname, hescapes⟩
    exact h.not_escapes hname hescapes
  | failure h hfailure =>
    refine iff_of_false nofun ?_
    rintro ⟨name, hname, hescapes⟩
    obtain rfl | hname := List.mem_cons.mp hname
    · cases (Answer.resolve_eq_error_iff.mpr hescapes).symm.trans hfailure
    · exact h.not_escapes hname hescapes
  | escape h hlast =>
    constructor
    · rintro ⟨⟩
      exact ⟨_, List.mem_cons_self, Answer.resolve_eq_error_iff.mp hlast⟩
    · rintro ⟨name, hname, hescapes⟩
      obtain rfl | hname := List.mem_cons.mp hname
      · cases hlast.symm.trans (Answer.resolve_eq_error_iff.mpr hescapes)
        rfl
      · exact absurd hescapes (h.not_escapes hname)

/-- What an evaluation comes to, whatever the answers are. -/
structure Answered (f : Formula) (answers : String → Answer) : Prop where
  asked_mem : ∀ name ∈ (f.evaluateKeeping answers).2, name ∈ f.variableSet
  /-- A number or an error is returned unless an answer escapes. -/
  returns_iff : (∃ found, (f.evaluateKeeping answers).1 = .ok found) ↔
    ∀ name ∈ (f.evaluateKeeping answers).2, ∀ e, ¬(answers name).Escapes e
  /-- What escapes is what the last answer raises. -/
  escapes : ∀ e, (f.evaluateKeeping answers).1 = .error e →
    ∃ name ∈ (f.evaluateKeeping answers).2.getLast?, (answers name).Escapes e
  /-- An error is a division by zero or stands for the last answer. -/
  error : ∀ e, (f.evaluateKeeping answers).1 = .ok (.error e) → e = .divisionByZero ∨
    ∃ name ∈ (f.evaluateKeeping answers).2.getLast?, (answers name).resolve name = .ok (.error e)
  /-- A number comes from numbers. -/
  value : ∀ x, (f.evaluateKeeping answers).1 = .ok (.ok x) →
    AllNumbers answers (f.evaluateKeeping answers).2

lemma ends_of_parse {f : Formula} {text : String} {naming : Naming}
    (h : parse text naming = .ok f) :
    Ends answers (f.evaluateKeeping answers).2.reverse (f.evaluateKeeping answers).1 := by
  obtain ⟨e, he⟩ := exists_tree_of_parse h
  have halways : Asking.AlwaysEnds answers (e.evaluate (askAndKeep answers)) :=
    Expression.alwaysEnds e
  obtain ⟨names, hnames, hends⟩ := halways []
  rw [List.append_nil] at hnames
  subst hnames
  have hkeeping : f.evaluateKeeping answers =
      (((e.evaluate (askAndKeep answers)).run.run.run []).1,
        (Asking.names (e.evaluate (askAndKeep answers)) []).reverse) := by
    rw [evaluateKeeping, evaluateM_of_tokens_eq he]
    rfl
  rw [hkeeping, List.reverse_reverse]
  exact hends

/-- The evaluation of an accepted text returns whatever the answers are, unless one escapes. -/
theorem answered_of_parse {f : Formula} {text : String} {naming : Naming}
    (h : parse text naming = .ok f) (answers : String → Answer) : f.Answered answers := by
  have hends : Ends answers _ _ := ends_of_parse h
  refine ⟨fun name hname => mem_variableSet_of_asked hname, ?_, ?_, ?_, ?_⟩
  · have hreturns : (∃ found, (f.evaluateKeeping answers).1 = .ok found) ↔
        ∀ e, (f.evaluateKeeping answers).1 ≠ .error e := by
      cases (f.evaluateKeeping answers).1 with
      | error e => exact iff_of_false nofun fun h => h e rfl
      | ok found => exact iff_of_true ⟨found, rfl⟩ nofun
    rw [hreturns]
    simp only [ne_eq, hends.error_iff, List.mem_reverse]
    push Not
    exact forall_comm.trans (forall_congr' fun name => forall_comm)
  · intro e he
    rw [he] at hends
    rw [← List.head?_reverse]
    generalize (f.evaluateKeeping answers).2.reverse = names at hends
    cases hends with
    | escape h hname => exact ⟨_, rfl, Answer.resolve_eq_error_iff.mp hname⟩
  · intro e he
    rw [he] at hends
    rw [← List.head?_reverse]
    generalize (f.evaluateKeeping answers).2.reverse = names at hends
    cases hends with
    | division h => exact .inl rfl
    | failure h hname => exact .inr ⟨_, rfl, hname⟩
  · intro x hx
    rw [hx] at hends
    generalize hnames : (f.evaluateKeeping answers).2.reverse = names at hends
    cases hends with
    | value h =>
      intro name hname
      refine h name ?_
      rw [← hnames]
      exact List.mem_reverse.mpr hname

/-- One answer is no number, and the other is never asked for. -/
theorem answered_quotient :
    parse "a/b" .free = .ok ⟨[.variable "a", .operator .divide, .variable "b"]⟩ ∧
    Answered ⟨[.variable "a", .operator .divide, .variable "b"]⟩
      fun name => if name = "a" then .other else .integer (2 ^ 2000) := by
  have hparse : parse "a/b" .free =
      .ok ⟨[.variable "a", .operator .divide, .variable "b"]⟩ := by cbv
  exact ⟨hparse, answered_of_parse hparse _⟩

/-- The doubles end before this power of two. -/
theorem not_returns_power :
    parse "a" .free = .ok ⟨[.variable "a"]⟩ ∧
    ¬∃ found, (evaluateKeeping ⟨[.variable "a"]⟩ fun _ => .integer (twoTo 1024)).1 =
      .ok found := by
  refine ⟨by cbv, ?_⟩
  have hnone : ofInt? (twoTo 1024) = none := ofInt?_eq_none_iff.mpr (by decide +kernel)
  rintro ⟨found, hfound⟩
  have herror : (evaluateKeeping ⟨[.variable "a"]⟩ fun _ => .integer (twoTo 1024)).1 =
      .error .integerTooLarge := by
    have hask : askAndKeep (fun _ => .integer (twoTo 1024)) "a" =
        (do modify ("a" :: ·); throw .integerTooLarge) := by
      rw [askAndKeep, Answer.resolve, hnone]
    simp only [evaluateKeeping, evaluateM, run, List.foldlM_cons, step, hask]
    rfl
  cases herror.symm.trans hfound

end Recalc.Formula
