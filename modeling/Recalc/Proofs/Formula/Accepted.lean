import Mathlib.Tactic.Common
import Recalc.Formula.Parse
import Recalc.Proofs.Formula.Tree

/-!
# Accepted tokens

The tokens of an accepted text are well placed: each stands where its predecessor and the number of
open parentheses allow it. Well-placed tokens are the tokens of a tree, and their variables are
accepted normal forms.
-/

namespace Recalc.Formula

variable {naming : Naming} {fault : Option (Char × Nat)} {previous : Option LexemeKind}
  {depth depth' : Nat} {l : Lexeme} {ls : List Lexeme} {token : Token} {ts rest : List Token}

/-- The tokens may follow where an operand is awaited, or not, inside `depth` parentheses. -/
inductive WellPlaced : Bool → Nat → List Token → Prop where
  | finish : WellPlaced false 0 []
  | openParen {depth : Nat} {rest : List Token} (h : WellPlaced true (depth + 1) rest) :
      WellPlaced true depth (.openParen :: rest)
  | closeParen {depth : Nat} {rest : List Token} (h : WellPlaced false depth rest) :
      WellPlaced false (depth + 1) (.closeParen :: rest)
  | operator {depth : Nat} {rest : List Token} (o : Operator) (h : WellPlaced true depth rest) :
      WellPlaced false depth (.operator o :: rest)
  | variable {depth : Nat} {rest : List Token} (name : String) (h : WellPlaced false depth rest) :
      WellPlaced true depth (.variable name :: rest)
  | number {depth : Nat} {rest : List Token} (x : Float) (h : WellPlaced false depth rest) :
      WellPlaced true depth (.number x :: rest)

/-- Whether an operand is awaited after a lexeme of this kind, or at the start. -/
def awaiting : Option LexemeKind → Bool
  | none => true
  | some kind => kind.awaitsOperand

/-! ### Accepted tokens are well placed -/

lemma exists_of_map_eq_ok {ε α β : Type} {x : Except ε α} {f : α → β} {b : β}
    (h : x.map f = .ok b) : ∃ a, x = .ok a ∧ f a = b := by
  cases x with
  | ok a =>
    cases h
    exact ⟨a, rfl, rfl⟩
  | error e => cases h

lemma tokensFrom_cons_ok (h : tokensFrom naming fault previous depth (l :: ls) = .ok ts) :
    ∃ token depth' more, checkPlace previous l = .ok () ∧
      convert naming depth l = .ok (token, depth') ∧
      tokensFrom naming fault (some l.kind) depth' ls = .ok more ∧ ts = token :: more := by
  rw [tokensFrom] at h
  cases hplace : checkPlace previous l with
  | error e =>
    rw [hplace] at h
    cases h
  | ok u =>
    cases hconvert : convert naming depth l with
    | error e =>
      rw [hplace, hconvert] at h
      cases h
    | ok pair =>
      obtain ⟨token, depth'⟩ := pair
      cases hmore : tokensFrom naming fault (some l.kind) depth' ls with
      | error e =>
        rw [hplace, hconvert] at h
        simp only [bind, Except.bind, hmore] at h
        cases h
      | ok more =>
        rw [hplace, hconvert] at h
        simp only [bind, Except.bind, hmore] at h
        cases h
        exact ⟨token, depth', more, rfl, rfl, hmore, rfl⟩

lemma checkPlace_ok_iff : checkPlace previous l = .ok () ↔
    l.kind.beginsOperand = awaiting previous := by
  unfold checkPlace awaiting
  cases previous with
  | none => cases l.kind.beginsOperand <;> simp
  | some kind => cases kind.awaitsOperand <;> cases l.kind.beginsOperand <;> simp

lemma variableToken_ok {name : String} (h : variableToken naming name = .ok token) :
    ∃ normal, token = .variable normal ∧ isName normal = true ∧ naming.accepts normal = true := by
  simp only [variableToken] at h
  split at h
  next => cases h
  next hname =>
    split at h
    next => cases h
    next haccepts =>
      cases h
      exact ⟨_, rfl, by simpa using hname, by simpa using haccepts⟩

lemma numberToken_ok (h : numberToken l = .ok token) : ∃ x, token = .number x := by
  unfold numberToken at h
  split at h
  next x _ =>
    split at h
    next => exact ⟨x, by cases h; rfl⟩
    next => cases h
  next => cases h

lemma WellPlaced.of_convert (h : convert naming depth l = .ok (token, depth'))
    (hrest : WellPlaced l.kind.awaitsOperand depth' rest) :
    WellPlaced l.kind.beginsOperand depth (token :: rest) := by
  unfold convert at h
  cases hkind : l.kind with
  | openParen =>
    rw [hkind] at h hrest
    cases h
    exact .openParen hrest
  | closeParen =>
    rw [hkind] at h hrest
    cases depth with
    | zero => cases h
    | succ depth =>
      cases h
      exact .closeParen hrest
  | operator =>
    rw [hkind] at h hrest
    simp only at h
    split at h
    next c hc =>
      split at h
      next o ho =>
        cases h
        exact .operator o hrest
      next => cases h
    next => cases h
  | name =>
    rw [hkind] at h hrest
    obtain ⟨t, ht, heq⟩ := exists_of_map_eq_ok h
    obtain ⟨normal, rfl, -, -⟩ := variableToken_ok ht
    cases heq
    exact .variable normal hrest
  | number =>
    rw [hkind] at h hrest
    obtain ⟨t, ht, heq⟩ := exists_of_map_eq_ok h
    obtain ⟨x, rfl⟩ := numberToken_ok ht
    cases heq
    exact .number x hrest

theorem wellPlaced_of_tokensFrom (h : tokensFrom naming fault previous depth ls = .ok ts) :
    WellPlaced (awaiting previous) depth ts := by
  induction ls generalizing previous depth ts with
  | nil =>
    cases fault with
    | some found => cases h
    | none =>
      obtain ⟨u, hend, rfl⟩ := exists_of_map_eq_ok h
      cases previous with
      | none => cases hend
      | some kind =>
        simp only [checkEnd] at hend
        split at hend
        next => cases hend
        next hawaits =>
          split at hend
          next => cases hend
          next hdepth =>
            rw [Bool.not_eq_true] at hawaits
            rw [not_not] at hdepth
            rw [awaiting, hawaits, hdepth]
            exact .finish
  | cons l ls ih =>
    obtain ⟨token, depth', more, hplace, hconvert, hmore, rfl⟩ := tokensFrom_cons_ok h
    rw [← checkPlace_ok_iff.mp hplace]
    exact .of_convert hconvert (ih hmore)

/-! ### Well-placed tokens are the tokens of a tree -/

/-- What follows an expression: the end, or the parenthesis that closes it. -/
def AfterExpression : Nat → List Token → Prop
  | 0, rest => rest = []
  | depth + 1, rest => ∃ more, rest = .closeParen :: more ∧ WellPlaced false depth more

/-- The expression with a further operator and operand; a product takes them into its last term. -/
def Expression.extend (e : Expression) (o : Operator) (f : Factor) : Expression :=
  match o, e with
  | .plus, e => .plus e (.factor f)
  | .minus, e => .minus e (.factor f)
  | .times, .term t => .term (.times t f)
  | .times, .plus left right => .plus left (.times right f)
  | .times, .minus left right => .minus left (.times right f)
  | .divide, .term t => .term (.divide t f)
  | .divide, .plus left right => .plus left (.divide right f)
  | .divide, .minus left right => .minus left (.divide right f)

lemma Expression.tokens_extend (e : Expression) (o : Operator) (f : Factor) :
    (e.extend o f).tokens = e.tokens ++ .operator o :: f.tokens := by
  cases o <;> cases e <;> simp [Expression.extend, Expression.tokens, Term.tokens]

mutual
/-- Where an operand is awaited, the tokens of a factor begin. -/
theorem exists_factor {depth : Nat} {ts : List Token} (h : WellPlaced true depth ts) :
    ∃ (f : Factor) (rest : List Token), ts = f.tokens ++ rest ∧ WellPlaced false depth rest ∧
      rest.length < ts.length := by
  match h with
  | .number x h => exact ⟨.number x, _, rfl, h, by simp⟩
  | .variable name h => exact ⟨.variable name, _, rfl, h, by simp⟩
  | .openParen h =>
    obtain ⟨f, r, rfl, hr, hlt⟩ := exists_factor h
    obtain ⟨e, r', heq, ⟨more, rfl, hmore⟩, hle⟩ := exists_expression hr (.term (.factor f))
    refine ⟨.parens e, more, ?_, hmore, ?_⟩
    · simp only [Expression.tokens, Term.tokens] at heq
      simp [Factor.tokens, heq]
    · simp only [List.length_cons] at hlt hle ⊢
      omega
termination_by ts.length

/-- An expression that has begun goes on until its end or its closing parenthesis. -/
theorem exists_expression {depth : Nat} {ts : List Token} (h : WellPlaced false depth ts)
    (e : Expression) :
    ∃ (e' : Expression) (rest : List Token), e.tokens ++ ts = e'.tokens ++ rest ∧
      AfterExpression depth rest ∧ rest.length ≤ ts.length := by
  match h with
  | .finish => exact ⟨e, [], rfl, rfl, Nat.le_refl _⟩
  | .closeParen h => exact ⟨e, _, rfl, ⟨_, rfl, h⟩, Nat.le_refl _⟩
  | .operator o h =>
    obtain ⟨f, r, rfl, hr, hlt⟩ := exists_factor h
    obtain ⟨e', r', heq, hafter, hle⟩ := exists_expression hr (e.extend o f)
    refine ⟨e', r', ?_, hafter, ?_⟩
    · rw [← heq, e.tokens_extend, List.append_assoc, List.cons_append]
    · simp only [List.length_cons] at hlt hle ⊢
      omega
termination_by ts.length
end

theorem exists_tree_of_wellPlaced (h : WellPlaced true 0 ts) :
    ∃ e : Expression, e.tokens = ts := by
  obtain ⟨f, rest, rfl, hrest, -⟩ := exists_factor h
  obtain ⟨e, rest', heq, rfl, -⟩ := exists_expression hrest (.term (.factor f))
  rw [List.append_nil] at heq
  exact ⟨e, heq.symm⟩

/-! ### The variables of accepted tokens -/

lemma mem_variablesOf {name : String} : name ∈ variablesOf ts ↔ .variable name ∈ ts := by
  induction ts with
  | nil => simp [variablesOf]
  | cons token ts ih =>
    match token with
    | .variable other =>
      rw [variablesOf, Std.ExtTreeSet.mem_insert, Std.LawfulEqCmp.compare_eq_iff_eq, ih]
      simp [@eq_comm _ other name]
    | .openParen | .closeParen | .operator _ | .number _ => simp [variablesOf, ih]

lemma variable_of_convert {name : String}
    (h : convert naming depth l = .ok (.variable name, depth')) :
    isName name = true ∧ naming.accepts name = true := by
  unfold convert at h
  split at h
  next => cases h
  next => split at h <;> cases h
  next => repeat' split at h <;> first | cases h | skip
  next =>
    obtain ⟨t, ht, heq⟩ := exists_of_map_eq_ok h
    obtain ⟨normal, rfl, hname, haccepts⟩ := variableToken_ok ht
    cases heq
    exact ⟨hname, haccepts⟩
  next =>
    obtain ⟨t, ht, heq⟩ := exists_of_map_eq_ok h
    obtain ⟨x, rfl⟩ := numberToken_ok ht
    cases heq

/-- The variables of an accepted text are accepted normal forms. -/
theorem variable_of_tokensFrom {name : String}
    (h : tokensFrom naming fault previous depth ls = .ok ts) (hmem : .variable name ∈ ts) :
    isName name = true ∧ naming.accepts name = true := by
  induction ls generalizing previous depth ts with
  | nil =>
    cases fault with
    | some found => cases h
    | none =>
      obtain ⟨u, -, rfl⟩ := exists_of_map_eq_ok h
      cases hmem
  | cons l ls ih =>
    obtain ⟨token, depth', more, -, hconvert, hmore, rfl⟩ := tokensFrom_cons_ok h
    rcases List.mem_cons.mp hmem with rfl | hmem
    · exact variable_of_convert hconvert
    · exact ih hmore hmem

/-! ### Reading a text -/

variable {text : String} {f : Formula}

lemma tokensFrom_of_parse (h : parse text naming = .ok f) :
    tokensFrom naming (scan text).fault none 0 (scan text).lexemes = .ok f.tokens := by
  obtain ⟨ts, hts, rfl⟩ := exists_of_map_eq_ok h
  exact hts

theorem exists_tree_of_parse (h : parse text naming = .ok f) :
    ∃ e : Expression, e.tokens = f.tokens :=
  exists_tree_of_wellPlaced (wellPlaced_of_tokensFrom (tokensFrom_of_parse h))

theorem variable_of_parse {name : String} (h : parse text naming = .ok f)
    (hname : name ∈ f.variableSet) : isName name = true ∧ naming.accepts name = true :=
  variable_of_tokensFrom (tokensFrom_of_parse h) (mem_variablesOf.mp hname)

end Recalc.Formula
