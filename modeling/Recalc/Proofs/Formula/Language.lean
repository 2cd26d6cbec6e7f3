import Mathlib.Data.List.Forall2
import Recalc.Proofs.Formula.Accepted
import Recalc.Proofs.Formula.Splitting

/-!
# The language of formulas

A text is a formula when it splits into lexemes that form an expression, its numbers are finite and
its variables are accepted. The checks of neighbours and of the depth of parentheses, made in one
pass, let through exactly these texts, and every lexeme becomes its canonical token.
-/

namespace Recalc.Formula

open Recalc.Number

mutual
/-- Operands with operators between them. -/
inductive IsExpression : List LexemeKind → Prop where
  | operand {ks : List LexemeKind} (h : IsOperand ks) : IsExpression ks
  | operator {ks ks' : List LexemeKind} (h : IsExpression ks) (h' : IsOperand ks') :
      IsExpression (ks ++ .operator :: ks')

/-- A number, a variable or an expression in parentheses. -/
inductive IsOperand : List LexemeKind → Prop where
  | number : IsOperand [.number]
  | name : IsOperand [.name]
  | parens {ks : List LexemeKind} (h : IsExpression ks) :
      IsOperand (.openParen :: ks ++ [.closeParen])
end

/-- The canonical token of a lexeme: a number by its value, a variable by its normal form. -/
inductive Gives (naming : Naming) : Lexeme → Token → Prop where
  | openParen (p : Position) : Gives naming ⟨.openParen, ['('], p⟩ .openParen
  | closeParen (p : Position) : Gives naming ⟨.closeParen, [')'], p⟩ .closeParen
  | operator (o : Operator) (p : Position) : Gives naming ⟨.operator, [o.symbol], p⟩ (.operator o)
  | variable {chars : List Char} {normal : String} (p : Position)
      (h : naming.canonical? (String.ofList chars) = some normal) :
      Gives naming ⟨.name, chars, p⟩ (.variable normal)
  | number {chars : List Char} {x : Float} (p : Position) (h : readSigned? chars = some x)
      (hx : isFinite x = true) : Gives naming ⟨.number, chars, p⟩ (.number x)

/-- The kind of the lexemes that give a token. -/
def kindOf : Token → LexemeKind
  | .openParen => .openParen
  | .closeParen => .closeParen
  | .operator _ => .operator
  | .variable _ => .name
  | .number _ => .number

variable {naming : Naming} {previous : Option LexemeKind} {fault : Option (Char × Nat)}
  {depth depth' : Nat} {l : Lexeme} {ls : List Lexeme} {token : Token} {ts rest : List Token}
  {ks ks' : List LexemeKind}

/-! ### The token of a lexeme -/

lemma canonical?_eq_some_iff {name normal : String} : naming.canonical? name = some normal ↔
    naming.normalize name = normal ∧ isName normal = true ∧ naming.accepts normal = true := by
  simp only [Naming.canonical?, Option.ite_none_right_eq_some, Option.some.injEq, Bool.and_eq_true]
  constructor
  · rintro ⟨haccepted, rfl⟩
    exact ⟨rfl, haccepted⟩
  · rintro ⟨rfl, haccepted⟩
    exact ⟨haccepted, rfl⟩

lemma variableToken_ok_iff {name : String} : variableToken naming name = .ok token ↔
    ∃ normal, naming.canonical? name = some normal ∧ token = .variable normal := by
  simp only [canonical?_eq_some_iff, variableToken]
  constructor
  · intro h
    split at h
    next => cases h
    next hname =>
      split at h
      next => cases h
      next haccepts =>
        cases h
        exact ⟨_, ⟨rfl, by simpa using hname, by simpa using haccepts⟩, rfl⟩
  · rintro ⟨normal, ⟨rfl, hname, haccepts⟩, rfl⟩
    simp [hname, haccepts]

lemma numberToken_ok_iff : numberToken l = .ok token ↔
    ∃ x, readSigned? l.chars = some x ∧ isFinite x = true ∧ token = .number x := by
  unfold numberToken
  constructor
  · intro h
    split at h
    next x hx =>
      split at h
      next hfinite =>
        cases h
        exact ⟨x, hx, hfinite, rfl⟩
      next => cases h
    next => cases h
  · rintro ⟨x, hx, hfinite, rfl⟩
    simp only [hx, if_pos hfinite]

lemma ofSymbol?_eq_some_iff {c : Char} {o : Operator} :
    Operator.ofSymbol? c = some o ↔ c = o.symbol := by
  constructor
  · intro h
    unfold Operator.ofSymbol? at h
    split at h <;> cases h <;> rfl
  · rintro rfl
    cases o <;> rfl

/-- What a lexeme is converted into is its canonical token. -/
lemma gives_of_convert (hspells : l.kind.Spells l.chars)
    (h : convert naming depth l = .ok (token, depth')) : Gives naming l token := by
  obtain ⟨kind, chars, p⟩ := l
  cases kind with
  | openParen =>
    obtain rfl : chars = ['('] := hspells
    cases h
    exact .openParen p
  | closeParen =>
    obtain rfl : chars = [')'] := hspells
    cases depth with
    | zero => cases h
    | succ depth =>
      cases h
      exact .closeParen p
  | operator =>
    obtain ⟨c, -, rfl⟩ : ∃ c, isOperator c = true ∧ chars = [c] := hspells
    simp only [convert] at h
    split at h
    next o ho =>
      cases h
      obtain rfl := ofSymbol?_eq_some_iff.mp ho
      exact .operator o p
    next => cases h
  | name =>
    obtain ⟨t, ht, heq⟩ := exists_of_map_eq_ok h
    obtain ⟨normal, hnormal, rfl⟩ := variableToken_ok_iff.mp ht
    cases heq
    exact .variable p hnormal
  | number =>
    obtain ⟨t, ht, heq⟩ := exists_of_map_eq_ok h
    obtain ⟨x, hx, hfinite, rfl⟩ := numberToken_ok_iff.mp ht
    cases heq
    exact .number p hx hfinite

/-- A lexeme whose token is well placed is converted. -/
lemma convert_of_gives (hl : Gives naming l token) {awaited : Bool}
    (h : WellPlaced awaited depth (token :: rest)) :
    l.kind.beginsOperand = awaited ∧ ∃ depth', convert naming depth l = .ok (token, depth') ∧
      WellPlaced l.kind.awaitsOperand depth' rest := by
  cases hl with
  | openParen p =>
    cases h with
    | openParen h => exact ⟨rfl, depth + 1, rfl, h⟩
  | closeParen p =>
    cases h with
    | closeParen h => exact ⟨rfl, _, rfl, h⟩
  | operator o p =>
    cases h with
    | operator o h =>
      refine ⟨rfl, depth, ?_, h⟩
      simp only [convert, ofSymbol?_eq_some_iff.mpr rfl]
  | «variable» p hname =>
    cases h with
    | «variable» name h =>
      refine ⟨rfl, depth, ?_, h⟩
      simp only [convert, Lexeme.text, variableToken_ok_iff.mpr ⟨_, hname, rfl⟩]
      rfl
  | number p hx hfinite =>
    cases h with
    | number x h =>
      refine ⟨rfl, depth, ?_, h⟩
      have htoken : numberToken ⟨.number, _, p⟩ = .ok _ :=
        numberToken_ok_iff.mpr ⟨_, hx, hfinite, rfl⟩
      simp only [convert, htoken]
      rfl

lemma Gives.kind_eq (h : Gives naming l token) : l.kind = kindOf token := by
  cases h <;> rfl

/-! ### The tokens of an accepted text -/

lemma fault_of_tokensFrom_ok (h : tokensFrom naming fault previous depth ls = .ok ts) :
    fault = none := by
  induction ls generalizing previous depth ts with
  | nil =>
    cases fault with
    | none => rfl
    | some found => cases h
  | cons l ls ih =>
    obtain ⟨token, depth', more, -, -, hmore, -⟩ := tokensFrom_cons_ok h
    exact ih hmore

lemma gives_of_tokensFrom (hspells : ∀ l ∈ ls, l.kind.Spells l.chars)
    (h : tokensFrom naming fault previous depth ls = .ok ts) :
    List.Forall₂ (Gives naming) ls ts := by
  induction ls generalizing previous depth ts with
  | nil =>
    cases fault with
    | none =>
      obtain ⟨u, -, rfl⟩ := exists_of_map_eq_ok h
      exact .nil
    | some found => cases h
  | cons l ls ih =>
    obtain ⟨token, depth', more, -, hconvert, hmore, rfl⟩ := tokensFrom_cons_ok h
    obtain ⟨hl, hls⟩ := List.forall_mem_cons.mp hspells
    exact .cons (gives_of_convert hl hconvert) (ih hls hmore)

/-- Lexemes are accepted when their tokens are well placed. -/
lemma tokensFrom_of_wellPlaced (hgives : List.Forall₂ (Gives naming) ls ts)
    (h : WellPlaced (awaiting previous) depth ts) :
    tokensFrom naming none previous depth ls = .ok ts := by
  induction hgives generalizing previous depth with
  | nil =>
    cases previous with
    | none => cases h
    | some kind =>
      rw [awaiting] at h
      generalize hawaits : kind.awaitsOperand = awaits at h
      cases h
      simp [tokensFrom, checkEnd, hawaits, Except.map]
  | cons hl hls ih =>
    obtain ⟨hplace, depth', hconvert, hrest⟩ := convert_of_gives hl h
    have hmore := @ih (some _) depth' hrest
    rw [tokensFrom, checkPlace_ok_iff.mpr hplace, hconvert]
    simp only [bind, Except.bind, hmore]
    rfl

/-! ### Expressions -/

lemma IsExpression.append {ks ks' : List LexemeKind} (h : IsExpression ks)
    (h' : IsExpression ks') : IsExpression (ks ++ .operator :: ks') := by
  match h' with
  | .operand h' => exact .operator h h'
  | .operator h₁ h₂ =>
    have happend := (h.append h₁).operator h₂
    rwa [List.append_assoc] at happend

mutual
/-- The tokens of a tree form an expression. -/
theorem Expression.isExpression (e : Expression) : IsExpression (e.tokens.map kindOf) := by
  match e with
  | .term t => exact t.isExpression
  | .plus left right | .minus left right =>
    simpa [Expression.tokens, kindOf] using left.isExpression.append right.isExpression

theorem Term.isExpression (t : Term) : IsExpression (t.tokens.map kindOf) := by
  match t with
  | .factor f => exact .operand f.isOperand
  | .times left right | .divide left right =>
    simpa [Term.tokens, kindOf] using left.isExpression.operator right.isOperand

theorem Factor.isOperand (f : Factor) : IsOperand (f.tokens.map kindOf) := by
  match f with
  | .number x => exact .number
  | .variable name => exact .name
  | .parens e => simpa [Factor.tokens, kindOf] using IsOperand.parens e.isExpression
end

mutual
/-- Where an operand is awaited, the tokens of an expression may follow. -/
theorem IsExpression.wellPlaced {ks : List LexemeKind} (h : IsExpression ks)
    {ts rest : List Token} {depth : Nat} (hts : ts.map kindOf = ks)
    (hrest : WellPlaced false depth rest) : WellPlaced true depth (ts ++ rest) := by
  match h with
  | .operand h => exact h.wellPlaced hts hrest
  | .operator h h' =>
    obtain ⟨left, others, rfl, hleft, hothers⟩ := List.map_eq_append_iff.mp hts
    obtain ⟨t, right, rfl, ht, hright⟩ := List.map_eq_cons_iff.mp hothers
    rw [List.append_assoc, List.cons_append]
    apply h.wellPlaced hleft
    cases t with
    | operator o => exact .operator o (h'.wellPlaced hright hrest)
    | _ => cases ht

theorem IsOperand.wellPlaced {ks : List LexemeKind} (h : IsOperand ks)
    {ts rest : List Token} {depth : Nat} (hts : ts.map kindOf = ks)
    (hrest : WellPlaced false depth rest) : WellPlaced true depth (ts ++ rest) := by
  match h with
  | .number =>
    obtain ⟨t, rfl, ht⟩ := List.map_eq_singleton_iff.mp hts
    cases t with
    | number x => exact .number x hrest
    | _ => cases ht
  | .name =>
    obtain ⟨t, rfl, ht⟩ := List.map_eq_singleton_iff.mp hts
    cases t with
    | «variable» name => exact .variable name hrest
    | _ => cases ht
  | .parens h =>
    obtain ⟨others, last, rfl, hothers, hlast⟩ := List.map_eq_append_iff.mp hts
    obtain ⟨t, inside, rfl, ht, hinside⟩ := List.map_eq_cons_iff.mp hothers
    obtain ⟨t', rfl, ht'⟩ := List.map_eq_singleton_iff.mp hlast
    rw [List.append_assoc, List.cons_append]
    cases t with
    | openParen =>
      cases t' with
      | closeParen => exact .openParen (h.wellPlaced hinside (.closeParen hrest))
      | _ => cases ht'
    | _ => cases ht
end

/-! ### Accepted texts -/

lemma Splits.spells {p : Position} {cs : List Char} (h : Splits p cs ls) :
    ∀ l ∈ ls, l.kind.Spells l.chars := by
  induction h with
  | nil p => simp
  | separator hc h ih => exact ih
  | lexeme hlexes h ih => exact List.forall_mem_cons.mpr ⟨hlexes.spells, ih⟩

lemma map_kind_eq (h : List.Forall₂ (Gives naming) ls ts) :
    ls.map Lexeme.kind = ts.map kindOf := by
  induction h with
  | nil => rfl
  | cons hl hls ih => rw [List.map_cons, List.map_cons, hl.kind_eq, ih]

/-- A text is read as a formula exactly when it splits into an expression, and the tokens of the
formula are those of the lexemes. -/
theorem parse_ok_iff {text : String} {f : Formula} : parse text naming = .ok f ↔
    ∃ ls, Splits .start text.toList ls ∧ IsExpression (ls.map Lexeme.kind) ∧
      List.Forall₂ (Gives naming) ls f.tokens := by
  constructor
  · intro h
    have htokens := tokensFrom_of_parse h
    have hsplits : Splits .start text.toList (scan text).lexemes := by
      rw [splits_iff_scan, ← fault_of_tokensFrom_ok htokens]
    have hgives := gives_of_tokensFrom hsplits.spells htokens
    obtain ⟨e, he⟩ := exists_tree_of_parse h
    refine ⟨_, hsplits, ?_, hgives⟩
    rw [map_kind_eq hgives, ← he]
    exact e.isExpression
  · rintro ⟨ls, hsplits, hexpression, hgives⟩
    have hplaced := hexpression.wellPlaced (map_kind_eq hgives).symm .finish
    rw [List.append_nil] at hplaced
    rw [parse, splits_iff_scan.mp hsplits]
    have htokens : tokensFrom naming none none 0 ls = .ok f.tokens :=
      tokensFrom_of_wellPlaced hgives hplaced
    simp only [htokens]
    rfl

/-! ### Texts of formulas -/

/-- The text splits into an expression of finite numbers and of variables with accepted normal
forms. -/
def IsFormulaText (naming : Naming) (text : String) : Prop :=
  ∃ ls, Splits .start text.toList ls ∧ IsExpression (ls.map Lexeme.kind) ∧
    (∀ l ∈ ls, l.kind = .number → ∃ x, readSigned? l.chars = some x ∧ isFinite x = true) ∧
    ∀ l ∈ ls, l.kind = .name →
      isName (naming.normalize l.text) = true ∧ naming.accepts (naming.normalize l.text) = true

/-- The canonical text of a lexeme: that of the value of a number, and the normal form of a
variable. -/
def canonicalText (naming : Naming) (l : Lexeme) : String :=
  match l.kind with
  | .name => naming.normalize l.text
  | .number => ((readSigned? l.chars).map plainText).getD l.text
  | _ => l.text

lemma Gives.text_eq (h : Gives naming l token) : token.text = canonicalText naming l := by
  cases h with
  | openParen p => rfl
  | closeParen p => rfl
  | operator o p => cases o <;> rfl
  | «variable» p h => exact (canonical?_eq_some_iff.mp h).1.symm
  | number p h hx => simp only [Token.text, canonicalText, h, Option.map_some, Option.getD_some]

lemma map_text_eq (h : List.Forall₂ (Gives naming) ls ts) :
    ts.map Token.text = ls.map (canonicalText naming) := by
  induction h with
  | nil => rfl
  | cons hl hls ih => rw [List.map_cons, List.map_cons, hl.text_eq, ih]

lemma exists_gives (hspells : l.kind.Spells l.chars)
    (hnumber : l.kind = .number → ∃ x, readSigned? l.chars = some x ∧ isFinite x = true)
    (hname : l.kind = .name →
      isName (naming.normalize l.text) = true ∧ naming.accepts (naming.normalize l.text) = true) :
    ∃ token, Gives naming l token := by
  obtain ⟨kind, chars, p⟩ := l
  cases kind with
  | openParen =>
    obtain rfl : chars = ['('] := hspells
    exact ⟨_, .openParen p⟩
  | closeParen =>
    obtain rfl : chars = [')'] := hspells
    exact ⟨_, .closeParen p⟩
  | operator =>
    obtain ⟨c, hc, rfl⟩ : ∃ c, isOperator c = true ∧ chars = [c] := hspells
    simp only [isOperator, Bool.or_eq_true, decide_eq_true_eq] at hc
    rcases hc with ((rfl | rfl) | rfl) | rfl
    · exact ⟨_, .operator .plus p⟩
    · exact ⟨_, .operator .minus p⟩
    · exact ⟨_, .operator .times p⟩
    · exact ⟨_, .operator .divide p⟩
  | name => exact ⟨_, .variable p (canonical?_eq_some_iff.mpr ⟨rfl, hname rfl⟩)⟩
  | number =>
    obtain ⟨x, hx, hfinite⟩ := hnumber rfl
    exact ⟨_, .number p hx hfinite⟩

lemma exists_forall₂_gives (h : ∀ l ∈ ls, ∃ token, Gives naming l token) :
    ∃ ts, List.Forall₂ (Gives naming) ls ts := by
  induction ls with
  | nil => exact ⟨[], .nil⟩
  | cons l ls ih =>
    obtain ⟨⟨token, hl⟩, hls⟩ := List.forall_mem_cons.mp h
    obtain ⟨ts, hts⟩ := ih hls
    exact ⟨token :: ts, .cons hl hts⟩

/-- What the tokens of lexemes require is required of every lexeme. -/
lemma gives_requires (h : List.Forall₂ (Gives naming) ls ts) :
    (∀ l ∈ ls, l.kind = .number → ∃ x, readSigned? l.chars = some x ∧ isFinite x = true) ∧
    ∀ l ∈ ls, l.kind = .name →
      isName (naming.normalize l.text) = true ∧
        naming.accepts (naming.normalize l.text) = true := by
  induction h with
  | nil => simp
  | @cons l token ls ts hl hls ih =>
    rw [List.forall_mem_cons, List.forall_mem_cons]
    refine ⟨⟨fun hkind => ?_, ih.1⟩, fun hkind => ?_, ih.2⟩
    · cases hl with
      | number p hx hfinite => exact ⟨_, hx, hfinite⟩
      | _ => cases hkind
    · cases hl with
      | «variable» p hname =>
        obtain ⟨rfl, haccepted⟩ := canonical?_eq_some_iff.mp hname
        exact haccepted
      | _ => cases hkind

lemma variable_mem_iff (h : List.Forall₂ (Gives naming) ls ts) {u : String} :
    .variable u ∈ ts ↔ ∃ l ∈ ls, l.kind = .name ∧ naming.normalize l.text = u := by
  induction h with
  | nil => simp
  | cons hl hls ih =>
    simp only [List.mem_cons, exists_eq_or_imp, ih]
    apply or_congr_left
    cases hl with
    | «variable» p hname =>
      obtain ⟨rfl, -⟩ := canonical?_eq_some_iff.mp hname
      simp [Lexeme.text, eq_comm]
    | _ => simp

/-- Exactly the texts of formulas are read, and every lexeme becomes its canonical token. -/
theorem parse_language (text : String) (naming : Naming) :
    ((∃ f, parse text naming = .ok f) ↔ IsFormulaText naming text) ∧
    ((∃ e, parse text naming = .error e) ↔ ¬IsFormulaText naming text) ∧
    ∀ f, parse text naming = .ok f → ∃ ls, Splits .start text.toList ls ∧
      List.Forall₂ (Gives naming) ls f.tokens ∧
      f.tokens.map Token.text = ls.map (canonicalText naming) ∧
      ∀ u, u ∈ f.variableSet ↔ ∃ l ∈ ls, l.kind = .name ∧ naming.normalize l.text = u := by
  have hiff : (∃ f, parse text naming = .ok f) ↔ IsFormulaText naming text := by
    constructor
    · rintro ⟨f, hf⟩
      obtain ⟨ls, hsplits, hexpression, hgives⟩ := parse_ok_iff.mp hf
      exact ⟨ls, hsplits, hexpression, gives_requires hgives⟩
    · rintro ⟨ls, hsplits, hexpression, hnumber, hname⟩
      obtain ⟨ts, hgives⟩ := exists_forall₂_gives fun l hl =>
        exists_gives (hsplits.spells l hl) (hnumber l hl) (hname l hl)
      exact ⟨⟨ts⟩, parse_ok_iff.mpr ⟨ls, hsplits, hexpression, hgives⟩⟩
  refine ⟨hiff, ?_, ?_⟩
  · rw [← hiff]
    cases parse text naming <;> simp
  · intro f hf
    obtain ⟨ls, hsplits, -, hgives⟩ := parse_ok_iff.mp hf
    refine ⟨ls, hsplits, hgives, map_text_eq hgives, fun u => ?_⟩
    rw [variableSet, mem_variablesOf, variable_mem_iff hgives]

end Recalc.Formula
