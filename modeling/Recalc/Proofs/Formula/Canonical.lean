import Recalc.Formula.Evaluation
import Recalc.Proofs.Formula.Language
import Recalc.Proofs.Number.PlainText
import Recalc.Text.Case

/-!
# Canonical texts

The text of a formula has no blanks, yet it splits into the tokens of the formula again: after an
operand comes an operator, a closing parenthesis or the end, and none of them goes on with a name or
a number. So the text of a formula is read as that formula, and formulas are equal exactly when
their tokens are.
-/

namespace Recalc.Formula

open Recalc.Number

/-- A token as formulas have it: a number without a sign, a variable of the form of a name. -/
def IsCanonical : Token → Prop
  | .variable name => isName name = true
  | .number x => ∃ m e, parts x = .finite false m e
  | _ => True

/-- Tokens are the same when they are equal, numbers as numbers. -/
def SameToken : Token → Token → Prop
  | .number x, .number y => (x == y) = true
  | t, t' => t = t'

/-- The texts of the tokens one after another. -/
def charsOf (ts : List Token) : List Char :=
  ts.flatMap fun t => t.text.toList

variable {naming naming' : Naming} {l : Lexeme} {ls : List Lexeme} {token token' : Token}
  {ts ts' : List Token} {text text' : String} {f g : Formula} {depth : Nat}

lemma toList_text (f : Formula) : f.text.toList = charsOf f.tokens := by
  rw [Formula.text, String.toList_join, charsOf, List.flatMap_map]

/-! ### The tokens of a formula -/

lemma isCanonical_of_gives (hspells : l.kind.Spells l.chars) (h : Gives naming l token) :
    IsCanonical token := by
  cases h with
  | «variable» p h => exact (canonical?_eq_some_iff.mp h).2.1
  | number p h hx =>
    obtain ⟨n, hn, rfl⟩ := hspells
    obtain ⟨negative, m, e, hparts⟩ := isFinite_iff.mp hx
    rw [readSigned?, readSign_chars hn] at h
    simp only [Numeral.read?_chars hn] at h
    cases h
    obtain rfl := sign_ofDecimal hparts
    exact ⟨m, e, hparts⟩
  | _ => trivial

lemma isCanonical_of_forall₂ (hspells : ∀ l ∈ ls, l.kind.Spells l.chars)
    (h : List.Forall₂ (Gives naming) ls ts) : ∀ t ∈ ts, IsCanonical t := by
  induction h with
  | nil => simp
  | cons hl hls ih =>
    obtain ⟨hspell, hspells⟩ := List.forall_mem_cons.mp hspells
    exact List.forall_mem_cons.mpr ⟨isCanonical_of_gives hspell hl, ih hspells⟩

theorem isCanonical_of_parse (h : parse text naming = .ok f) : ∀ t ∈ f.tokens, IsCanonical t := by
  obtain ⟨ls, hsplits, -, hgives⟩ := parse_ok_iff.mp h
  exact isCanonical_of_forall₂ hsplits.spells hgives

/-! ### Splitting the text of a formula -/

/-- After an operand the text ends, or it goes on with a parenthesis or an operator. -/
lemma head_charsOf (h : WellPlaced false depth ts) {c : Char} (hc : c ∈ (charsOf ts).head?) :
    c = ')' ∨ isOperator c = true := by
  cases h with
  | finish => cases hc
  | closeParen h =>
    cases hc
    exact .inl rfl
  | operator o h =>
    cases o <;> cases hc <;> exact .inr rfl

lemma endsAt_charsOf (h : WellPlaced false depth ts) : Numeral.EndsAt (charsOf ts) := by
  intro c hc
  rcases head_charsOf h hc with rfl | hc
  · decide
  · simp only [isOperator, Bool.or_eq_true, decide_eq_true_eq] at hc
    rcases hc with ((rfl | rfl) | rfl) | rfl <;> decide

lemma not_isNamePart_charsOf (h : WellPlaced false depth ts) {c : Char}
    (hc : c ∈ (charsOf ts).head?) : isNamePart c = false := by
  rcases head_charsOf h hc with rfl | hc
  · decide
  · simp only [isOperator, Bool.or_eq_true, decide_eq_true_eq] at hc
    rcases hc with ((rfl | rfl) | rfl) | rfl <;> decide

lemma lexes_openParen (rest : List Char) : Lexes .openParen ['('] rest :=
  lexes_of_readLexeme (show readLexeme ('(' :: rest) = _ from rfl)

lemma lexes_closeParen (rest : List Char) : Lexes .closeParen [')'] rest :=
  lexes_of_readLexeme (show readLexeme (')' :: rest) = _ from rfl)

lemma lexes_operator (o : Operator) (rest : List Char) : Lexes .operator [o.symbol] rest := by
  refine lexes_of_readLexeme (show readLexeme (o.symbol :: rest) = _ from ?_)
  cases o <;> rfl

/-- A name is read to its end when no character of a name follows. -/
lemma lexes_name_of_head {cs rest : List Char} (hcs : isNameChars cs = true)
    (hrest : ∀ c ∈ rest.head?, isNamePart c = false) : Lexes .name cs rest := by
  cases cs with
  | nil => cases hcs
  | cons c cs =>
    obtain ⟨hc, hcs⟩ := isNameChars_cons_iff.mp hcs
    have hlexes := @lexes_name (cs ++ rest) c hc
    have hend : rest.takeWhile isNamePart = [] ∧ rest.dropWhile isNamePart = rest := by
      cases rest with
      | nil => exact ⟨rfl, rfl⟩
      | cons d rest =>
        have hd : ¬isNamePart d = true := by simp [hrest d rfl]
        exact ⟨List.takeWhile_cons_of_neg hd, List.dropWhile_cons_of_neg hd⟩
    rwa [List.takeWhile_append_of_pos hcs, List.dropWhile_append_of_pos hcs, hend.1, hend.2,
      List.append_nil] at hlexes

lemma lexes_plainText {x : Float} (hx : IsCanonical (.number x)) {rest : List Char}
    (hrest : Numeral.EndsAt rest) : Lexes .number (plainText x).toList rest := by
  obtain ⟨m, e, hparts⟩ := hx
  obtain ⟨n, hn, -, hchars⟩ := exists_numeral_plainText hparts
  obtain ⟨longer, after, hread, -, hends⟩ := Numeral.read?_append hn rest
  obtain ⟨rfl, rfl⟩ := hends hrest
  rw [hchars, if_neg (by simp)]
  exact lexes_number hread

/-- A token that is read to its end is followed by the lexemes of the others. -/
lemma exists_splits_cons {kind : LexemeKind} {chars : List Char} (htext : token.text.toList = chars)
    (hlexes : Lexes kind chars (charsOf ts)) (htoken : ∀ p, Gives naming ⟨kind, chars, p⟩ token)
    (hts : ∀ p, ∃ ls, Splits p (charsOf ts) ls ∧ List.Forall₂ (Gives naming) ls ts) (p : Position) :
    ∃ ls, Splits p (charsOf (token :: ts)) ls ∧ List.Forall₂ (Gives naming) ls (token :: ts) := by
  obtain ⟨ls, hsplits, hgives⟩ := hts (p.advance chars)
  have hchars : charsOf (token :: ts) = chars ++ charsOf ts := by
    rw [charsOf, List.flatMap_cons, htext, ← charsOf]
  refine ⟨⟨kind, chars, p⟩ :: ls, ?_, .cons (htoken p) hgives⟩
  rw [hchars]
  exact .lexeme hlexes hsplits

/-- Well-placed tokens are told apart in their text, at whatever position it stands. -/
theorem exists_splits {awaited : Bool} (h : WellPlaced awaited depth ts)
    (hcanonical : ∀ t ∈ ts, IsCanonical t)
    (hnaming : ∀ name, .variable name ∈ ts → naming.canonical? name = some name) (p : Position) :
    ∃ ls, Splits p (charsOf ts) ls ∧ List.Forall₂ (Gives naming) ls ts := by
  induction h generalizing p with
  | finish => exact ⟨[], .nil p, .nil⟩
  | openParen h ih =>
    obtain ⟨-, hcanonical⟩ := List.forall_mem_cons.mp hcanonical
    have hrest := ih hcanonical fun name hname => hnaming name (List.mem_cons_of_mem _ hname)
    exact exists_splits_cons rfl (lexes_openParen _) .openParen hrest p
  | closeParen h ih =>
    obtain ⟨-, hcanonical⟩ := List.forall_mem_cons.mp hcanonical
    have hrest := ih hcanonical fun name hname => hnaming name (List.mem_cons_of_mem _ hname)
    exact exists_splits_cons rfl (lexes_closeParen _) .closeParen hrest p
  | operator o h ih =>
    obtain ⟨-, hcanonical⟩ := List.forall_mem_cons.mp hcanonical
    have hrest := ih hcanonical fun name hname => hnaming name (List.mem_cons_of_mem _ hname)
    have htext : (Token.operator o).text.toList = [o.symbol] := String.toList_singleton o.symbol
    exact exists_splits_cons htext (lexes_operator o _) (.operator o) hrest p
  | «variable» name h ih =>
    obtain ⟨hname, hcanonical⟩ := List.forall_mem_cons.mp hcanonical
    have hrest := ih hcanonical fun name hname => hnaming name (List.mem_cons_of_mem _ hname)
    have hlexes := lexes_name_of_head hname fun c => not_isNamePart_charsOf h
    refine exists_splits_cons rfl hlexes (fun p => .variable p ?_) hrest p
    rw [String.ofList_toList]
    exact hnaming name List.mem_cons_self
  | number x h ih =>
    obtain ⟨hx, hcanonical⟩ := List.forall_mem_cons.mp hcanonical
    have hrest := ih hcanonical fun name hname => hnaming name (List.mem_cons_of_mem _ hname)
    have hlexes := lexes_plainText hx (endsAt_charsOf h)
    obtain ⟨m, e, hparts⟩ := hx
    have hfinite : isFinite x = true := isFinite_iff.mpr ⟨false, m, e, hparts⟩
    exact exists_splits_cons rfl hlexes
      (fun p => .number p (readSigned?_plainText hparts) hfinite) hrest p

/-- The text of a formula is read as that formula wherever its variables are their own normal
forms. -/
theorem parse_text (h : parse text naming = .ok f)
    (hnaming : ∀ u ∈ f.variableSet, naming'.canonical? u = some u) :
    parse f.text naming' = .ok f := by
  obtain ⟨e, he⟩ := exists_tree_of_parse h
  obtain ⟨ls, hsplits, hgives⟩ := exists_splits
    (wellPlaced_of_tokensFrom (tokensFrom_of_parse h)) (isCanonical_of_parse h)
    (fun u hu => hnaming u (mem_variablesOf.mpr hu)) .start
  refine parse_ok_iff.mpr ⟨ls, ?_, ?_, hgives⟩
  · rwa [toList_text]
  · rw [map_kind_eq hgives, ← he]
    exact e.isExpression

/-- Where nothing is required of names, the text of every formula is read. -/
lemma parse_text_free (h : parse text naming = .ok f) : parse f.text .free = .ok f := by
  refine parse_text h fun u hu => canonical?_eq_some_iff.mpr ⟨rfl, ?_, rfl⟩
  exact (variable_of_parse h hu).1

lemma parse_text_of_idempotent (h : parse text naming = .ok f)
    (hnaming : ∀ u ∈ f.variableSet, naming.normalize u = u) : parse f.text naming = .ok f :=
  parse_text h fun u hu => canonical?_eq_some_iff.mpr ⟨hnaming u hu, variable_of_parse h hu⟩

/-! ### Equal formulas -/

/-- Formulas that were read are the same when their texts are. -/
lemma eq_of_beq_of_parse (hf : parse text naming = .ok f) (hg : parse text' naming' = .ok g)
    (h : (f == g) = true) : f = g := by
  have htext : f.text = g.text := beq_iff_eq.mp h
  have hread := parse_text_free hf
  rw [htext, parse_text_free hg] at hread
  cases hread
  rfl

lemma SameToken.refl_of_canonical (h : IsCanonical token) : SameToken token token := by
  cases token with
  | number x =>
    obtain ⟨m, e, hparts⟩ := h
    exact beq_self_of_parts hparts
  | _ => rfl

/-- Numbers without a sign are the same when they are equal. -/
lemma SameToken.eq_of_canonical (h : SameToken token token') (ht : IsCanonical token)
    (ht' : IsCanonical token') : token = token' := by
  cases token with
  | number x =>
    cases token' with
    | number y =>
      obtain ⟨m, e, hx⟩ := ht
      obtain ⟨m', e', hy⟩ := ht'
      rw [eq_of_beq_of_parts hx hy h]
    | _ => exact h
  | _ => exact h

lemma eq_of_sameTokens (h : List.Forall₂ SameToken ts ts') (hts : ∀ t ∈ ts, IsCanonical t)
    (hts' : ∀ t ∈ ts', IsCanonical t) : ts = ts' := by
  induction h with
  | nil => rfl
  | cons ht _ ih =>
    obtain ⟨htoken, hts⟩ := List.forall_mem_cons.mp hts
    obtain ⟨htoken', hts'⟩ := List.forall_mem_cons.mp hts'
    rw [ht.eq_of_canonical htoken htoken', ih hts hts']

lemma beq_iff_sameTokens (hf : parse text naming = .ok f) (hg : parse text' naming' = .ok g) :
    (f == g) = true ↔ List.Forall₂ SameToken f.tokens g.tokens := by
  have hcanonical := isCanonical_of_parse hf
  constructor
  · intro h
    obtain rfl := eq_of_beq_of_parse hf hg h
    exact List.forall₂_same.mpr fun t ht => SameToken.refl_of_canonical (hcanonical t ht)
  · intro h
    have htokens := eq_of_sameTokens h hcanonical (isCanonical_of_parse hg)
    show (f.text == g.text) = true
    rw [Formula.text, Formula.text, htokens, beq_self_eq_true]

/-- What the text of a formula tells of it. -/
structure Faithful (naming : Naming) (f : Formula) : Prop where
  parse_free : parse f.text .free = .ok f
  parse_own : (∀ u ∈ f.variableSet, naming.normalize u = u) → parse f.text naming = .ok f
  beq_iff : ∀ {text' : String} {naming' : Naming} {g : Formula}, parse text' naming' = .ok g →
    ((f == g) = true ↔ List.Forall₂ SameToken f.tokens g.tokens)
  evaluateM_eq : ∀ {text' : String} {naming' : Naming} {g : Formula}, parse text' naming' = .ok g →
    (f == g) = true → ∀ {m : Type → Type} [Monad m]
      (lookup : String → m (Except EvaluationError Float)), f.evaluateM lookup = g.evaluateM lookup

/-- The text of a formula is read as the formula, without requirements on names and also under its
own policy, if that leaves the variables as they are. Formulas are equal exactly when their tokens
are the same, and then they have the same values. -/
theorem faithful_of_parse (hf : parse text naming = .ok f) : Faithful naming f where
  parse_free := parse_text_free hf
  parse_own := parse_text_of_idempotent hf
  beq_iff hg := beq_iff_sameTokens hf hg
  evaluateM_eq hg h _ _ lookup := by rw [eq_of_beq_of_parse hf hg h]

/-- Names in upper case. -/
def capitals : Naming := ⟨Text.upper, fun _ => true⟩

/-- Powers of ten beside a variable that looks like one. -/
def powers : Formula :=
  ⟨[.variable "E5", .operator .plus, .number (Float.ofBits 0x4415AF1D78B58C40), .operator .minus,
    .number (Float.ofBits 0x3E90C6F7A0B5ED8D)]⟩

theorem faithful_powers :
    parse "e5 + 1E20 - .25e-6" capitals = .ok powers ∧ Faithful capitals powers := by
  have hsplits : scan "e5 + 1E20 - .25e-6" = ⟨[
      ⟨.name, ['e', '5'], ⟨1, 1⟩⟩, ⟨.operator, ['+'], ⟨1, 4⟩⟩,
      ⟨.number, ['1', 'E', '2', '0'], ⟨1, 6⟩⟩, ⟨.operator, ['-'], ⟨1, 11⟩⟩,
      ⟨.number, ['.', '2', '5', 'e', '-', '6'], ⟨1, 13⟩⟩], none⟩ := by cbv
  have hexpression : IsExpression [.name, .operator, .number, .operator, .number] :=
    .operator (.operator (.operand .name) .number) .number
  have hparse : parse "e5 + 1E20 - .25e-6" capitals = .ok powers := by
    refine parse_ok_iff.mpr ⟨_, splits_iff_scan.mpr hsplits, hexpression, ?_⟩
    refine .cons (.variable _ (by cbv)) (.cons (.operator .plus _) (.cons (.number _ ?_ ?_)
      (.cons (.operator .minus _) (.cons (.number _ ?_ ?_) .nil)))) <;> decide +kernel
  exact ⟨hparse, faithful_of_parse hparse⟩

end Recalc.Formula
