import Recalc.Formula.Parse
import Recalc.Proofs.Formula.Splitting

/-!
# Spellings of formulas

Names count by their normal forms only, and blanks between lexemes do not count at all: texts that
differ in nothing else give the same formula, or are refused for the same reason.
-/

namespace Recalc

/-! ### Outcomes that are the same up to a part of the errors -/

/-- The outcomes are the same when of their errors only what `f` keeps is of account. -/
def SameUpTo {ε ε' α : Type} (f : ε → ε') (x y : Except ε α) : Prop :=
  x.mapError f = y.mapError f

namespace SameUpTo

variable {ε ε' δ δ' α β : Type} {f : ε → ε'} {x y z : Except ε α} {e e' : ε}

lemma refl (x : Except ε α) : SameUpTo f x x :=
  rfl

lemma trans (hxy : SameUpTo f x y) (hyz : SameUpTo f y z) : SameUpTo f x z :=
  Eq.trans hxy hyz

lemma error (h : f e = f e') : SameUpTo f (.error e : Except ε α) (.error e') :=
  congrArg Except.error h

lemma cases (h : SameUpTo f x y) :
    (∃ a, x = .ok a ∧ y = .ok a) ∨ ∃ e e', x = .error e ∧ y = .error e' ∧ f e = f e' := by
  cases x with
  | error e =>
    cases y with
    | error e' => exact .inr ⟨e, e', rfl, rfl, Except.error.inj h⟩
    | ok b => cases h
  | ok a =>
    cases y with
    | error e => cases h
    | ok b => exact .inl ⟨a, rfl, congrArg Except.ok (Except.ok.inj h).symm⟩

lemma bind {k l : α → Except ε β} (h : SameUpTo f x y) (hk : ∀ a, SameUpTo f (k a) (l a)) :
    SameUpTo f (x >>= k) (y >>= l) := by
  rcases h.cases with ⟨a, rfl, rfl⟩ | ⟨e, e', rfl, rfl, he⟩
  · exact hk a
  · exact error he

lemma map (h : SameUpTo f x y) (k : α → β) : SameUpTo f (x.map k) (y.map k) := by
  rcases h.cases with ⟨a, rfl, rfl⟩ | ⟨e, e', rfl, rfl, he⟩
  · exact refl _
  · exact error he

/-- Less may be of account. -/
lemma weaken {f' : ε → δ} (h : SameUpTo f x y) (hf : ∀ e e', f e = f e' → f' e = f' e') :
    SameUpTo f' x y := by
  rcases h.cases with ⟨a, rfl, rfl⟩ | ⟨e, e', rfl, rfl, he⟩
  · exact refl _
  · exact error (hf e e' he)

/-- The errors may be put in another form that keeps what is of account. -/
lemma mapError {g : ε → δ} {f' : δ → δ'} (h : SameUpTo f x y)
    (hg : ∀ e e', f e = f e' → f' (g e) = f' (g e')) :
    SameUpTo f' (x.mapError g) (y.mapError g) := by
  rcases h.cases with ⟨a, rfl, rfl⟩ | ⟨e, e', rfl, rfl, he⟩
  · exact refl _
  · exact error (hg e e' he)

end SameUpTo

namespace Formula

variable {naming : Naming} {text text' : String} {l l' : Lexeme} {ls ls' : List Lexeme}
  {previous : Option LexemeKind} {depth : Nat} {fault fault' : Option (Char × Nat)}

/-! ### Texts that differ in spelling -/

/-- What a lexeme says: its kind with its text, or with the normal form of a name. -/
def Lexeme.spelling (naming : Naming) (l : Lexeme) : LexemeKind × String :=
  (l.kind, if l.kind = .name then naming.normalize l.text else l.text)

/-- The texts have the same lexemes up to the spelling of names, and the same character follows
where no lexeme begins. -/
structure Respelled (naming : Naming) (text text' : String) : Prop where
  lexemes_eq : (scan text).lexemes.map (Lexeme.spelling naming) =
    (scan text').lexemes.map (Lexeme.spelling naming)
  fault_eq : (scan text).fault.map Prod.fst = (scan text').fault.map Prod.fst

/-- A text, or the normal form of a name. -/
def normalText (naming : Naming) (text : String) : String :=
  if isName text then naming.normalize text else text

/-- The reason without its column, and with names in their normal form. -/
def FormatError.unspelled (naming : Naming) : FormatError → FormatError
  | .unrecognized c _ => .unrecognized c 0
  | .beginsWrong _ => .beginsWrong 0
  | .operandExpected text _ => .operandExpected (normalText naming text) 0
  | .operatorExpected text _ => .operatorExpected (normalText naming text) 0
  | .unmatchedClose _ => .unmatchedClose 0
  | .outOfRange text _ => .outOfRange text 0
  | .notAName name normal => .notAName (naming.normalize name) normal
  | e => e

/-! ### Lexemes -/

/-- The lexeme has the kind and the text of the other, or both are names with one normal form. -/
lemma cases_of_spelling_eq (h : l.spelling naming = l'.spelling naming) :
    l.kind = l'.kind ∧
      (l.chars = l'.chars ∨
        l.kind = .name ∧ naming.normalize l.text = naming.normalize l'.text) := by
  obtain ⟨hkind, htext⟩ := Prod.mk.inj h
  refine ⟨hkind, ?_⟩
  rw [← hkind] at htext
  split at htext
  next hname => exact .inr ⟨hname, htext⟩
  next => exact .inl (String.ofList_injective htext)

lemma normalText_eq (h : l.spelling naming = l'.spelling naming)
    (hl : l.kind.Spells l.chars) (hl' : l'.kind.Spells l'.chars) :
    normalText naming l.text = normalText naming l'.text := by
  obtain ⟨hkind, htext | ⟨hname, hnormal⟩⟩ := cases_of_spelling_eq h
  · rw [Lexeme.text, htext, Lexeme.text]
  · have hisName : isName l.text = true := by
      rw [hname] at hl
      rwa [isName, Lexeme.text, String.toList_ofList]
    have hisName' : isName l'.text = true := by
      rw [← hkind, hname] at hl'
      rwa [isName, Lexeme.text, String.toList_ofList]
    rw [normalText, normalText, if_pos hisName, if_pos hisName', hnormal]

lemma sameUpTo_checkPlace (h : l.spelling naming = l'.spelling naming)
    (hl : l.kind.Spells l.chars) (hl' : l'.kind.Spells l'.chars) :
    SameUpTo (FormatError.unspelled naming) (checkPlace previous l) (checkPlace previous l') := by
  have hkind := (cases_of_spelling_eq h).1
  have htext := normalText_eq h hl hl'
  unfold checkPlace
  rw [← hkind]
  cases previous with
  | none =>
    dsimp only
    split
    · exact SameUpTo.refl _
    · exact SameUpTo.error rfl
  | some kind =>
    dsimp only
    split <;> split
    · exact SameUpTo.refl _
    · exact SameUpTo.error (by simp only [FormatError.unspelled, htext])
    · exact SameUpTo.error (by simp only [FormatError.unspelled, htext])
    · exact SameUpTo.refl _

lemma sameUpTo_variableToken {name name' : String}
    (h : naming.normalize name = naming.normalize name') :
    SameUpTo (FormatError.unspelled naming) (variableToken naming name)
      (variableToken naming name') := by
  unfold variableToken
  dsimp only
  rw [← h]
  split
  · exact SameUpTo.error (by simp only [FormatError.unspelled, h])
  · exact SameUpTo.refl _

lemma sameUpTo_convert (h : l.spelling naming = l'.spelling naming) :
    SameUpTo (FormatError.unspelled naming) (convert naming depth l) (convert naming depth l') := by
  obtain ⟨kind, chars, p⟩ := l
  obtain ⟨kind', chars', p'⟩ := l'
  obtain ⟨hkind, htext⟩ := cases_of_spelling_eq h
  obtain rfl : kind = kind' := hkind
  rcases htext with hchars | ⟨hname, hnormal⟩
  · obtain rfl : chars = chars' := hchars
    cases kind with
    | openParen => exact SameUpTo.refl _
    | closeParen =>
      cases depth with
      | zero => exact SameUpTo.error rfl
      | succ depth => exact SameUpTo.refl _
    | operator =>
      unfold convert
      dsimp only
      split
      · split
        · exact SameUpTo.refl _
        · exact SameUpTo.error rfl
      · exact SameUpTo.refl _
    | name => exact SameUpTo.refl _
    | number =>
      have hnumber : SameUpTo (FormatError.unspelled naming) (numberToken ⟨.number, chars, p⟩)
          (numberToken ⟨.number, chars, p'⟩) := by
        unfold numberToken
        dsimp only
        split
        · split
          · exact SameUpTo.refl _
          · exact SameUpTo.error rfl
        · exact SameUpTo.error rfl
      exact hnumber.map _
  · obtain rfl : kind = .name := hname
    exact (sameUpTo_variableToken hnormal).map _

/-! ### Formulas -/

lemma sameUpTo_tokensFrom (h : ls.map (Lexeme.spelling naming) = ls'.map (Lexeme.spelling naming))
    (hfault : fault.map Prod.fst = fault'.map Prod.fst)
    (hls : ∀ l ∈ ls, l.kind.Spells l.chars) (hls' : ∀ l ∈ ls', l.kind.Spells l.chars) :
    SameUpTo (FormatError.unspelled naming) (tokensFrom naming fault previous depth ls)
      (tokensFrom naming fault' previous depth ls') := by
  induction ls generalizing ls' previous depth with
  | nil =>
    obtain rfl : ls' = [] := List.map_eq_nil_iff.mp h.symm
    cases fault with
    | none =>
      obtain rfl : fault' = none := Option.map_eq_none_iff.mp hfault.symm
      exact SameUpTo.refl _
    | some found =>
      obtain ⟨found', rfl, hc⟩ := Option.map_eq_some_iff.mp hfault.symm
      refine SameUpTo.error ?_
      simp only [FormatError.unspelled, hc]
  | cons l ls ih =>
    obtain ⟨l', ls', rfl, hl, hrest⟩ := List.map_eq_cons_iff.mp h.symm
    obtain ⟨hspells, hls⟩ := List.forall_mem_cons.mp hls
    obtain ⟨hspells', hls'⟩ := List.forall_mem_cons.mp hls'
    unfold tokensFrom
    refine (sameUpTo_checkPlace hl.symm hspells hspells').bind fun _ => ?_
    refine (sameUpTo_convert hl.symm).bind ?_
    rintro ⟨token, depth⟩
    rw [(cases_of_spelling_eq hl).1]
    exact (ih hrest.symm hls hls').bind fun tokens => SameUpTo.refl _

/-- Texts that are spelled alike give the same formula, or are refused for the same reason. -/
theorem Respelled.sameUpTo_parse (h : Respelled naming text text') :
    SameUpTo (FormatError.unspelled naming) (parse text naming) (parse text' naming) :=
  (sameUpTo_tokensFrom h.lexemes_eq h.fault_eq (fun _ => spells_of_mem_scanFrom)
    fun _ => spells_of_mem_scanFrom).map _

end Formula

end Recalc
