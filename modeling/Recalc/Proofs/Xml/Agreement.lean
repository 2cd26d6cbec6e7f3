import Recalc.Proofs.Xml.Pieces

/-!
# Markup at different places

The same tags at different places of two documents are expanded alike, as far as neither of them has
a fault: where a tag stands in the text matters only for the faults that are told.
-/

namespace Recalc.Xml

variable {ε ε' ι ι' α α' β β' : Type} {R : α → α' → Prop} {S : β → β' → Prop} {x : Except ε α}
  {y : Except ε' α'}

/-! ### Two computations -/

/-- If both computations give something, the results are related. -/
def Agree (R : α → α' → Prop) (x : Except ε α) (y : Except ε' α') : Prop :=
  ∀ a b, x = .ok a → y = .ok b → R a b

lemma agree_ok {a : α} {b : α'} (h : R a b) :
    Agree R (.ok a : Except ε α) (.ok b : Except ε' α') := by
  rintro _ _ ⟨⟩ ⟨⟩
  exact h

lemma agree_error_left {e : ε} : Agree R (.error e : Except ε α) y := by
  rintro a b ⟨⟩

lemma agree_error_right {e : ε'} : Agree R x (.error e : Except ε' α') := by
  rintro a b - ⟨⟩

lemma agree_refl (x : Except ε α) : Agree Eq x x := by
  rintro a b ha hb
  rw [ha] at hb
  cases hb
  rfl

/-- Of computations whose results play no part nothing need be known. -/
lemma agree_true (x : Except ε α) (y : Except ε' α') : Agree (fun _ _ => True) x y :=
  fun _ _ _ _ => trivial

lemma Agree.symm {R : α → α → Prop} {y : Except ε' α} (hR : ∀ {a b}, R a b → R b a)
    (h : Agree R x y) : Agree R y x :=
  fun a b ha hb => hR (h b a hb ha)

lemma Agree.bind {k : α → Except ε β} {l : α' → Except ε' β'} (h : Agree R x y)
    (hk : ∀ a b, R a b → Agree S (k a) (l b)) : Agree S (x >>= k) (y >>= l) := by
  cases x with
  | error e => exact agree_error_left
  | ok a =>
    cases y with
    | error e => exact agree_error_right
    | ok b => exact hk a b (h a b rfl rfl)

lemma Agree.mapError {f : ε → ι} {g : ε' → ι'} (h : Agree R x y) :
    Agree R (x.mapError f) (y.mapError g) := by
  cases x with
  | error e => exact agree_error_left
  | ok a =>
    cases y with
    | error e => exact agree_error_right
    | ok b => exact agree_ok (h a b rfl rfl)

/-- What every pair of steps keeps holds at the end. -/
lemma Agree.foldlM {T : ι → ι' → Prop} {f : α → ι → Except ε α} {g : α' → ι' → Except ε' α'}
    {l : List ι} {l' : List ι'} {a : α} {b : α'} (hl : List.Forall₂ T l l') (hab : R a b)
    (hf : ∀ a b, R a b → ∀ i j, T i j → Agree R (f a i) (g b j)) :
    Agree R (l.foldlM f a) (l'.foldlM g b) := by
  induction hl generalizing a b with
  | nil => exact agree_ok hab
  | cons hij hl ih =>
    rw [List.foldlM_cons, List.foldlM_cons]
    exact (hf a b hab _ _ hij).bind fun a b hab => ih hab

/-! ### Tags at different places -/

/-- The parts are the same, apart from their places. -/
inductive ValuePart.Same : ValuePart → ValuePart → Prop
  | char (c : Char) : Same (.char c) (.char c)
  | reference (r : Reference) (left left' : Nat) : Same (.reference r left) (.reference r left')

structure RawAttribute.Same (a a' : RawAttribute) : Prop where
  name_eq : a.name = a'.name
  value : List.Forall₂ ValuePart.Same a.value a'.value

inductive Piece.Same : Piece → Piece → Prop
  | openTag {name : List Char} {attributes attributes' : List RawAttribute} {closed : Bool}
      (h : List.Forall₂ RawAttribute.Same attributes attributes') :
      Same (.openTag name attributes closed) (.openTag name attributes' closed)
  | other {piece : Piece} (h : ∀ name attributes closed, piece ≠ .openTag name attributes closed) :
      Same piece piece

lemma ValuePart.same_refl : (part : ValuePart) → Same part part
  | .char c => .char c
  | .reference r left => .reference r left left

lemma Piece.same_refl (piece : Piece) : Same piece piece := by
  cases piece with
  | openTag name attributes closed =>
    refine .openTag (List.forall₂_same.mpr fun a _ => ⟨rfl, ?_⟩)
    exact List.forall₂_same.mpr fun part _ => part.same_refl
  | _ => exact .other nofun

lemma Piece.depthAfter_unifyLineEnds (piece : Piece) (depth : Nat) :
    piece.unifyLineEnds.depthAfter depth = piece.depthAfter depth := by
  cases piece with
  | openTag name attributes closed => cases closed <;> rfl
  | _ => rfl

lemma ValuePart.Same.eq_char {c : Char} {part : ValuePart} (h : Same (.char c) part) :
    part = .char c := by
  cases h
  rfl

/-- Parts that differ in places only do so with unified line ends. -/
lemma forall₂_unifyLineEndParts {parts parts' : List ValuePart}
    (h : List.Forall₂ ValuePart.Same parts parts') :
    List.Forall₂ ValuePart.Same (unifyLineEndParts parts) (unifyLineEndParts parts') := by
  fun_induction unifyLineEndParts parts generalizing parts' with
  | case1 rest ih =>
    obtain ⟨part, _, hpart, hmore, rfl⟩ := List.forall₂_cons_left_iff.mp h
    obtain ⟨part', rest', hpart', hrest, rfl⟩ := List.forall₂_cons_left_iff.mp hmore
    rw [hpart.eq_char, hpart'.eq_char]
    exact .cons (.char '\n') (ih hrest)
  | case2 rest hfeed ih =>
    obtain ⟨part, rest', hpart, hrest, rfl⟩ := List.forall₂_cons_left_iff.mp h
    rw [hpart.eq_char, unifyLineEndParts]
    · exact .cons (.char '\n') (ih hrest)
    · rintro more rfl
      obtain ⟨part, rest, hpart, -, rfl⟩ := List.forall₂_cons_right_iff.mp hrest
      cases hpart
      exact hfeed _ rfl
  | case3 part rest hpair hreturn ih =>
    obtain ⟨part', rest', hpart, hrest, rfl⟩ := List.forall₂_cons_left_iff.mp h
    have hno : part' ≠ .char '\r' := by
      rintro rfl
      cases hpart
      exact hreturn rfl
    rw [unifyLineEndParts]
    · exact .cons hpart (ih hrest)
    · exact fun _ heq => absurd heq hno
    · exact hno
  | case4 =>
    obtain rfl := List.forall₂_nil_left_iff.mp h
    exact .nil

lemma Piece.Same.unifyLineEnds {piece piece' : Piece} (h : piece.Same piece') :
    piece.unifyLineEnds.Same piece'.unifyLineEnds := by
  cases h with
  | openTag h =>
    refine .openTag ?_
    rw [List.forall₂_map_left_iff, List.forall₂_map_right_iff]
    exact h.imp fun a a' ha => ⟨ha.name_eq, forall₂_unifyLineEndParts ha.value⟩
  | other _ => exact piece.unifyLineEnds.same_refl

variable {d : Doctype} {free : Bool} {part part' : ValuePart} {parts parts' : List ValuePart}
  {raws raws' : List RawAttribute} {bindings : Bindings} {element name here here' : List Char}

lemma agree_appendPart (h : part.Same part')
    (expand : List Char → List Char → List Char → Except ValueFault (List Char))
    (value : List Char) :
    Agree Eq (appendPart d free expand value part) (appendPart d free expand value part') := by
  cases h with
  | char c => exact agree_refl _
  | reference r left left' =>
    cases r with
    | character c =>
      cases c with
      | none => exact agree_error_left
      | some c => exact agree_refl _
    | entity name =>
      simp only [appendPart]
      cases predefined? name with
      | some c => exact agree_refl _
      | none =>
        cases d.entities.lookup name with
        | none => exact agree_refl _
        | some text =>
          cases text with
          | internal text => exact agree_refl _
          | external => exact agree_error_left
          | binary => exact agree_error_left

lemma agree_valueOf (h : List.Forall₂ ValuePart.Same parts parts') :
    Agree Eq (valueOf d free parts) (valueOf d free parts') := by
  unfold valueOf
  refine Agree.bind (R := Eq) (Agree.foldlM h rfl ?_) ?_
  · rintro value _ rfl part part' hpart
    exact agree_appendPart hpart _ value
  · rintro value _ rfl
    exact agree_refl _

lemma agree_attributeValues {seen : List (List Char)}
    (h : List.Forall₂ RawAttribute.Same raws raws') :
    Agree Eq (attributeValues d element here bindings seen raws)
      (attributeValues d element here' bindings seen raws') := by
  induction h generalizing bindings seen with
  | nil => exact agree_refl _
  | @cons raw raw' raws raws' hraw _ ih =>
    obtain ⟨name, value, left⟩ := raw
    obtain ⟨name', value', left'⟩ := raw'
    obtain ⟨rfl, hvalue⟩ := hraw
    change Agree _ (ite (name ∈ seen) _ _) (ite (name ∈ seen) _ _)
    split
    next => exact agree_error_left
    refine (agree_valueOf hvalue).mapError.bind ?_
    rintro value _ rfl
    dsimp only
    split
    next pre _ =>
      refine (agree_refl (bind bindings pre value)).mapError.bind ?_
      rintro bindings _ rfl
      exact ih
    next =>
      refine ih.bind ?_
      rintro found _ rfl
      exact agree_refl _

lemma agree_expandTag (h : List.Forall₂ RawAttribute.Same raws raws') :
    Agree Eq (expandTag d bindings name raws here) (expandTag d bindings name raws' here') := by
  have hnames : raws.map RawAttribute.name = raws'.map RawAttribute.name := by
    induction h with
    | nil => rfl
    | cons hraw _ ih => rw [List.map_cons, List.map_cons, hraw.name_eq, ih]
  unfold expandTag
  refine (agree_attributeValues h).bind ?_
  rintro ⟨given, bindings⟩ _ rfl
  rw [hnames]
  refine (agree_refl (defaultValues (d.rules name) (raws'.map _) bindings)).mapError.bind ?_
  rintro ⟨added, bindings⟩ _ rfl
  refine (agree_refl (expandAttributes bindings [] (given ++ added))).mapError.bind ?_
  rintro attributes _ rfl
  refine (agree_refl (elementName bindings name)).mapError.bind ?_
  rintro name _ rfl
  exact agree_refl _

end Recalc.Xml
