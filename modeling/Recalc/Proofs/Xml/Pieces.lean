import Recalc.Proofs.Xml.Markup
import Recalc.Xml.Document

/-!
# Texts of pieces

Whatever characters are read, the pieces of the content hold only characters of documents: the
readers refuse all others, and the number of a character is checked.
-/

namespace Recalc.Xml

variable {ε ε' α β : Type} {P : α → Prop} {Q : β → Prop} {x : Except ε α} {cs : List Char}

/-! ### What computations give -/

/-- If the computation gives anything, it has the property. -/
def Yields (P : α → Prop) (x : Except ε α) : Prop :=
  ∀ a, x = .ok a → P a

@[simp]
lemma yields_ok {a : α} : Yields P (.ok a : Except ε α) ↔ P a :=
  ⟨fun h => h a rfl, by rintro h _ ⟨⟩; exact h⟩

@[simp]
lemma yields_error {e : ε} : Yields P (.error e : Except ε α) := by
  rintro a ⟨⟩

lemma yields_pure {a : α} (h : P a) : Yields P (pure a : Except ε α) :=
  yields_ok.mpr h

lemma yields_throw {e : ε} : Yields P (throw e : Except ε α) :=
  yields_error

lemma Yields.bind {k : α → Except ε β} (hx : Yields P x) (hk : ∀ a, P a → Yields Q (k a)) :
    Yields Q (x >>= k) := by
  cases x with
  | error e => exact yields_error
  | ok a => exact hk a (yields_ok.mp hx)

/-- A computation whose result plays no part. -/
lemma Yields.of_forall {k : α → Except ε β} (hk : ∀ a, Yields Q (k a)) : Yields Q (x >>= k) :=
  Yields.bind (P := fun _ => True) (fun _ _ => trivial) fun a _ => hk a

lemma Yields.map {f : α → β} (hx : Yields P x) (hf : ∀ a, P a → Q (f a)) : Yields Q (x.map f) := by
  cases x with
  | error e => exact yields_error
  | ok a => exact yields_ok.mpr (hf a (yields_ok.mp hx))

/-- What is done with the result is enough. -/
lemma Yields.map_of_forall {f : α → β} (hf : ∀ a, Q (f a)) : Yields Q (x.map f) :=
  Yields.map (P := fun _ => True) (fun _ _ => trivial) fun a _ => hf a

lemma Yields.mapError {f : ε → ε'} (hx : Yields P x) : Yields P (x.mapError f) := by
  cases x with
  | error e => exact yields_error
  | ok a => exact yields_ok.mpr (yields_ok.mp hx)

/-- What every step keeps holds at the end. -/
lemma Yields.foldlM {f : β → α → Except ε β} {l : List α} {a : β} (ha : Q a)
    (hf : ∀ a, Q a → ∀ x ∈ l, Yields Q (f a x)) : Yields Q (l.foldlM f a) := by
  induction l generalizing a with
  | nil => exact yields_pure ha
  | cons x l ih =>
    rw [List.foldlM_cons]
    refine (hf a ha x List.mem_cons_self).bind fun a ha => ?_
    exact ih ha fun a ha x hx => hf a ha x (List.mem_cons_of_mem _ hx)

@[simp]
lemma yields_refuse {P : α → Prop} : Yields P (refuse cs) := by
  unfold refuse
  split <;> exact yields_error

@[simp]
lemma yields_refuseInName {P : α → Prop} : Yields P (refuseInName cs) := by
  unfold refuseInName
  split
  · split
    · exact yields_error
    · exact yields_refuse
  · exact yields_refuse

/-! ### References -/

lemma isText_nil : IsText [] :=
  List.forall_mem_nil _

/-- Line ends become characters of documents. -/
lemma isText_unifyLineEnds (h : IsText cs) : IsText (Text.unifyLineEnds cs) := by
  fun_induction Text.unifyLineEnds cs with
  | case1 => exact isText_nil
  | case2 rest ih =>
    exact isText_cons.mpr ⟨by decide, ih (isText_cons.mp (isText_cons.mp h).2).2⟩
  | case3 c rest _ ih =>
    obtain ⟨hc, hrest⟩ := isText_cons.mp h
    refine isText_cons.mpr ⟨?_, ih hrest⟩
    split
    · decide
    · exact hc

/-- A numbered character is one of documents. -/
def Reference.IsText (r : Reference) : Prop :=
  ∀ c, r = .character (some c) → isXmlChar c = true

lemma Reference.isText_entity (name : List Char) : (Reference.entity name).IsText := by
  rintro c ⟨⟩

lemma isXmlChar_of_characterOf? {n : Nat} {c : Char} (h : characterOf? n = some c) :
    isXmlChar c = true := by
  unfold characterOf? at h
  split at h
  next hvalid =>
    dsimp only at h
    split at h
    next hc =>
      cases h
      exact hc
    next => cases h
  next => cases h

lemma isXmlChar_of_predefined? {name : List Char} {c : Char} (h : predefined? name = some c) :
    isXmlChar c = true := by
  have hknown : ∀ p ∈ [("lt", '<'), ("gt", '>'), ("amp", '&'), ("quot", '"'), ("apos", '\'')],
      isXmlChar p.2 = true := by decide
  obtain ⟨before, after, heq, -⟩ := List.lookup_eq_some_iff.mp h
  refine hknown (String.ofList name, c) ?_
  rw [heq]
  exact List.mem_append_right _ List.mem_cons_self

lemma yields_readCharacterNumber {isDigit : Char → Bool} {value : List Char → Nat} :
    Yields (fun found => found.1.IsText) (readCharacterNumber isDigit value cs) := by
  unfold readCharacterNumber
  split
  · exact yields_refuse
  · refine yields_ok.mpr fun c hc => ?_
    rw [Reference.character.injEq] at hc
    exact isXmlChar_of_characterOf? hc
  · exact yields_refuse

lemma yields_readReference : Yields (fun found => found.1.IsText) (readReference cs) := by
  unfold readReference
  split
  · exact yields_readCharacterNumber
  · exact yields_readCharacterNumber
  · refine Yields.of_forall fun (name, rest) => ?_
    dsimp only
    split
    · exact yields_pure (Reference.isText_entity name)
    · exact yields_refuseInName

/-! ### Pieces -/

def ValuePart.IsText : ValuePart → Prop
  | .char c => isXmlChar c = true
  | .reference r _ => r.IsText

lemma yields_readValue (quote : Char) (cs : List Char) (n : Nat) :
    Yields (fun found => ∀ part ∈ found.1, part.IsText) (readValue quote cs n) := by
  induction n generalizing cs with
  | zero => exact yields_refuse
  | succ n ih =>
    unfold readValue
    split
    next => exact yields_error
    next c rest =>
    split
    next => exact yields_ok.mpr (List.forall_mem_nil _)
    split
    next =>
      refine yields_readReference.bind fun (r, after) hr => ?_
      refine (ih after).bind fun (parts, after) hparts => ?_
      exact yields_pure (List.forall_mem_cons.mpr ⟨hr, hparts⟩)
    split
    next => exact yields_refuseInName
    next hc =>
      have hc : isXmlChar c = true := by simp_all
      refine (ih _).bind fun (parts, after) hparts => ?_
      exact yields_pure (List.forall_mem_cons.mpr ⟨hc, hparts⟩)

lemma isText_valueParts (cs : List Char) (n : Nat) :
    ∀ part ∈ (valueParts cs n).1, part.IsText := by
  induction n generalizing cs with
  | zero => exact List.forall_mem_nil _
  | succ n ih =>
    unfold valueParts
    split
    next => exact List.forall_mem_nil _
    next c rest =>
    split
    next =>
      split
      next r after hread =>
        exact List.forall_mem_cons.mpr ⟨yields_readReference _ hread, ih after⟩
      next => exact List.forall_mem_nil _
    split
    next => exact List.forall_mem_nil _
    next hc =>
      have hc : isXmlChar c = true := by simp_all
      exact List.forall_mem_cons.mpr ⟨hc, ih rest⟩

lemma isText_unifyLineEndParts {parts : List ValuePart} (h : ∀ part ∈ parts, part.IsText) :
    ∀ part ∈ unifyLineEndParts parts, part.IsText := by
  have hfeed : (ValuePart.char '\n').IsText := by rw [ValuePart.IsText]; decide
  fun_induction unifyLineEndParts parts with
  | case1 rest ih =>
    exact List.forall_mem_cons.mpr ⟨hfeed, ih fun part hpart => h part (by simp [hpart])⟩
  | case2 rest _ ih =>
    exact List.forall_mem_cons.mpr ⟨hfeed, ih fun part hpart => h part (by simp [hpart])⟩
  | case3 part rest _ _ ih =>
    obtain ⟨hpart, hrest⟩ := List.forall_mem_cons.mp h
    exact List.forall_mem_cons.mpr ⟨hpart, ih hrest⟩
  | case4 => exact h

def RawAttribute.IsText (a : RawAttribute) : Prop :=
  ∀ part ∈ a.value, part.IsText

lemma yields_readAttribute : Yields (fun found => found.1.IsText) (readAttribute cs) := by
  unfold readAttribute
  refine Yields.of_forall fun (name, rest) => ?_
  dsimp only
  split
  · split
    · split
      · split
        · split
          · exact (yields_readValue _ _ _).bind fun (value, rest) hvalue => yields_pure hvalue
          · exact yields_refuse
        · exact yields_refuse
      · exact yields_refuse
    · exact yields_refuseInName
  · exact yields_refuse

lemma yields_readAttributes (cs : List Char) (n : Nat) :
    Yields (fun found => ∀ a ∈ found.1.1, a.IsText) (readAttributes cs n) := by
  induction n generalizing cs with
  | zero => exact yields_refuse
  | succ n ih =>
    unfold readAttributes
    split
    next found _ => exact Yields.map_of_forall fun _ => List.forall_mem_nil _
    split
    next =>
      split
      next =>
        dsimp only
        split
        next found _ => exact Yields.map_of_forall fun _ => List.forall_mem_nil _
        next =>
          refine yields_readAttribute.bind ?_
          rintro ⟨a, rest⟩ ha
          refine (ih rest).bind ?_
          rintro ⟨⟨more, tagEnd⟩, rest⟩ hmore
          exact yields_pure (List.forall_mem_cons.mpr ⟨ha, hmore⟩)
      next => exact yields_refuse
    next => exact yields_refuse

def Piece.IsText : Piece → Prop
  | .text cs => Xml.IsText cs
  | .reference r => r.IsText
  | .openTag _ attributes _ => ∀ a ∈ attributes, a.IsText
  | .closeTag _ | .rawText | .aside | .declaration => True

lemma Piece.IsText.unifyLineEnds {piece : Piece} (h : piece.IsText) :
    piece.unifyLineEnds.IsText := by
  cases piece with
  | text cs => exact isText_unifyLineEnds h
  | openTag name attributes closed =>
    refine List.forall_mem_map.mpr fun a ha => ?_
    exact isText_unifyLineEndParts (h a ha)
  | _ => exact h

lemma yields_readText (cs : List Char) : Yields (fun found => IsText found.1) (readText cs) := by
  fun_induction readText cs with
  | case1 => exact yields_ok.mpr isText_nil
  | case2 => exact yields_error
  | case3 => exact yields_ok.mpr isText_nil
  | case4 c rest _ hc ih =>
    have hc : isXmlChar c = true := by simp_all
    exact ih.map fun found h => isText_cons.mpr ⟨hc, h⟩

lemma yields_readRawText (whole cs : List Char) :
    Yields (fun found => IsText found.1) (readRawText whole cs) := by
  fun_induction readRawText whole cs with
  | case1 => exact yields_error
  | case2 => exact yields_ok.mpr isText_nil
  | case3 => exact yields_error
  | case4 => exact yields_error
  | case5 c rest _ _ hc ih =>
    have hc : isXmlChar c = true := by simp_all
    exact ih.map fun found h => isText_cons.mpr ⟨hc, h⟩

lemma yields_readCloseTag : Yields (fun found => found.1.IsText) (readCloseTag cs) := by
  unfold readCloseTag
  refine Yields.of_forall fun (name, rest) => ?_
  dsimp only
  split
  · exact yields_pure trivial
  · split
    · split
      · exact yields_pure trivial
      · exact yields_refuse
    · exact yields_refuseInName
  · exact yields_refuse

lemma yields_readOpenTag : Yields (fun found => found.1.IsText) (readOpenTag cs) := by
  unfold readOpenTag
  refine Yields.of_forall fun (name, rest) => ?_
  have hattributes := yields_readAttributes rest (rest.length + 1)
  dsimp only
  split
  next found _ =>
    exact Yields.of_forall fun _ => yields_pure (List.forall_mem_nil _)
  next =>
    split
    · split
      · exact Yields.of_forall fun _ => hattributes.bind fun _ hfound => yields_pure hfound
      · exact hattributes.bind fun _ hfound => yields_pure hfound
    · exact Yields.of_forall fun _ => hattributes.bind fun _ hfound => yields_pure hfound

lemma yields_readExclamation : Yields (fun found => found.1.IsText) (readExclamation cs) := by
  unfold readExclamation
  split
  · exact Yields.map_of_forall fun _ => trivial
  · dsimp only
    split
    · exact yields_ok.mpr trivial
    · split
      · exact yields_error
      · exact yields_refuse
  · exact yields_refuse

lemma yields_readPiece : Yields (fun found => found.1.IsText) (readPiece cs) := by
  unfold readPiece
  split
  · exact yields_readExclamation
  · refine Yields.map_of_forall fun _ => ?_
    dsimp only
    split <;> trivial
  · exact yields_readCloseTag
  · exact yields_readOpenTag
  · exact yields_readReference.map fun _ hr => hr
  · refine (yields_readText cs).bind fun (text, rest) htext => ?_
    dsimp only
    split
    · exact Yields.of_forall fun _ => yields_pure htext
    · exact yields_pure htext

/-- All pieces have texts of documents. -/
lemma isText_pieces (toClose : Bool) (depth : Nat) (cs : List Char) (n : Nat) :
    ∀ found ∈ (pieces toClose depth cs n).1, found.1.IsText := by
  induction n generalizing depth cs with
  | zero => exact List.forall_mem_nil _
  | succ n ih =>
    unfold pieces
    split
    next => exact List.forall_mem_nil _
    split
    next => exact List.forall_mem_nil _
    next =>
      split
      next => exact List.forall_mem_nil _
      next text rest htext =>
        exact List.forall_mem_cons.mpr ⟨yields_readRawText _ _ _ htext, ih depth rest⟩
    next piece rest _ hpiece =>
      have htext : piece.IsText := yields_readPiece _ hpiece
      dsimp only
      split
      · exact List.forall_mem_singleton.mpr htext
      · exact List.forall_mem_cons.mpr ⟨htext, ih _ rest⟩

/-! ### Taking pieces -/

lemma Building.takeAll_cons {d : Doctype} {b : Building} {found : List (Piece × List Char)}
    {here : List Char} {piece p : Piece} (hp : p.unifyLineEnds = piece) :
    b.takeAll d ((p, here) :: found) =
      b.accept d 0 (acceptEntity d (d.entities.length + 1) []) piece here >>=
        fun b => b.takeAll d found := by
  subst hp
  rfl

lemma Building.takeAll_of_accept {d : Doctype} {b b' : Building}
    {found : List (Piece × List Char)} {here : List Char} {piece p : Piece}
    (hp : p.unifyLineEnds = piece)
    (h : b.accept d 0 (acceptEntity d (d.entities.length + 1) []) piece here = .ok b') :
    b.takeAll d ((p, here) :: found) = b'.takeAll d found := by
  rw [takeAll_cons hp, h]
  rfl

end Recalc.Xml
