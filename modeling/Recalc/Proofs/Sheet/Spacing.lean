import Recalc.Proofs.Sheet.Markup
import Recalc.Proofs.Xml.Lookahead

/-!
# Blanks and comments between elements

Wherever a tag stands outside of the fields, blanks and comments may be put in front of it, and the
document has the same markup. So it stores the same sheet.
-/

namespace Recalc.Xml

variable {cs cs' rest rest' gap : List Char} {depth n m : Nat} {piece : Piece}

/-! ### The pieces of a text -/

lemma Begins.length_lt (h : Begins cs piece rest) : rest.length < cs.length := by
  obtain ⟨front, hne, rfl, -⟩ := h.exchange
  have hone := List.length_pos_iff.mpr hne
  rw [List.length_append]
  omega

lemma takenPieces_of_begins (h : Begins cs piece rest) (depth n : Nat) :
    takenPieces (pieces true depth cs (n + 1)).1 =
      if piece.isTag = true ∧ piece.depthAfter depth = 0 then [piece.unifyLineEnds]
      else
        piece.unifyLineEnds :: takenPieces (pieces true (piece.depthAfter depth) rest n).1 := by
  have hne : ¬cs.isEmpty = true := by
    have hlength := h.length_lt
    cases cs with
    | nil => cases hlength
    | cons c cs => exact Bool.false_ne_true
  rw [pieces, if_neg hne]
  cases h with
  | markup h hne =>
    split
    next heq =>
      rw [h] at heq
      cases heq
    next heq =>
      rw [h] at heq
      cases heq
      exact absurd rfl hne
    next heq =>
      rw [h] at heq
      cases heq
      simp only [Bool.and_eq_true, decide_eq_true_eq, true_and]
      split <;> rfl
  | rawText h htext =>
    rw [h]
    simp only [htext]
    rfl

lemma pieces_of_not_begins (h : ∀ piece rest, ¬Begins cs piece rest) (depth n : Nat) :
    (pieces true depth cs n).1 = [] := by
  cases n with
  | zero => rfl
  | succ n =>
    rw [pieces]
    split
    next => rfl
    split
    next => rfl
    next hpiece =>
      split
      next => rfl
      next htext => exact absurd (.rawText hpiece htext) (h _ _)
    next hne hpiece => exact absurd (.markup hpiece hne) (h _ _)

lemma takenPieces_congr (hn : cs.length < n) (hm : cs.length < m) :
    takenPieces (pieces true depth cs n).1 = takenPieces (pieces true depth cs m).1 := by
  induction n generalizing depth cs m with
  | zero => cases hn
  | succ n ih =>
    obtain ⟨m, rfl⟩ : ∃ k, m = k + 1 := ⟨m - 1, by omega⟩
    by_cases hbegins : ∃ piece rest, Begins cs piece rest
    · obtain ⟨piece, rest, hbegins⟩ := hbegins
      have hlength := hbegins.length_lt
      rw [takenPieces_of_begins hbegins, takenPieces_of_begins hbegins,
        ih (by omega : rest.length < n) (by omega : rest.length < m)]
    · simp only [not_exists] at hbegins
      rw [pieces_of_not_begins hbegins, pieces_of_not_begins hbegins]

lemma piecesFrom_of_begins (h : Begins cs piece rest) (depth : Nat) : piecesFrom depth cs =
    if piece.isTag = true ∧ piece.depthAfter depth = 0 then [piece.unifyLineEnds]
    else piece.unifyLineEnds :: piecesFrom (piece.depthAfter depth) rest := by
  rw [piecesFrom, takenPieces_of_begins h, takenPieces_congr h.length_lt (Nat.lt_succ_self _)]
  rfl

/-! ### Blanks and comments -/

/-- The characters inside a comment: two hyphens would end it. -/
def IsComment (body : List Char) : Prop :=
  IsText body ∧ ¬['-', '-'] <:+: body ++ ['-']

/-- Nothing but blanks and comments. -/
inductive IsGap : List Char → Prop
  | nil : IsGap []
  | blank {c : Char} {gap : List Char} (hc : isSpace c = true) (h : IsGap gap) : IsGap (c :: gap)
  | comment {body gap : List Char} (hbody : IsComment body) (h : IsGap gap) :
      IsGap ("<!--".toList ++ body ++ "-->".toList ++ gap)

lemma readComment_body {body : List Char} (hbody : IsComment body) (rest : List Char) :
    readComment.body (body ++ '-' :: '-' :: '>' :: rest) = .ok ((), rest) := by
  obtain ⟨htext, hhyphens⟩ := hbody
  induction body with
  | nil => rfl
  | cons c body ih =>
    obtain ⟨hc, htext⟩ := isText_cons.mp htext
    have hmore : ¬['-', '-'] <:+: body ++ ['-'] := fun h =>
      hhyphens (h.trans (List.infix_cons (List.infix_refl _)))
    have hno (more : List Char) : c = '-' → body ++ '-' :: '-' :: '>' :: rest ≠ '-' :: more := by
      rintro rfl heq
      refine hhyphens ?_
      cases body with
      | nil => exact ⟨[], [], rfl⟩
      | cons d body =>
        obtain ⟨rfl, -⟩ := List.cons.inj heq
        exact ⟨[], body ++ ['-'], rfl⟩
    rw [List.cons_append, readComment.body, if_pos hc, ih htext hmore]
    · exact fun _ => hno _
    · exact hno

lemma begins_comment {body : List Char} (hbody : IsComment body) (rest : List Char) :
    Begins ("<!--".toList ++ body ++ "-->".toList ++ rest) .aside rest := by
  have hread := readComment_body hbody rest
  refine .markup ?_ fun h => by cases h
  have htext : "<!--".toList ++ body ++ "-->".toList ++ rest =
      '<' :: '!' :: '-' :: '-' :: (body ++ '-' :: '-' :: '>' :: rest) := by simp
  rw [htext, readPiece, readExclamation, readComment, hread]
  rfl

lemma readText_of_isSpace {c : Char} {text : List Char} (hc : isSpace c = true)
    (h : readText cs = .ok (text, rest)) : readText (c :: cs) = .ok (c :: text, rest) := by
  have hplain : c ≠ ']' ∧ ¬(decide (c = '<') || decide (c = '&') || !isXmlChar c) = true := by
    simp only [isSpace, Bool.or_eq_true, decide_eq_true_eq] at hc
    rcases hc with ((rfl | rfl) | rfl) | rfl <;> decide
  rw [readText, if_neg hplain.2, h]
  · rfl
  · exact fun _ hbracket => absurd hbracket hplain.1

/-- Blanks are taken up to the next comment. -/
lemma IsGap.exists_readText (h : IsGap gap) (hcs : cs.head? = some '<') : ∃ text after,
    readText (gap ++ cs) = .ok (text, after ++ cs) ∧ IsGap after ∧ after.length ≤ gap.length := by
  have hmarkup (more : List Char) : readText ('<' :: more) = .ok ([], '<' :: more) := by
    rw [readText]
    · rfl
    · exact fun _ hbracket => absurd hbracket (by decide)
  induction h with
  | nil =>
    obtain ⟨more, rfl⟩ := List.head?_eq_some_iff.mp hcs
    exact ⟨[], [], hmarkup more, .nil, Nat.le_refl _⟩
  | blank hc h ih =>
    obtain ⟨text, after, hread, hafter, hlength⟩ := ih
    exact ⟨_, after, readText_of_isSpace hc hread, hafter, Nat.le_succ_of_le hlength⟩
  | @comment body gap hbody h =>
    refine ⟨[], "<!--".toList ++ body ++ "-->".toList ++ gap, ?_, .comment hbody h, Nat.le_refl _⟩
    exact hmarkup ('!' :: '-' :: '-' :: body ++ "-->".toList ++ gap ++ cs)

/-- The pieces of a gap are comments and blank texts. -/
lemma IsGap.exists_pieces (h : IsGap gap) (hcs : cs.head? = some '<') (depth : Nat) :
    ∃ asides : List Piece, (∀ piece ∈ asides, piece = .aside ∨ piece.isText = true) ∧
      piecesFrom depth (gap ++ cs) = asides ++ piecesFrom depth cs := by
  induction hn : gap.length using Nat.strong_induction_on generalizing gap with
  | _ n ih =>
    subst hn
    cases h with
    | nil => exact ⟨[], List.forall_mem_nil _, rfl⟩
    | @blank c gap hc h =>
      -- The blanks up to the next comment are one piece, so the induction is on the length.
      obtain ⟨text, after, hread, hafter, hlength⟩ := h.exists_readText hcs
      have hread' := readText_of_isSpace hc hread
      have hplain : c ≠ '<' ∧ c ≠ '&' := by
        simp only [isSpace, Bool.or_eq_true, decide_eq_true_eq] at hc
        rcases hc with ((rfl | rfl) | rfl) | rfl <;> decide
      have hbegins : Begins (c :: gap ++ cs) (.text (c :: text)) (after ++ cs) :=
        .markup (readPiece_text hplain.1 hplain.2 hread' (List.cons_ne_nil _ _)) fun h => by cases h
      obtain ⟨asides, hasides, hpieces⟩ := ih after.length (Nat.lt_succ_of_le hlength) hafter rfl
      refine ⟨.text (Text.unifyLineEnds (c :: text)) :: asides,
        List.forall_mem_cons.mpr ⟨.inr rfl, hasides⟩, ?_⟩
      rw [piecesFrom_of_begins hbegins, if_neg (by simp [Piece.isTag])]
      exact congrArg _ hpieces
    | @comment body gap hbody h =>
      obtain ⟨asides, hasides, hpieces⟩ := ih gap.length (by simp; omega) h rfl
      refine ⟨.aside :: asides, List.forall_mem_cons.mpr ⟨.inl rfl, hasides⟩, ?_⟩
      rw [List.append_assoc, piecesFrom_of_begins (begins_comment hbody _),
        if_neg (by simp [Piece.isTag])]
      exact congrArg _ hpieces

/-! ### Documents with gaps -/

/-- From a place inside so many elements on, the second text is the first with gaps put between the
tags, comments and sections outside of the fields. -/
inductive Spaced : Nat → List Char → List Char → Prop
  | refl (depth : Nat) (cs : List Char) : Spaced depth cs cs
  | gap {depth : Nat} {gap cs cs' : List Char} (hdepth : depth ≤ 2) (hgap : IsGap gap)
      (hcs : cs'.head? = some '<') (h : Spaced depth cs cs') : Spaced depth cs (gap ++ cs')
  | piece {depth : Nat} {front cs cs' : List Char} {piece : Piece}
      (hbegins : Begins (front ++ cs) piece cs) (htext : piece.isText = true → Alike cs cs')
      (h : Spaced (piece.depthAfter depth) cs cs') : Spaced depth (front ++ cs) (front ++ cs')

lemma sameMarkup_refl (depth : Nat) (pieces : List Piece) : SameMarkup depth pieces pieces := by
  induction pieces generalizing depth with
  | nil => exact .nil depth
  | cons piece pieces ih => exact .piece piece.same_refl (ih _)

lemma SameMarkup.asides {asides rest rest' : List Piece} (hdepth : depth ≤ 2)
    (hasides : ∀ piece ∈ asides, piece = .aside ∨ piece.isText = true)
    (h : SameMarkup depth rest rest') : SameMarkup depth rest (asides ++ rest') := by
  induction asides with
  | nil => exact h
  | cons piece asides ih =>
    obtain ⟨hpiece, hasides⟩ := List.forall_mem_cons.mp hasides
    have hmore := (ih hasides).symm
    cases piece with
    | text cs => exact (hmore.text hdepth).symm
    | aside => exact hmore.aside.symm
    | _ => simp [Piece.isText] at hpiece

lemma Piece.Same.depthAfter_eq {piece piece' : Piece} (h : piece.Same piece') (depth : Nat) :
    piece'.depthAfter depth = piece.depthAfter depth := by
  cases h with
  | @openTag name attributes attributes' closed h => cases closed <;> rfl
  | other _ => rfl

lemma Piece.Same.isTag_eq {piece piece' : Piece} (h : piece.Same piece') :
    piece'.isTag = piece.isTag := by
  cases h with
  | openTag _ => rfl
  | other _ => rfl

/-- Gaps make no difference to the markup. -/
lemma Spaced.sameMarkup (h : Spaced depth cs cs') :
    SameMarkup depth (piecesFrom depth cs) (piecesFrom depth cs') := by
  induction h with
  | refl depth cs => exact sameMarkup_refl depth _
  | gap hdepth hgap hcs h ih =>
    obtain ⟨asides, hasides, hpieces⟩ := hgap.exists_pieces hcs _
    rw [hpieces]
    exact ih.asides hdepth hasides
  | @piece depth front cs cs' piece hbegins htext h ih =>
    obtain ⟨front', -, hfront, hexchange⟩ := hbegins.exchange
    obtain rfl := List.append_cancel_right hfront
    obtain ⟨piece', hsame, hbegins'⟩ := hexchange cs' htext
    rw [piecesFrom_of_begins hbegins, piecesFrom_of_begins hbegins', hsame.isTag_eq,
      hsame.depthAfter_eq]
    split
    next => exact .piece hsame.unifyLineEnds (.nil _)
    next =>
      rw [← piece.depthAfter_unifyLineEnds] at ih ⊢
      exact .piece hsame.unifyLineEnds ih

/-- Both documents declare the same and have the same markup, or the second is the first with gaps.
What stands in front of their outermost elements may be different otherwise. -/
def SameDocuments (octets octets' : List UInt8) : Prop :=
  ∃ opening opening' d cs cs', readOpening octets = .ok opening ∧
    readOpening octets' = .ok opening' ∧
    readProlog opening.standalone opening.body = .ok (d, cs) ∧
    readProlog opening'.standalone opening'.body = .ok (d, cs') ∧
    (SameMarkup 0 (piecesFrom 0 cs) (piecesFrom 0 cs') ∨ Spaced 0 cs cs')

lemma SameDocuments.sameElements {octets octets' : List UInt8} {root root' : Element}
    (h : SameDocuments octets octets') (hparse : parse octets = .ok root)
    (hparse' : parse octets' = .ok root') : SameElements 3 [root.toNode] [root'.toNode] := by
  obtain ⟨opening, opening', d, cs, cs', hopening, hopening', hprolog, hprolog', h⟩ := h
  have hmarkup : SameMarkup 0 (piecesFrom 0 cs) (piecesFrom 0 cs') := by
    rcases h with hmarkup | hspaced
    · exact hmarkup
    · exact hspaced.sameMarkup
  rw [parse, hopening] at hparse
  rw [parse, hopening'] at hparse'
  have hbody : Agree (fun e e' => SameElements 3 [e.toNode] [e'.toNode])
      (readBody opening.standalone opening.body) (readBody opening'.standalone opening'.body) := by
    unfold readBody
    rw [hprolog, hprolog']
    refine hmarkup.agree_readElement.bind ?_
    rintro ⟨e, rest⟩ ⟨e', rest'⟩ he
    refine (agree_true _ _).bind fun _ _ _ => agree_ok he
  exact hbody.mapError root root' hparse hparse'

end Recalc.Xml
