import Recalc.Proofs.Xml.Locality

/-!
# What follows a piece

Whatever follows a tag, a comment, an instruction or a section, it is read in the same way. A text
is read in the same way as far as the next character is the same.
-/

namespace Recalc.Xml

variable {cs rest : List Char}

/-! ### Comments and instructions -/

lemma local_commentBody : Local Any Eq readComment.body := by
  intro cs
  fun_induction readComment.body cs with
  | case1 rest =>
    exact yields_ok.mpr ⟨['-', '-', '>'], by simp, rfl, fun rest _ => ⟨_, rfl, rfl⟩⟩
  | case2 => exact yields_refuse
  | case3 c cs hclose hhyphens hc ih =>
    rintro found h
    obtain ⟨front, hne, rfl, hfront⟩ := ih found h
    refine ⟨c :: front, List.cons_ne_nil _ _, rfl, fun rest hrest => ?_⟩
    obtain ⟨_, rfl, hread⟩ := hfront rest hrest
    obtain ⟨d, front, rfl⟩ := List.exists_cons_of_ne_nil hne
    have hno (more : List Char) : c = '-' → d :: front ++ rest ≠ '-' :: more := by
      rintro hhyphen heq
      obtain ⟨rfl, -⟩ := List.cons.inj heq
      exact hhyphens _ hhyphen rfl
    refine ⟨_, rfl, ?_⟩
    rw [List.cons_append, readComment.body, if_pos hc, hread]
    · exact fun _ => hno _
    · exact hno
  | case4 => exact yields_refuseInName
  | case5 => exact yields_error

lemma local_readComment : Local Any Eq readComment := by
  intro cs
  rw [readComment.eq_def]
  split
  next cs =>
    rintro found h
    obtain ⟨front, -, rfl, hfront⟩ := local_commentBody cs found h
    exact ⟨'-' :: front, List.cons_ne_nil _ _, rfl, hfront⟩
  next => exact yields_refuse

lemma local_readInstructionBody : Local Any Eq readInstructionBody := by
  intro cs
  fun_induction readInstructionBody cs with
  | case1 rest => exact yields_ok.mpr ⟨['?', '>'], by simp, rfl, fun rest _ => ⟨_, rfl, rfl⟩⟩
  | case2 c cs hend hc ih =>
    refine ih.map ?_
    rintro ⟨text, rest⟩ ⟨front, hne, rfl, hfront⟩
    refine ⟨c :: front, List.cons_ne_nil _ _, rfl, fun rest hrest => ?_⟩
    obtain ⟨_, rfl, hread⟩ := hfront rest hrest
    obtain ⟨d, front, rfl⟩ := List.exists_cons_of_ne_nil hne
    refine ⟨_, rfl, ?_⟩
    rw [List.cons_append, readInstructionBody, if_pos hc, hread]
    · rfl
    · rintro more hquestion heq
      obtain ⟨rfl, -⟩ := List.cons.inj heq
      exact hend _ hquestion rfl
  | case3 => exact yields_refuseInName
  | case4 => exact yields_error

lemma local_readInstruction : Local Any Eq readInstruction := by
  intro cs
  refine Yields.bind (local_readName cs) ?_
  rintro ⟨target, after⟩ ⟨front, hne, rfl, hfront⟩
  dsimp only
  split
  next after =>
    split
    next => exact yields_refuse
    next hreserved =>
      split
      next rest =>
        refine yields_pure ⟨front ++ ['?', '>'], by simp, by simp, fun rest' _ => ⟨_, rfl, ?_⟩⟩
        obtain ⟨_, rfl, hread⟩ := hfront ('?' :: '>' :: rest') rfl
        rw [List.append_assoc, readInstruction]
        simp only [List.cons_append, List.nil_append, hread, Bind.bind, Except.bind,
          if_neg hreserved]
        rfl
      next => exact yields_refuse
  next c after hquestion =>
    split
    next hc =>
      split
      next => exact yields_refuse
      next hreserved =>
        refine Yields.bind (local_readInstructionBody (c :: after)) ?_
        rintro ⟨text, rest⟩ ⟨front', hne', hafter, hfront'⟩
        refine yields_pure ⟨front ++ front', by simp [hne], ?_, fun rest' hrest => ⟨_, rfl, ?_⟩⟩
        · rw [List.append_assoc, hafter]
        obtain ⟨d, front', rfl⟩ := List.exists_cons_of_ne_nil hne'
        obtain ⟨rfl, -⟩ := List.cons.inj hafter
        obtain ⟨_, rfl, hread⟩ := hfront (d :: front' ++ rest') rfl
        obtain ⟨_, rfl, hread'⟩ := hfront' rest' hrest
        rw [List.append_assoc, readInstruction, hread]
        rw [List.cons_append] at hread' ⊢
        simp only [Bind.bind, Except.bind, if_pos hc, if_neg hreserved, hread']
        rfl
    next => exact yields_refuseInName
  next => exact yields_refuse

/-! ### Text -/

/-- Text ends here. -/
def EndsText (cs : List Char) : Prop :=
  ∀ c ∈ cs.head?, c = '<' ∨ c = '&' ∨ isXmlChar c = false

lemma EndsText.alike (h : EndsText cs) (hcs : Alike cs rest) : EndsText rest := by
  unfold EndsText
  rwa [← show cs.head? = rest.head? from hcs]

/-- Characters of a text stand before its end. -/
lemma EndsText.exists_append {front more : List Char} (hrest : EndsText rest) (word : List Char)
    (hword : ∀ c ∈ word, c ≠ '<' ∧ c ≠ '&' ∧ isXmlChar c = true)
    (h : front ++ rest = word ++ more) : ∃ back, front = word ++ back := by
  rcases List.append_eq_append_iff.mp h with ⟨back, rfl, hback⟩ | ⟨back, rfl, -⟩
  · cases back with
    | nil => exact ⟨[], by simp⟩
    | cons c back =>
      subst hback
      obtain ⟨hlt, hamp, hxml⟩ := hword c (by simp)
      rcases hrest c rfl with rfl | rfl | hno
      · exact absurd rfl hlt
      · exact absurd rfl hamp
      · rw [hxml] at hno
        cases hno
  · exact ⟨back, rfl⟩

/-- Nothing is read just where the text ends at once. -/
lemma taken_readText (cs : List Char) : Yields (fun found => EndsText found.2 ∧
    ∃ front, (front = [] → found.1 = []) ∧ front ++ found.2 = cs ∧
      ∀ rest, Alike found.2 rest → readText (front ++ rest) = .ok (found.1, rest))
    (readText cs) := by
  fun_induction readText cs with
  | case1 =>
    refine yields_ok.mpr ⟨by simp [EndsText], [], fun _ => rfl, rfl, fun rest hrest => ?_⟩
    cases rest with
    | nil => rfl
    | cons c rest => cases hrest
  | case2 => exact yields_error
  | case3 c cs hclose hc =>
    have hends : EndsText (c :: cs) := by
      rintro _ ⟨⟩
      simpa [or_assoc] using hc
    refine yields_ok.mpr ⟨hends, [], fun _ => rfl, rfl, fun rest hrest => ?_⟩
    obtain ⟨more, rfl⟩ := Alike.exists_cons (Eq.symm hrest)
    rw [List.nil_append, readText, if_pos hc]
    rintro _ rfl
    exact absurd hc (by decide)
  | case4 c cs hclose hc ih =>
    refine ih.map ?_
    rintro ⟨text, rest⟩ ⟨hends, front, -, rfl, hfront⟩
    refine ⟨hends, c :: front, by simp, rfl, fun rest hrest => ?_⟩
    -- What follows ends the text, so the sign does not reach into it.
    have hrests := hends.alike hrest
    rw [List.cons_append, readText, if_neg hc, hfront rest hrest]
    · rfl
    · rintro more hbracket heq
      obtain ⟨back, rfl⟩ := hrests.exists_append [']', '>'] (by simp; decide) heq
      exact hclose _ hbracket rfl

/-- A section ends with a sign of its own, wherever it began. -/
lemma taken_readRawText (whole cs : List Char) : Yields (fun found =>
    ∃ front, 3 ≤ front.length ∧ front ++ found.2 = cs ∧
      ∀ whole rest, readRawText whole (front ++ rest) = .ok (found.1, rest))
    (readRawText whole cs) := by
  fun_induction readRawText whole cs with
  | case1 => exact yields_error
  | case2 rest => exact yields_ok.mpr ⟨[']', ']', '>'], by simp, rfl, fun _ _ => rfl⟩
  | case3 => exact yields_error
  | case4 => exact yields_error
  | case5 c cs hclose hcut hc ih =>
    refine ih.map ?_
    rintro ⟨text, rest⟩ ⟨front, hlength, rfl, hfront⟩
    refine ⟨c :: front, by simp; omega, rfl, fun whole rest => ?_⟩
    obtain ⟨d, e, front, rfl⟩ : ∃ d e more, front = d :: e :: more := by
      rcases front with _ | ⟨d, _ | ⟨e, more⟩⟩
      · simp at hlength
      · simp at hlength
      · exact ⟨d, e, more, rfl⟩
    rw [List.cons_append, readRawText, if_neg hcut, if_neg hc, hfront]
    · rfl
    · rintro more hbracket heq
      cases heq
      exact hclose _ hbracket rfl

/-! ### Pieces -/

lemma drop_takeWhile (p : Char → Bool) (cs : List Char) :
    cs.drop (cs.takeWhile p).length = cs.dropWhile p := by
  induction cs with
  | nil => rfl
  | cons c cs ih => by_cases hc : p c = true <;> simp [hc, ih]

/-- The characters after the first part of the name of an end tag that belong to the name, too. -/
def isTagPart (c : Char) : Bool :=
  isNamePart c || c = ':'

lemma readCloseTag_eq {name after : List Char} (hname : readName cs = .ok (name, after))
    (hclose : (after.dropWhile isTagPart).dropWhile isSpace = '>' :: rest) :
    readCloseTag cs = .ok (.closeTag (name ++ after.takeWhile isTagPart), rest) := by
  rw [readCloseTag, hname]
  simp only [Bind.bind, Except.bind]
  rw [show (fun c => isNamePart c || decide (c = ':')) = isTagPart from rfl, drop_takeWhile]
  split
  next heq =>
    rw [heq, List.dropWhile_cons_of_neg (by decide)] at hclose
    cases hclose
    rfl
  next c more hgt heq =>
    rw [heq] at hclose
    by_cases hc : isSpace c = true
    · rw [List.dropWhile_cons_of_pos hc] at hclose
      simp only [if_pos hc, hclose]
      rfl
    · rw [List.dropWhile_cons_of_neg hc] at hclose
      cases hclose
      exact absurd rfl hgt
  next heq =>
    rw [heq] at hclose
    cases hclose

lemma local_readCloseTag : Local Any Eq readCloseTag := by
  intro cs
  refine Yields.bind (local_readName cs) ?_
  rintro ⟨name, after⟩ ⟨front, hne, rfl, hfront⟩
  have htaken : ∀ rest, (after.dropWhile isTagPart).dropWhile isSpace = '>' :: rest →
      Taken Any Eq readCloseTag (front ++ after)
        (.closeTag (name ++ after.takeWhile isTagPart), rest) := by
    intro rest hclose
    have hafter := List.takeWhile_append_dropWhile (p := isTagPart) (l := after)
    have hspaces := List.takeWhile_append_dropWhile (p := isSpace) (l := after.dropWhile isTagPart)
    rw [hclose] at hspaces
    refine ⟨front ++ (after.takeWhile isTagPart ++
      ((after.dropWhile isTagPart).takeWhile isSpace ++ ['>'])), by simp, ?_, fun rest' _ => ?_⟩
    · simp only [List.append_assoc, List.singleton_append, hspaces, hafter]
    have hend : Alike ((after.dropWhile isTagPart).dropWhile isSpace) ('>' :: rest') := by
      rw [hclose]
      rfl
    have hpart := alike_takeWhile hend
    obtain ⟨_, rfl, hread⟩ := hfront _ (alike_takeWhile hpart)
    obtain ⟨htake, hdrop⟩ := takeWhile_exchange hpart
    refine ⟨_, rfl, ?_⟩
    simp only [List.append_assoc, List.singleton_append]
    rw [readCloseTag_eq hread (by rw [hdrop]; exact (takeWhile_exchange hend).2), htake]
  dsimp only
  rw [show (fun c => isNamePart c || decide (c = ':')) = isTagPart from rfl, drop_takeWhile]
  split
  next rest heq =>
    refine yields_pure (htaken rest ?_)
    rw [heq, List.dropWhile_cons_of_neg (by decide)]
  next c more hgt heq =>
    split
    next hc =>
      split
      next rest hclose =>
        refine yields_pure (htaken rest ?_)
        rw [heq, List.dropWhile_cons_of_pos hc, hclose]
      next => exact yields_refuse
    next => exact yields_refuseInName
  next => exact yields_refuse

lemma local_readExclamation : Local Any Eq readExclamation := by
  intro cs
  rw [readExclamation.eq_def]
  split
  next cs =>
    refine (local_readComment cs).map ?_
    rintro ⟨_, rest⟩ ⟨front, -, rfl, hfront⟩
    refine ⟨'-' :: front, List.cons_ne_nil _ _, rfl, fun rest hrest => ⟨_, rfl, ?_⟩⟩
    obtain ⟨_, -, hread⟩ := hfront rest hrest
    rw [List.cons_append, readExclamation, hread]
    rfl
  next cs =>
    dsimp only
    split
    next hopening =>
      obtain ⟨rest, rfl⟩ := List.isPrefixOf_iff_prefix.mp hopening
      rw [List.drop_left]
      refine yields_ok.mpr ⟨'[' :: "CDATA[".toList, List.cons_ne_nil _ _, rfl, fun rest _ => ?_⟩
      exact ⟨_, rfl, rfl⟩
    next =>
      split
      next => exact yields_error
      next => exact yields_refuse
  next => exact yields_refuse

def Piece.isText : Piece → Bool
  | .text _ => true
  | _ => false

/-- What is taken as a piece does not depend on what follows, as far as a text ends. -/
lemma taken_readPiece (cs : List Char) : Yields (fun found =>
      Taken (fun rest rest' => found.1.isText = true → Alike rest rest') Piece.Same readPiece cs
        found) (readPiece cs) := by
  rw [readPiece.eq_def]
  split
  next cs =>
    rintro ⟨piece, rest⟩ h
    obtain ⟨front, -, rfl, hfront⟩ := local_readExclamation cs _ h
    refine ⟨'<' :: '!' :: front, List.cons_ne_nil _ _, rfl, fun rest _ => ?_⟩
    obtain ⟨_, rfl, hread⟩ := hfront rest trivial
    exact ⟨piece, piece.same_refl, hread⟩
  next cs =>
    refine (local_readInstruction cs).map ?_
    rintro ⟨⟨target, text⟩, rest⟩ ⟨front, -, rfl, hfront⟩
    refine ⟨'<' :: '?' :: front, List.cons_ne_nil _ _, rfl, fun rest _ => ?_⟩
    obtain ⟨_, rfl, hread⟩ := hfront rest trivial
    refine ⟨_, Piece.same_refl _, ?_⟩
    rw [List.cons_append, List.cons_append, readPiece, hread]
    rfl
  next cs =>
    rintro ⟨piece, rest⟩ h
    obtain ⟨front, -, rfl, hfront⟩ := local_readCloseTag cs _ h
    refine ⟨'<' :: '/' :: front, List.cons_ne_nil _ _, rfl, fun rest _ => ?_⟩
    obtain ⟨_, rfl, hread⟩ := hfront rest trivial
    exact ⟨piece, piece.same_refl, hread⟩
  next cs hexclamation hquestion hslash =>
    rintro ⟨piece, rest⟩ h
    obtain ⟨front, hne, rfl, hfront⟩ := local_readOpenTag cs _ h
    -- The character that tells a start tag from other markup is one of the tag.
    obtain ⟨d, front, rfl⟩ := List.exists_cons_of_ne_nil hne
    refine ⟨'<' :: d :: front, List.cons_ne_nil _ _, rfl, fun rest _ => ?_⟩
    obtain ⟨piece', hsame, hread⟩ := hfront rest trivial
    refine ⟨piece', hsame, ?_⟩
    rw [List.cons_append, readPiece, hread]
    · rintro more heq
      cases heq
      exact hexclamation _ rfl
    · rintro more heq
      cases heq
      exact hquestion _ rfl
    · rintro more heq
      cases heq
      exact hslash _ rfl
  next cs =>
    refine (local_readReference cs).map ?_
    rintro ⟨r, rest⟩ ⟨front, -, rfl, hfront⟩
    refine ⟨'&' :: front, List.cons_ne_nil _ _, rfl, fun rest _ => ?_⟩
    obtain ⟨_, rfl, hread⟩ := hfront rest trivial
    refine ⟨_, Piece.same_refl _, ?_⟩
    rw [List.cons_append, readPiece, hread]
    rfl
  next hexclamation hquestion hslash hlt hamp =>
    refine Yields.bind (taken_readText cs) ?_
    rintro ⟨text, rest⟩ ⟨-, front, hnil, rfl, hfront⟩
    dsimp only
    split
    next => exact Yields.bind (P := fun _ => False) yields_refuseInName fun _ h => h.elim
    next htext =>
      have hne : text ≠ [] := by simpa using htext
      obtain ⟨c, front, rfl⟩ := List.exists_cons_of_ne_nil fun h => hne (hnil h)
      refine yields_pure ⟨c :: front, List.cons_ne_nil _ _, rfl, fun rest' hrest => ?_⟩
      refine ⟨_, Piece.same_refl _, ?_⟩
      refine readPiece_text ?_ ?_ (hfront rest' (hrest rfl)) hne
      · rintro rfl
        exact hlt _ rfl
      · rintro rfl
        exact hamp _ rfl

/-- The text begins with a piece, and this is what follows; a section is a text. -/
inductive Begins (cs : List Char) : Piece → List Char → Prop
  | markup {piece : Piece} {rest : List Char} (h : readPiece cs = .ok (piece, rest))
      (hne : piece ≠ .rawText) : Begins cs piece rest
  | rawText {after text rest : List Char} (h : readPiece cs = .ok (.rawText, after))
      (htext : readRawText after after = .ok (text, rest)) : Begins cs (.text text) rest

/-- Behind a tag there may be any other text instead, and behind a text any that begins alike. -/
lemma Begins.exchange {piece : Piece} (h : Begins cs piece rest) : ∃ front, front ≠ [] ∧
    front ++ rest = cs ∧ ∀ rest', (piece.isText = true → Alike rest rest') →
      ∃ piece', piece.Same piece' ∧ Begins (front ++ rest') piece' rest' := by
  cases h with
  | markup h hne =>
    obtain ⟨front, hfront, hcs, hread⟩ := taken_readPiece cs _ h
    refine ⟨front, hfront, hcs, fun rest' hrest => ?_⟩
    obtain ⟨piece', hsame, hpiece⟩ := hread rest' hrest
    refine ⟨piece', hsame, .markup hpiece ?_⟩
    rintro rfl
    cases hsame
    exact hne rfl
  | @rawText after text rest h htext =>
    obtain ⟨front, hfront, rfl, hread⟩ := taken_readPiece cs _ h
    obtain ⟨front', -, rfl, hread'⟩ := taken_readRawText _ _ _ htext
    refine ⟨front ++ front', by simp [hfront], List.append_assoc _ _ _, fun rest' _ => ?_⟩
    obtain ⟨piece', hsame, hpiece⟩ := hread (front' ++ rest') fun htext => by cases htext
    cases hsame
    refine ⟨.text text, Piece.same_refl _, ?_⟩
    rw [List.append_assoc]
    exact .rawText hpiece (hread' _ rest')

end Recalc.Xml
