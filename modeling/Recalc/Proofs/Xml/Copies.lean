import Recalc.Proofs.Xml.Document

/-!
# Entities of references

The text of an entity may be nothing but references to another one. Where that leaves the content as
it is, so does the entity, however often it refers to the other, but each reference counts for the
guard with all that it stands for. So there are short documents that are well-formed, and that the
guard stops.
-/

namespace Recalc.Xml

variable {d : Doctype} {name inner text rest : List Char} {active : List (List Char)}
  {k m n octets : Nat}

/-! ### Texts of references -/

/-- A reference to an entity. -/
def reference (name : List Char) : List Char :=
  '&' :: (name ++ [';'])

def references (name : List Char) (k : Nat) : List Char :=
  (List.replicate k (reference name)).flatten

lemma references_succ (name : List Char) (k : Nat) :
    references name (k + 1) = reference name ++ references name k := by
  rw [references, List.replicate_succ, List.flatten_cons, references]

lemma readPiece_reference (hname : IsPlainName name) (rest : List Char) :
    readPiece (reference name ++ rest) = .ok (.reference (.entity name), rest) := by
  have hread : readReference (name ++ ';' :: rest) = .ok (.entity name, rest) := by
    have hplain : readName (name ++ ';' :: rest) = .ok (name, ';' :: rest) :=
      readName_append hname (by decide)
    obtain ⟨c, cs, rfl, hc, -⟩ := hname
    have hnumber : c ≠ '#' := by
      rintro rfl
      exact absurd hc (by decide)
    rw [readReference, hplain]
    · rfl
    · exact fun _ heq => hnumber (List.cons.inj heq).1
    · exact fun _ heq => hnumber (List.cons.inj heq).1
  rw [reference, List.cons_append, List.append_assoc, List.singleton_append, readPiece, hread]
  rfl

lemma pieceSource_reference (hname : IsPlainName name) (rest : List Char) :
    Doctype.pieceSource (reference name ++ rest) = reference name := by
  simp [Doctype.pieceSource, Doctype.afterPiece, readPiece_reference hname]

/-- The pieces of such a text are its references. -/
lemma pieces_references (hname : IsPlainName name) (hk : k < n) :
    ∃ found, pieces false 0 (references name k) n = (found, .ranOut) ∧ found.length = k ∧
      ∀ p ∈ found, p.1 = .reference (.entity name) ∧ Doctype.pieceSource p.2 = reference name := by
  induction k generalizing n with
  | zero =>
    obtain ⟨n, rfl⟩ : ∃ m, n = m + 1 := ⟨n - 1, by omega⟩
    exact ⟨[], rfl, rfl, List.forall_mem_nil _⟩
  | succ k ih =>
    obtain ⟨n, rfl⟩ : ∃ m, n = m + 1 := ⟨n - 1, by omega⟩
    obtain ⟨found, hpieces, hlength, hfound⟩ := ih (by omega : k < n)
    refine ⟨(.reference (.entity name), references name (k + 1)) :: found, ?_, by simp [hlength],
      List.forall_mem_cons.mpr ⟨⟨rfl, ?_⟩, hfound⟩⟩
    · rw [references_succ, pieces, if_neg (by simp [reference]), readPiece_reference hname]
      simp [Piece.depthAfter, hpieces]
    · rw [references_succ]
      exact pieceSource_reference hname _

lemma lt_length_references (name : List Char) (k : Nat) :
    k < (references name k).length + 1 := by
  induction k with
  | zero => exact Nat.succ_pos _
  | succ k ih =>
    rw [references_succ, List.length_append, reference, List.length_cons]
    omega

/-! ### Content -/

/-- Wherever the entity is referred to, the content stays as it is. -/
def Vanishes (d : Doctype) (n : Nat) (active : List (List Char)) (name text : List Char) : Prop :=
  ∀ b, Building.acceptEntity d n active name text b = .ok b

lemma vanishes_of_pieces {found : List (Piece × List Char)}
    (hpieces : pieces false 0 text (text.length + 1) = (found, .ranOut)) (hname : name ∉ active)
    (hfound : ∀ p ∈ found, ∀ b base,
      Building.accept d base (Building.acceptEntity d n (name :: active)) b p.1 p.2 = .ok b) :
    Vanishes d (n + 1) active name text := by
  intro b
  have hfold : found.foldlM (fun b' p => Building.accept d b.stack.length
      (Building.acceptEntity d n (name :: active)) b' p.1 p.2) b = .ok b := by
    clear hpieces
    induction found with
    | nil => rfl
    | cons p found ih =>
      obtain ⟨hp, hfound⟩ := List.forall_mem_cons.mp hfound
      rw [List.foldlM_cons, hp]
      exact ih hfound
  change ite (name ∈ active) _ _ = _
  rw [if_neg hname]
  simp only [hpieces, hfold, if_true]

lemma Vanishes.references (h : Vanishes d n (name :: active) inner text)
    (hinner : IsPlainName inner) (hlookup : d.entities.lookup inner = some (.internal text))
    (hpredefined : predefined? inner = none) (hname : name ∉ active) (k : Nat) :
    Vanishes d (n + 1) active name (references inner k) := by
  obtain ⟨found, hpieces, -, hfound⟩ := pieces_references hinner (lt_length_references inner k)
  refine vanishes_of_pieces hpieces hname fun p hp b base => ?_
  obtain ⟨hpiece, -⟩ := hfound p hp
  simp only [hpiece, Building.accept, hpredefined, hlookup, h b]
  rfl

/-! ### Charges -/

/-- Each reference counts, and all that it stands for. -/
lemma amounts_references (h : Amounts (d.entityCharges n text) m) (hinner : IsPlainName inner)
    (hlookup : d.entities.lookup inner = some (.internal text))
    (hpredefined : predefined? inner = none) (k : Nat) :
    Amounts (d.entityCharges (n + 1) (references inner k))
      (k * (octetCount (reference inner) + m)) := by
  obtain ⟨found, hpieces, hlength, hfound⟩ :=
    pieces_references hinner (lt_length_references inner k)
  rw [Doctype.entityCharges, hpieces]
  clear hpieces
  subst hlength
  induction found with
  | nil => exact (Nat.zero_mul _).symm ▸ .nil
  | cons p found ih =>
    obtain ⟨⟨hpiece, hsource⟩, hfound⟩ := List.forall_mem_cons.mp hfound
    rw [List.flatMap_cons, List.length_cons, Nat.succ_mul, Nat.add_comm]
    refine Amounts.append ?_ (ih hfound)
    simp only [hpiece, hsource, Doctype.pieceCharges, Doctype.referenceCharges, hpredefined,
      hlookup, Option.isSome_none, Bool.false_eq_true, if_false]
    exact h.indirect

/-! ### A document that the guard stops -/

/-- A document of ASCII with a document type and without a declaration is UTF-8. -/
lemma readOpening_of_doctype {cs : List Char} (h : IsText cs) (hcs : cs = '<' :: '!' :: rest) :
    readOpening (cs.flatMap String.utf8EncodeChar) = .ok ⟨cs, cs, false, .utf8⟩ := by
  subst hcs
  have hdetect : Encoding.detect (('<' :: '!' :: rest).flatMap String.utf8EncodeChar) = .utf8 := rfl
  rw [readOpening, hdetect]
  simp only [Encoding.decode, decodeUtf8_encoded h]
  rfl

/-- A comment of a hundred characters. -/
def swollenComment : List Char :=
  "<!--".toList ++ List.replicate 93 'x' ++ "-->".toList

/-- Each entity refers to the one before it, and the first one is the comment. -/
def swollenType : Doctype :=
  ⟨[(['a'], .internal swollenComment), (['b'], .internal (references ['a'] 20)),
    (['c'], .internal (references ['b'] 20)), (['d'], .internal (references ['c'] 20)),
    (['e'], .internal (references ['d'] 11))], [], false, false⟩

def swollenRoot : Element :=
  ⟨"spreadsheet", [("version", "1")], []⟩

/-- An element with a single attribute that holds nothing but the last entity. -/
def swollenContent : List Char :=
  "<spreadsheet version=\"1\">&e;</spreadsheet>".toList

def swollenText : List Char :=
  "<!DOCTYPE spreadsheet [<!ENTITY a \"".toList ++ swollenComment ++
    "\"><!ENTITY b \"".toList ++ references ['a'] 20 ++
    "\"><!ENTITY c \"".toList ++ references ['b'] 20 ++
    "\"><!ENTITY d \"".toList ++ references ['c'] 20 ++
    "\"><!ENTITY e \"".toList ++ references ['d'] 11 ++ "\">]>".toList ++ swollenContent

def swollenSource : Source :=
  ⟨.utf8, swollenText, 0⟩

set_option maxRecDepth 5000 in
lemma readProlog_swollen : readProlog false swollenText = .ok (swollenType, swollenContent) := by
  cbv

lemma isPlainName_single {c : Char} (hc : isNameStart c = true) : IsPlainName [c] :=
  ⟨c, [], rfl, hc, List.forall_mem_nil _⟩

lemma pieces_comment : pieces false 0 swollenComment (swollenComment.length + 1) =
    ([(.aside, swollenComment)], .ranOut) := by
  cbv

/-- The tags with the reference between them. -/
def swollenPieces : List (Piece × List Char) :=
  [(.openTag "spreadsheet".toList [⟨"version".toList, [.char '1'], 29⟩] false, swollenContent),
    (.reference (.entity ['e']), "&e;</spreadsheet>".toList),
    (.closeTag "spreadsheet".toList, "</spreadsheet>".toList)]

lemma pieces_swollen : pieces true 0 swollenContent (swollenContent.length + 1) =
    (swollenPieces, .closed []) := by
  cbv

lemma vanishes_swollen : Vanishes swollenType (swollenType.entities.length + 1) [] ['e']
    (references ['d'] 11) := by
  have ha : Vanishes swollenType 2 [['b'], ['c'], ['d'], ['e']] ['a'] swollenComment := by
    refine vanishes_of_pieces pieces_comment (by decide) ?_
    exact List.forall_mem_singleton.mpr fun b base => rfl
  have hb : Vanishes swollenType 3 [['c'], ['d'], ['e']] ['b'] (references ['a'] 20) :=
    ha.references (isPlainName_single rfl) rfl (by decide) (by decide) 20
  have hc : Vanishes swollenType 4 [['d'], ['e']] ['c'] (references ['b'] 20) :=
    hb.references (isPlainName_single rfl) rfl (by decide) (by decide) 20
  have hd : Vanishes swollenType 5 [['e']] ['d'] (references ['c'] 20) :=
    hc.references (isPlainName_single rfl) rfl (by decide) (by decide) 20
  exact hd.references (isPlainName_single rfl) rfl (by decide) (by decide) 11

/-- Its last entity counts for nine millions of octets. -/
lemma amounts_swollen : Amounts (swollenType.entityCharges 6 (references ['d'] 11)) 9077893 := by
  have ha : Amounts (swollenType.entityCharges 2 swollenComment) 100 := by
    rw [Doctype.entityCharges, pieces_comment]
    intro i
    rfl
  have hb : Amounts (swollenType.entityCharges 3 (references ['a'] 20)) 2060 :=
    amounts_references ha (isPlainName_single rfl) rfl (by decide) 20
  have hc : Amounts (swollenType.entityCharges 4 (references ['b'] 20)) 41260 :=
    amounts_references hb (isPlainName_single rfl) rfl (by decide) 20
  have hd : Amounts (swollenType.entityCharges 5 (references ['c'] 20)) 825260 :=
    amounts_references hc (isPlainName_single rfl) rfl (by decide) 20
  exact amounts_references hd (isPlainName_single rfl) rfl (by decide) 11

lemma accept_reference_swollen (b : Building) (here : List Char) :
    b.accept swollenType 0 (Building.acceptEntity swollenType (swollenType.entities.length + 1) [])
      (.reference (.entity ['e'])) here = .ok b := by
  have hpredefined : predefined? ['e'] = none := by decide
  have hlookup : swollenType.entities.lookup ['e'] = some (.internal (references ['d'] 11)) := rfl
  simp only [Building.accept, hpredefined, hlookup, vanishes_swollen b]
  rfl

lemma takeAll_swollen :
    Building.takeAll swollenType ⟨[], none⟩ swollenPieces = .ok ⟨[], some swollenRoot⟩ := by
  let opened : Building :=
    ⟨[⟨"spreadsheet".toList, ⟨"spreadsheet", [("version", "1")], .initial⟩, []⟩], none⟩
  have hopen (expand : List Char → List Char → Building → Except Problem Building) :
      Building.accept swollenType 0 expand ⟨[], none⟩ (.openTag "spreadsheet".toList
        [⟨"version".toList, [.char '1'], 29⟩] false) swollenContent = .ok opened := rfl
  have hclose (expand : List Char → List Char → Building → Except Problem Building)
      (here : List Char) : Building.accept swollenType 0 expand opened
        (.closeTag "spreadsheet".toList) here = .ok ⟨[], some swollenRoot⟩ := rfl
  calc Building.takeAll swollenType ⟨[], none⟩ swollenPieces
      = Building.takeAll swollenType opened swollenPieces.tail :=
        Building.takeAll_of_accept (by exact rfl) (hopen _)
    _ = Building.takeAll swollenType opened swollenPieces.tail.tail :=
        Building.takeAll_of_accept (by exact rfl) (accept_reference_swollen _ _)
    _ = Building.takeAll swollenType ⟨[], some swollenRoot⟩ [] :=
        Building.takeAll_of_accept (by exact rfl) (hclose _ _)

lemma readElement_swollen : readElement swollenType swollenContent = .ok (swollenRoot, []) := by
  rw [readElement, pieces_swollen]
  dsimp only
  rw [takeAll_swollen]
  rfl

lemma readBody_of_readElement {standalone : Bool} {cs : List Char} {root : Element}
    (hprolog : readProlog standalone cs = .ok (d, rest))
    (helement : readElement d rest = .ok (root, [])) : readBody standalone cs = .ok root := by
  rw [readBody, hprolog]
  simp only [Bind.bind, Except.bind, helement]
  rfl

lemma parse_of_readBody {o : List UInt8} {opening : Opening} {root : Element}
    (hopening : readOpening o = .ok opening)
    (hbody : readBody opening.standalone opening.body = .ok root) : parse o = .ok root := by
  rw [parse, hopening]
  exact placed_eq_ok_iff.mpr hbody

lemma readOpening_swollen : readOpening (Text.toUtf8 (String.ofList swollenText)) =
    .ok ⟨swollenText, swollenText, false, .utf8⟩ := by
  have htext : IsText swollenText := by decide +kernel
  have hstart : swollenText = '<' :: '!' :: swollenText.drop 2 := by decide +kernel
  rw [Text.toUtf8_ofList]
  exact readOpening_of_doctype htext hstart

/-- The document is well-formed. -/
theorem parse_swollen : parse (Text.toUtf8 (String.ofList swollenText)) = .ok swollenRoot := by
  have hbody : readBody false swollenText = .ok swollenRoot :=
    readBody_of_readElement readProlog_swollen readElement_swollen
  exact parse_of_readBody readOpening_swollen hbody

lemma contentCharges_append (s : Source) (found found' : List (Piece × List Char)) :
    s.contentCharges d (found ++ found') = s.contentCharges d found ++ s.contentCharges d found' :=
  List.flatMap_append

lemma contentCharges_singleton (s : Source) (piece : Piece) (here : List Char) :
    s.contentCharges d [(piece, here)] = s.charges d piece here :=
  List.append_nil _

/-- What is counted in front of the closing tag. -/
def swollenCharges : List (Nat × Charge) :=
  swollenSource.outsideCharges ⟨.doctype, .empty false, true⟩ swollenText ++
    swollenSource.contentCharges swollenType (swollenPieces.take 2)

set_option maxRecDepth 5000 in
lemma allCharges_swollen : swollenSource.allCharges false =
    swollenCharges ++ (14, .direct 14) ::
      swollenSource.outsideCharges ⟨.element, swollenType, false⟩ [] := by
  have hlast : swollenSource.charges swollenType (.closeTag "spreadsheet".toList)
      "</spreadsheet>".toList = [(14, .direct 14)] := by
    cbv
  have hclose : swollenSource.contentCharges swollenType swollenPieces =
      swollenSource.contentCharges swollenType (swollenPieces.take 2) ++ [(14, .direct 14)] := by
    have hpieces : swollenPieces = swollenPieces.take 2 ++
        [(.closeTag "spreadsheet".toList, "</spreadsheet>".toList)] := rfl
    rw [← hlast, ← contentCharges_singleton, ← contentCharges_append, ← hpieces]
  rw [Source.allCharges, show swollenSource.text = swollenText from rfl, readProlog_swollen]
  dsimp only
  rw [pieces_swollen]
  dsimp only
  rw [hclose, swollenCharges]
  simp only [List.append_assoc, List.singleton_append]

set_option maxRecDepth 5000 in
lemma outsideCharges_swollen :
    ((swollenSource.outsideCharges ⟨.doctype, .empty false, true⟩ swollenText).map
      Prod.snd).foldl Intake.add ⟨0, 0⟩ = ⟨408, 0⟩ := by
  cbv

set_option maxRecDepth 5000 in
/-- Together with the reference, the last entity counts for nine millions of octets. -/
lemma foldl_swollenCharges : (swollenCharges.map Prod.snd).foldl Intake.add ⟨0, 0⟩ =
    ⟨436, 9077893⟩ := by
  have hopen (i : Intake) : ((swollenSource.charges swollenType (.openTag "spreadsheet".toList
      [⟨"version".toList, [.char '1'], 29⟩] false) swollenContent).map Prod.snd).foldl
        Intake.add i = i.add (.direct 25) := by
    have hcharges : (swollenSource.charges swollenType (.openTag "spreadsheet".toList
      [⟨"version".toList, [.char '1'], 29⟩] false) swollenContent).map Prod.snd =
        [.direct 25] := by cbv
    rw [hcharges]
    rfl
  have hreference (i : Intake) : ((swollenSource.charges swollenType (.reference (.entity ['e']))
      "&e;</spreadsheet>".toList).map Prod.snd).foldl Intake.add i =
        ⟨i.direct + 3, i.indirect + 9077893⟩ := by
    have hcharges : (swollenSource.charges swollenType (.reference (.entity ['e']))
        "&e;</spreadsheet>".toList).map Prod.snd =
        .direct 3 :: swollenType.entityCharges 6 (references ['d'] 11) := by
      have hsource : Doctype.pieceSource "&e;</spreadsheet>".toList = reference ['e'] :=
        pieceSource_reference (isPlainName_single rfl) "</spreadsheet>".toList
      have hpredefined : predefined? ['e'] = none := by decide
      have hlookup : swollenType.entities.lookup ['e'] =
          some (.internal (references ['d'] 11)) := rfl
      simp only [Source.charges, hsource, Doctype.pieceCharges, Doctype.referenceCharges,
        hpredefined, hlookup, Option.isSome_none, Bool.false_eq_true, if_false, List.map_map]
      exact List.map_id _
    rw [hcharges, List.foldl_cons, amounts_swollen]
    rfl
  rw [swollenCharges, List.map_append, List.foldl_append, outsideCharges_swollen]
  have htwo : swollenSource.contentCharges swollenType (swollenPieces.take 2) =
      swollenSource.charges swollenType (.openTag "spreadsheet".toList
        [⟨"version".toList, [.char '1'], 29⟩] false) swollenContent ++
      swollenSource.charges swollenType (.reference (.entity ['e']))
        "&e;</spreadsheet>".toList := by
    rw [← contentCharges_singleton, ← contentCharges_singleton, ← contentCharges_append]
    rfl
  rw [htwo, List.map_append, List.foldl_append, hopen, hreference]
  rfl

/-- What is counted up to the closing tag is too much. -/
lemma breach?_swollen : swollenSource.breach? false ≠ none := by
  intro hnone
  have hbreach : Intake.breach? ⟨0, 0⟩ (swollenSource.allCharges false) = none := by
    rw [Source.breach?, show swollenSource.text = swollenText from rfl, readProlog_swollen] at hnone
    exact hnone
  rw [allCharges_swollen] at hbreach
  have htolerated := isTolerated_of_breach? hbreach
  rw [foldl_swollenCharges] at htolerated
  have hno : (Intake.mk 450 9077893).isTolerated = false := by decide +kernel
  exact absurd (htolerated.symm.trans hno) (by decide)

theorem amplifies_swollen : Amplifies (Text.toUtf8 (String.ofList swollenText)) := by
  obtain ⟨left, hbreach⟩ := Option.ne_none_iff_exists'.mp breach?_swollen
  refine ⟨_, left, readOpening_swollen, ?_⟩
  rw [Opening.source, Nat.sub_self]
  exact hbreach

end Recalc.Xml
