import Recalc.Proofs.Text.Utf8
import Recalc.Proofs.Xml.Content
import Recalc.Proofs.Xml.Guarded
import Recalc.Xml.Document

/-!
# Written documents

The octets of a document that is written are read as the same tree, up to the cuts in its texts. The
declaration says that they are UTF-8, which they are, and between it and the outermost element there
is nothing but a line end.
-/

namespace Recalc.Xml

open Recalc.Text

variable {cs rest : List Char} {c : Char}

/-! ### Octets -/

lemma decodeUtf8_skip (octets rest : List UInt8) :
    decodeUtf8 octets.length (octets ++ rest) = decodeUtf8 0 rest := by
  induction octets with
  | nil => rfl
  | cons b octets ih => exact ih

lemma decodeUtf8_encodeChar (hc : isXmlChar c = true) (rest : List UInt8) :
    decodeUtf8 0 (String.utf8EncodeChar c ++ rest) = c :: decodeUtf8 0 rest := by
  obtain ⟨b, more, hoctets, hstep⟩ := utf8Step_encoded c rest
  have hreadable : ¬(c = unreadable ∨ c = cutOff) := by
    rintro (rfl | rfl) <;> exact absurd hc (by decide)
  rw [hoctets, List.cons_append, decodeUtf8, hstep]
  simp only [if_neg hreadable, Nat.add_sub_cancel, decodeUtf8_skip]

/-- The octets of characters of documents are read as these characters. -/
theorem decodeUtf8_encoded (hcs : IsText cs) :
    decodeUtf8 0 (cs.flatMap String.utf8EncodeChar) = cs := by
  induction cs with
  | nil => rfl
  | cons c cs ih =>
    obtain ⟨hc, hcs⟩ := List.forall_mem_cons.mp hcs
    rw [List.flatMap_cons, decodeUtf8_encodeChar hc, ih hcs]

/-! ### The opening -/

/-- The part of the declaration between its target and its close. -/
def declarationSettings : List Char :=
  " version='1.0' encoding='utf-8'".toList

/-- The declaration without the line end behind it. -/
def declarationChars : List Char :=
  '<' :: '?' :: ("xml".toList ++ (declarationSettings ++ "?>".toList))

lemma declarationLine_eq : declarationLine.toList = declarationChars ++ ['\n'] := by
  decide

lemma isText_declarationChars : IsText declarationChars := by decide

lemma detect_declaration (octets : List UInt8) :
    Encoding.detect (declarationChars.flatMap String.utf8EncodeChar ++ octets) = .utf8 := by
  rfl

/-- What the declaration says. -/
def writtenDeclaration : Declaration :=
  ⟨some ("utf-8".toList, "utf-8'".toList), false⟩

lemma named_utf8 : Encoding.utf8.named "utf-8".toList = .known .utf8 := by
  rfl

/-- The document goes on in UTF-8. -/
lemma chooseEncoding_written (hcs : IsText cs) (hrest : IsText rest) :
    chooseEncoding .utf8 ((cs ++ rest).flatMap String.utf8EncodeChar) (cs ++ rest) rest
      writtenDeclaration = .ok ⟨cs ++ rest, rest, false, .utf8⟩ := by
  have htake : (cs ++ rest).take ((cs ++ rest).length - rest.length) = cs := by
    simp
  simp only [chooseEncoding, writtenDeclaration, named_utf8, htake, toUtf8_ofList]
  rw [if_neg (by decide)]
  rw [List.flatMap_append, List.take_left, List.drop_left, Encoding.decode, Encoding.decode,
    decodeUtf8_encoded hcs, decodeUtf8_encoded hrest]

/-- The opening of a document is its declaration. -/
lemma readOpening_written (hcs : IsText cs) :
    readOpening (toUtf8 (declarationLine ++ String.ofList cs)) =
      .ok ⟨declarationChars ++ '\n' :: cs, '\n' :: cs, false, .utf8⟩ := by
  have hbody : IsText ('\n' :: cs) := isText_cons.mpr ⟨by decide, hcs⟩
  have htext : declarationLine ++ String.ofList cs =
      String.ofList (declarationChars ++ '\n' :: cs) := by
    apply String.toList_inj.mp
    simp [declarationLine_eq]
  have hdecode : decodeUtf8 0 ((declarationChars ++ '\n' :: cs).flatMap String.utf8EncodeChar) =
      declarationChars ++ '\n' :: cs := by
    exact decodeUtf8_encoded (isText_append.mpr ⟨isText_declarationChars, hbody⟩)
  have hdetect : Encoding.detect ((declarationChars ++ '\n' :: cs).flatMap String.utf8EncodeChar) =
      .utf8 := by
    rw [List.flatMap_append, detect_declaration]
  have hchoose := chooseEncoding_written isText_declarationChars hbody
  rw [htext, toUtf8_ofList, readOpening, hdetect]
  simp only [Encoding.decode, hdecode]
  -- What is left is to read the declaration, which does not depend on what follows it.
  exact hchoose

/-! ### The prolog and the end -/

/-- Nothing but a line end stands before the outermost element. -/
lemma readProlog_written (standalone : Bool) (hc : isNameStart c = true) :
    readProlog standalone ('\n' :: '<' :: c :: cs) = .ok (.empty standalone, '<' :: c :: cs) := by
  have hstarts : startsElement ('<' :: c :: cs) = true := by simp [startsElement, hc]
  have helement (n : Nat) : prologTokens ('<' :: c :: cs) (n + 1) = ⟨[], .ok ('<' :: c :: cs)⟩ := by
    rw [prologTokens, if_pos hstarts]
  have hspace : readPrologToken ('\n' :: '<' :: c :: cs) = .ok (.space, '<' :: c :: cs) := rfl
  have htokens : prologTokens ('\n' :: '<' :: c :: cs) (('\n' :: '<' :: c :: cs).length + 1) =
      ⟨[(.space, ('\n' :: '<' :: c :: cs).length)], .ok ('<' :: c :: cs)⟩ := by
    rw [prologTokens, if_neg (by simp [startsElement]), if_neg (by simp), hspace, List.length_cons]
    simp only [helement]
  rw [readProlog, htokens]
  rfl

/-! ### The characters of a document -/

lemma isText_escapeText (hc : isXmlChar c = true) : IsText (escapeText c) := by
  unfold escapeText
  split
  case h_5 => exact List.forall_mem_singleton.mpr hc
  all_goals decide

lemma isText_escapeValue (hc : isXmlChar c = true) : IsText (escapeValue c) := by
  unfold escapeValue
  split
  case h_8 => exact List.forall_mem_singleton.mpr hc
  all_goals decide

lemma IsPlainName.isText (h : IsPlainName cs) : IsText cs := by
  obtain ⟨c, rest, rfl, hc, hrest⟩ := h
  intro d hd
  apply isXmlChar_of_isNamePart
  rcases List.mem_cons.mp hd with rfl | hd
  · exact isNamePart_of_isNameStart hc
  · exact hrest d hd

variable {attributes : List (String × String)} {content : List Node}

lemma StorableAttribute.isText {a : String × String} (h : StorableAttribute a) :
    IsText (attributeChars a) := by
  have hname := h.isPlainName.isText
  have hvalue : IsText (a.2.toList.flatMap escapeValue) :=
    isText_flatMap.mpr fun c hc => isText_escapeValue (h.value c hc)
  simp only [attributeChars, isText_append, isText_cons]
  exact ⟨⟨⟨by decide, hname⟩, by decide, by decide, hvalue⟩, by decide⟩

lemma StorableTag.isText {name : List Char} (h : StorableTag name attributes) (tagEnd : TagEnd) :
    IsText (tagChars name attributes tagEnd) := by
  have hattributes : IsText (attributes.flatMap attributeChars) :=
    isText_flatMap.mpr fun a ha => (h.storable a ha).isText
  have hend : IsText tagEnd.chars := by
    cases tagEnd <;> decide
  simp only [tagChars, isText_append]
  exact ⟨⟨h.isPlainName.isText, hattributes⟩, hend⟩

lemma StorableTag.isText_element {name : String} (h : StorableTag name.toList attributes)
    (hcontent : IsText (contentChars content)) :
    IsText (Node.element name attributes content).chars := by
  by_cases hempty : contentChars content = []
  · rw [chars_of_empty name attributes hempty]
    exact isText_cons.mpr ⟨by decide, h.isText .emptyElement⟩
  · have hname := h.isPlainName.isText
    rw [chars_of_ne_nil name attributes hempty]
    simp only [endTagChars, isText_append, isText_cons]
    exact ⟨by decide, h.isText .opened, hcontent, by decide, by decide, hname, by decide⟩

/-- What can be written consists of characters of documents. -/
lemma Storable.isText (h : Storable content) : IsText (contentChars content) := by
  induction h with
  | nil => decide
  | text hs _ ih =>
    rw [contentChars, Node.chars, escapedText, isText_append]
    exact ⟨isText_flatMap.mpr fun c hc => isText_escapeText (hs c hc), ih⟩
  | element htag _ _ ihinside ih =>
    rw [contentChars, isText_append]
    exact ⟨htag.isText_element ihinside, ih⟩

/-! ### Documents -/

lemma exists_chars_of_isPlainName {name : String} (hname : IsPlainName name.toList)
    (attributes : List (String × String)) (content : List Node) :
    ∃ c cs, (Node.element name attributes content).chars = '<' :: c :: cs ∧
      isNameStart c = true := by
  obtain ⟨c, rest, hrest, hc, -⟩ := hname
  by_cases hempty : contentChars content = []
  · rw [chars_of_empty name attributes hempty, tagChars, hrest]
    exact ⟨c, _, rfl, hc⟩
  · rw [chars_of_ne_nil name attributes hempty, tagChars, hrest]
    exact ⟨c, _, rfl, hc⟩

/-- A document that is written is read as the same tree. -/
theorem exists_read_document {e : Element} (htag : StorableTag e.name.toList e.attributes)
    (h : Storable e.content) :
    ∃ content', Rereads [] e.content content' ∧
      read (toUtf8 e.document) = .ok ⟨e.name, e.attributes, content'⟩ := by
  obtain ⟨content', hrereads, hread⟩ := exists_readElement false htag h []
  refine ⟨content', hrereads, ?_⟩
  rw [List.append_nil] at hread
  obtain ⟨c, cs, hchars, hc⟩ :=
    exists_chars_of_isPlainName htag.isPlainName e.attributes e.content
  have hbody : readBody false ('\n' :: e.toNode.chars) = .ok ⟨e.name, e.attributes, content'⟩ := by
    rw [hchars] at hread
    rw [readBody, Element.toNode, hchars, readProlog_written false hc]
    simp only [Bind.bind, Except.bind, hread]
    rfl
  have hprolog : readProlog false ('\n' :: e.toNode.chars) =
      .ok (.empty false, '<' :: c :: cs) := by
    rw [Element.toNode, hchars, readProlog_written false hc]
  have hopening := readOpening_written (htag.isText_element h.isText)
  rw [Element.toNode] at hbody hprolog
  rw [read, Element.document, Element.toNode, hopening]
  simp only [Bind.bind, Except.bind]
  -- No entity is declared, so the guard has nothing to refuse.
  rw [guarded_of_entities hprolog rfl, hbody]
  rfl

end Recalc.Xml
