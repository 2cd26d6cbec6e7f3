import Mathlib
import Recalc.Xml.Namespace
import Recalc.Xml.Writer

/-!
# Written markup

What is written is read as it was meant: names, characters of texts and values, attributes and
tags. A character that is written as a reference is one that the reader would take for something
else, and the reference stands for it in every document.
-/

namespace Recalc.Xml

variable {name cs rest here : List Char} {c d : Char}

/-! ### Characters -/

/-- The characters may stand in a document. -/
def IsText (cs : List Char) : Prop :=
  ∀ c ∈ cs, isXmlChar c = true

instance (cs : List Char) : Decidable (IsText cs) :=
  decidable_of_iff (cs.all isXmlChar = true) List.all_eq_true

lemma isText_cons : IsText (c :: cs) ↔ isXmlChar c = true ∧ IsText cs :=
  List.forall_mem_cons

lemma isText_append : IsText (cs ++ rest) ↔ IsText cs ∧ IsText rest :=
  List.forall_mem_append

lemma isText_flatMap {α : Type} {f : α → List Char} {l : List α} :
    IsText (l.flatMap f) ↔ ∀ a ∈ l, IsText (f a) :=
  List.forall_mem_flatMap

/-! ### Names -/

/-- The text is a name without a prefix. -/
def IsPlainName (cs : List Char) : Prop :=
  ∃ c rest, cs = c :: rest ∧ isNameStart c = true ∧ ∀ d ∈ rest, isNamePart d = true

lemma isPlainName_cons (h : (isNameStart c && rest.all isNamePart) = true) :
    IsPlainName (c :: rest) := by
  rw [Bool.and_eq_true, List.all_eq_true] at h
  exact ⟨c, rest, rfl, h⟩

lemma isNamePart_of_isNameStart (h : isNameStart c = true) : isNamePart c = true := by
  unfold isNameStart at h
  unfold isNamePart
  split at h
  next hascii =>
    simp only [Bool.or_eq_true, decide_eq_true_eq] at h
    simp only [if_pos hascii, Char.isAlphanum, Bool.or_eq_true, decide_eq_true_eq]
    tauto
  next hascii => rw [if_neg hascii, h, Bool.true_or]

/-- The parts of names are characters of documents. -/
lemma isXmlChar_of_isNamePart (h : isNamePart c = true) : isXmlChar c = true := by
  have hcontrol : ∀ n < 0x20, isNamePart (Char.ofNat n) = false := by decide +kernel
  have hmark : ∀ n ∈ [0xFFFE, 0xFFFF], isNamePart (Char.ofNat n) = false := by decide +kernel
  have hspace : 0x20 ≤ c.toNat := by
    by_contra hlow
    have hnone := hcontrol c.toNat (by omega)
    rw [Char.ofNat_toNat, h] at hnone
    cases hnone
  have hunmarked : c.toNat ∉ [0xFFFE, 0xFFFF] := by
    intro hc
    have hnone := hmark c.toNat hc
    rw [Char.ofNat_toNat, h] at hnone
    cases hnone
  simp only [List.mem_cons, List.not_mem_nil, or_false, not_or] at hunmarked
  simp [isXmlChar, hspace, hunmarked]

lemma readName_append (hname : IsPlainName name) (hd : isNamePart d = false) :
    readName (name ++ d :: rest) = .ok (name, d :: rest) := by
  obtain ⟨c, cs, rfl, hc, hcs⟩ := hname
  rw [List.cons_append, readName, if_pos hc, List.takeWhile_append_of_pos hcs,
    List.dropWhile_append_of_pos hcs, List.takeWhile_cons_of_neg (by simp [hd]),
    List.dropWhile_cons_of_neg (by simp [hd]), List.append_nil]

lemma readQualifiedName_append (hname : IsPlainName name) (hd : isNamePart d = false)
    (hcolon : d ≠ ':') : readQualifiedName (name ++ d :: rest) = .ok (name, d :: rest) := by
  rw [readQualifiedName, readName_append hname hd]
  simp only [Bind.bind, Except.bind]
  split
  next heq =>
    cases heq
    exact absurd rfl hcolon
  next => rfl

/-! ### References -/

/-- The reference stands for the character in every document. -/
def Reference.Stands (r : Reference) (c : Char) : Prop :=
  r = .character (some c) ∨ ∃ name, r = .entity name ∧ predefined? name = some c

/-- After an ampersand, the text refers to the character. -/
def Refers (cs : List Char) (c : Char) : Prop :=
  ∃ r : Reference, r.Stands c ∧ ∀ rest, readReference (cs ++ rest) = .ok (r, rest)

lemma Refers.entity (name : List Char) (hname : predefined? name = some c)
    (h : ∀ rest, readReference (cs ++ rest) = .ok (.entity name, rest)) : Refers cs c :=
  ⟨.entity name, .inr ⟨name, rfl, hname⟩, h⟩

lemma Refers.number
    (h : ∀ rest, readReference (cs ++ rest) = .ok (.character (some c), rest)) : Refers cs c :=
  ⟨.character (some c), .inl rfl, h⟩

/-- A character of text is written as itself or as a reference. -/
lemma escapeText_cases (c : Char) :
    escapeText c = [c] ∧ c ∉ ['&', '<', '>', '\r'] ∨
      ∃ cs, escapeText c = '&' :: cs ∧ Refers cs c := by
  unfold escapeText
  split
  · exact .inr ⟨_, rfl, .entity "amp".toList (by decide) fun _ => rfl⟩
  · exact .inr ⟨_, rfl, .entity "lt".toList (by decide) fun _ => rfl⟩
  · exact .inr ⟨_, rfl, .entity "gt".toList (by decide) fun _ => rfl⟩
  · exact .inr ⟨_, rfl, .number fun _ => rfl⟩
  · simp_all

lemma escapeValue_cases (c : Char) :
    escapeValue c = [c] ∧ c ∉ ['&', '<', '>', '"', '\r', '\n', '\t'] ∨
      ∃ cs, escapeValue c = '&' :: cs ∧ Refers cs c := by
  unfold escapeValue
  split
  · exact .inr ⟨_, rfl, .entity "amp".toList (by decide) fun _ => rfl⟩
  · exact .inr ⟨_, rfl, .entity "lt".toList (by decide) fun _ => rfl⟩
  · exact .inr ⟨_, rfl, .entity "gt".toList (by decide) fun _ => rfl⟩
  · exact .inr ⟨_, rfl, .entity "quot".toList (by decide) fun _ => rfl⟩
  · exact .inr ⟨_, rfl, .number fun _ => rfl⟩
  · exact .inr ⟨_, rfl, .number fun _ => rfl⟩
  · exact .inr ⟨_, rfl, .number fun _ => rfl⟩
  · simp_all

/-! ### Texts -/

/-- In texts the characters are written as themselves. -/
def IsUnescaped (cs : List Char) : Prop :=
  ∀ c ∈ cs, isXmlChar c = true ∧ c ∉ ['&', '<', '>', '\r']

/-- Characters that are written as themselves are read up to the next markup. -/
lemma readText_append (hcs : IsUnescaped cs) (hd : d = '<' ∨ d = '&') :
    readText (cs ++ d :: rest) = .ok (cs, d :: rest) := by
  induction cs with
  | nil => rcases hd with rfl | rfl <;> rfl
  | cons c cs ih =>
    obtain ⟨⟨hxml, hplain⟩, hcs⟩ := List.forall_mem_cons.mp hcs
    simp only [List.mem_cons, List.not_mem_nil, or_false, not_or] at hplain
    obtain ⟨hamp, hlt, -, -⟩ := hplain
    rw [List.cons_append, readText]
    · simp [hamp, hlt, hxml, ih hcs, Except.map]
    · intro after _ hclose
      rcases cs with _ | ⟨a, _ | ⟨b, cs⟩⟩
      · cases hclose
        rcases hd with h | h <;> cases h
      · cases hclose
        rcases hd with h | h <;> cases h
      · cases hclose
        simp at hcs

lemma readPiece_text {text : List Char} (hlt : c ≠ '<') (hamp : c ≠ '&')
    (h : readText (c :: cs) = .ok (text, rest)) (hne : text ≠ []) :
    readPiece (c :: cs) = .ok (.text text, rest) := by
  rw [readPiece, h]
  · simp [Bind.bind, Except.bind, hne]
    rfl
  · exact fun _ heq => hlt (List.cons.inj heq).1
  · exact fun _ heq => hlt (List.cons.inj heq).1
  · exact fun _ heq => hlt (List.cons.inj heq).1
  · exact fun _ heq => hlt (List.cons.inj heq).1
  · exact fun _ heq => hamp (List.cons.inj heq).1

/-! ### Attribute values -/

variable {n : Nat} {r : Reference} {parts : List ValuePart}

/-- The parts write the characters in every document. -/
def Writes (parts : List ValuePart) (cs : List Char) : Prop :=
  ∀ d expand value, parts.foldlM (appendPart d true expand) value = .ok (cs.reverse ++ value)

lemma Writes.valueOf (h : Writes parts cs) (d : Doctype) : valueOf d true parts = .ok cs := by
  rw [Xml.valueOf, h]
  simp [Bind.bind, Except.bind, Pure.pure, Except.pure]

lemma Writes.nil : Writes [] [] :=
  fun _ _ _ => rfl

lemma Writes.cons {part : ValuePart} (h : Writes parts cs)
    (hpart : ∀ d expand value, appendPart d true expand value part = .ok (c :: value)) :
    Writes (part :: parts) (c :: cs) := by
  intro d expand value
  have hcons : (c :: cs).reverse ++ value = cs.reverse ++ c :: value := by simp
  rw [List.foldlM_cons, hpart, hcons]
  exact h d expand (c :: value)

lemma Reference.Stands.appendPart_eq (h : r.Stands c) (left : Nat) (d : Doctype)
    (expand : List Char → List Char → List Char → Except ValueFault (List Char))
    (value : List Char) :
    appendPart d true expand value (.reference r left) = .ok (c :: value) := by
  rcases h with rfl | ⟨name, rfl, hname⟩
  · rfl
  · simp only [appendPart, hname]

lemma readValue_cons {quote : Char} (hquote : quote ≠ c) (hamp : c ≠ '&')
    (hc : ¬(decide (c = '<') || !isXmlChar c) = true) :
    readValue quote (c :: cs) (n + 1) = (readValue quote cs n).map
      fun found => (.char c :: found.1, found.2) := by
  rw [readValue, if_neg hquote, if_neg hamp, if_neg hc]
  cases readValue quote cs n <;> rfl

lemma readValue_char (hxml : isXmlChar c = true)
    (hplain : c ∉ ['&', '<', '>', '"', '\r', '\n', '\t']) :
    readValue '"' (c :: cs) (n + 1) = (readValue '"' cs n).map
      fun found => (.char c :: found.1, found.2) := by
  simp only [List.mem_cons, List.not_mem_nil, or_false, not_or] at hplain
  obtain ⟨hamp, hlt, -, hquote, -⟩ := hplain
  exact readValue_cons (Ne.symm hquote) hamp (by simp [hlt, hxml])

lemma appendPart_char (hplain : c ∉ ['&', '<', '>', '"', '\r', '\n', '\t']) (d : Doctype)
    (expand : List Char → List Char → List Char → Except ValueFault (List Char))
    (value : List Char) : appendPart d true expand value (.char c) = .ok (c :: value) := by
  simp only [List.mem_cons, List.not_mem_nil, or_false, not_or] at hplain
  obtain ⟨-, -, -, -, hreturn, hfeed, htab⟩ := hplain
  have hspace : (if isSpace c = true then ' ' else c) = c := by
    by_cases hc : c = ' '
    · rw [hc, ite_self]
    · simp [isSpace, hc, htab, hfeed, hreturn]
  rw [appendPart, hspace]
  rfl

/-- There is no line end among the parts. -/
def IsUnified (parts : List ValuePart) : Prop :=
  ∀ part ∈ parts, part ≠ .char '\r'

lemma IsUnified.unifyLineEndParts_eq (h : IsUnified parts) : unifyLineEndParts parts = parts := by
  induction parts with
  | nil => rfl
  | cons part parts ih =>
    obtain ⟨hpart, hparts⟩ := List.forall_mem_cons.mp h
    rw [unifyLineEndParts, ih hparts]
    · exact fun _ hreturn => absurd hreturn hpart
    · exact hpart

lemma readValue_reference {quote : Char} (hquote : quote ≠ '&')
    (hread : readReference cs = .ok (r, rest)) :
    readValue quote ('&' :: cs) (n + 1) = (readValue quote rest n).map
      fun found => (.reference r (cs.length + 1) :: found.1, found.2) := by
  rw [readValue, if_neg hquote, if_pos rfl, hread]
  simp only [Bind.bind, Except.bind]
  cases readValue quote rest n <;> rfl

/-- A value in quotes is read to its closing quote. -/
lemma readValue_append (hcs : IsText cs)
    (hn : (cs.flatMap escapeValue).length < n) :
    ∃ parts, readValue '"' (cs.flatMap escapeValue ++ '"' :: rest) n = .ok (parts, rest) ∧
      Writes parts cs ∧ IsUnified parts := by
  induction cs generalizing n with
  | nil =>
    obtain ⟨n, rfl⟩ : ∃ k, n = k + 1 := ⟨n - 1, by omega⟩
    exact ⟨[], rfl, .nil, List.forall_mem_nil _⟩
  | cons c cs ih =>
    obtain ⟨n, rfl⟩ : ∃ k, n = k + 1 := ⟨n - 1, by omega⟩
    obtain ⟨hc, hcs⟩ := List.forall_mem_cons.mp hcs
    rw [List.flatMap_cons, List.length_append] at hn
    rcases escapeValue_cases c with ⟨hself, hplain⟩ | ⟨reference, hescape, r, hstands, hread⟩
    · have hn : (cs.flatMap escapeValue).length < n := by
        rw [hself, List.length_singleton] at hn
        omega
      obtain ⟨parts, hparts, hwrites, hunified⟩ := ih hcs hn
      rw [List.flatMap_cons, hself, List.singleton_append, List.cons_append,
        readValue_char hc hplain, hparts]
      refine ⟨_, rfl, hwrites.cons (appendPart_char hplain), ?_⟩
      refine List.forall_mem_cons.mpr ⟨?_, hunified⟩
      rintro ⟨⟩
      simp at hplain
    · have hn : (cs.flatMap escapeValue).length < n := by
        rw [hescape, List.length_cons] at hn
        omega
      obtain ⟨parts, hparts, hwrites, hunified⟩ := ih hcs hn
      rw [List.flatMap_cons, hescape, List.append_assoc, List.cons_append,
        readValue_reference (by decide) (hread _), hparts]
      refine ⟨_, rfl, hwrites.cons (hstands.appendPart_eq _), ?_⟩
      exact List.forall_mem_cons.mpr ⟨nofun, hunified⟩

/-! ### Attributes -/

variable {a : String × String} {attributes : List (String × String)} {raw : RawAttribute}
  {raws : List RawAttribute} {tagEnd : TagEnd} {seen : List (List Char)} {bindings : Bindings}

/-- An attribute that can be written: its name has no prefix and declares no namespace. -/
structure StorableAttribute (a : String × String) : Prop where
  isPlainName : IsPlainName a.1.toList
  declares_none : a.1 ≠ "xmlns"
  value : IsText a.2.toList

/-- A tag that can be written. -/
structure StorableTag (name : List Char) (attributes : List (String × String)) : Prop where
  isPlainName : IsPlainName name
  storable : ∀ a ∈ attributes, StorableAttribute a
  nodup : (attributes.map Prod.fst).Nodup

/-- What is read for an attribute. -/
structure RawAttribute.Reads (raw : RawAttribute) (a : String × String) : Prop where
  name_eq : raw.name = a.1.toList
  writes : Writes raw.value a.2.toList
  isUnified : IsUnified raw.value

lemma RawAttribute.Reads.unifyLineEnds_eq (h : raw.Reads a) : raw.unifyLineEnds = raw := by
  rw [RawAttribute.unifyLineEnds, h.isUnified.unifyLineEndParts_eq]

lemma isSpace_of_isNameStart (h : isNameStart c = true) : isSpace c = false := by
  by_contra hspace
  simp only [isSpace, Bool.not_eq_false, Bool.or_eq_true, decide_eq_true_eq] at hspace
  rcases hspace with ((rfl | rfl) | rfl) | rfl <;> exact absurd h (by decide)

lemma readTagEnd_of_isNameStart (h : isNameStart c = true) : readTagEnd (c :: cs) = none := by
  unfold readTagEnd
  split
  next heq =>
    cases heq
    exact absurd h (by decide)
  next heq =>
    cases heq
    exact absurd h (by decide)
  next heq =>
    cases heq
    exact absurd h (by decide)
  next => rfl

lemma readAttribute_append (ha : StorableAttribute a) :
    ∃ raw : RawAttribute, raw.Reads a ∧
      readAttribute (a.1.toList ++ '=' :: '"' :: (a.2.toList.flatMap escapeValue ++ '"' :: rest)) =
        .ok (raw, rest) := by
  have hlength : (a.2.toList.flatMap escapeValue).length <
      (a.2.toList.flatMap escapeValue ++ '"' :: rest).length + 1 := by
    rw [List.length_append]
    omega
  obtain ⟨parts, hparts, hwrites, hunified⟩ : ∃ parts,
      readValue '"' (a.2.toList.flatMap escapeValue ++ '"' :: rest) _ = .ok (parts, rest) ∧
        Writes parts a.2.toList ∧ IsUnified parts := readValue_append ha.value hlength
  have hequals : isSpace '=' = false := rfl
  have hquote : isSpace '"' = false := rfl
  rw [readAttribute, readQualifiedName_append ha.isPlainName (by decide) (by decide)]
  simp only [Bind.bind, Except.bind, List.dropWhile_cons_of_neg, hequals, hquote,
    Bool.false_eq_true, not_false_eq_true, decide_true, Bool.true_or, if_true, hparts]
  exact ⟨_, ⟨rfl, hwrites, hunified⟩, rfl⟩

lemma attributeChars_append (a : String × String) (cs : List Char) :
    attributeChars a ++ cs =
      ' ' :: (a.1.toList ++ '=' :: '"' :: (a.2.toList.flatMap escapeValue ++ '"' :: cs)) := by
  simp [attributeChars]

lemma readAttributes_cons (hc : isNameStart c = true) {mid : List Char}
    (hfirst : readAttribute (c :: cs) = .ok (raw, mid))
    (hmore : readAttributes mid n = .ok ((raws, tagEnd), rest)) :
    readAttributes (' ' :: c :: cs) (n + 1) = .ok ((raw :: raws, tagEnd), rest) := by
  have hdrop : (' ' :: c :: cs).dropWhile isSpace = c :: cs := by
    rw [List.dropWhile_cons_of_pos rfl,
      List.dropWhile_cons_of_neg (by simp [isSpace_of_isNameStart hc])]
  rw [readAttributes, show readTagEnd (' ' :: c :: cs) = none from rfl]
  simp only [if_pos (show isSpace ' ' = true from rfl), hdrop, readTagEnd_of_isNameStart hc, hfirst,
    Bind.bind, Except.bind, hmore]
  rfl

/-- The characters at the end of a start tag. -/
def TagEnd.chars : TagEnd → List Char
  | .opened => ['>']
  | .emptyElement => " />".toList

/-- Attributes are read up to the end of their tag. -/
lemma readAttributes_append (hstorable : ∀ a ∈ attributes, StorableAttribute a)
    (hn : attributes.length < n) :
    ∃ raws, List.Forall₂ RawAttribute.Reads raws attributes ∧
      readAttributes (attributes.flatMap attributeChars ++ (tagEnd.chars ++ rest)) n =
        .ok ((raws, tagEnd), rest) := by
  obtain ⟨n, rfl⟩ : ∃ k, n = k + 1 := ⟨n - 1, by omega⟩
  induction attributes generalizing n with
  | nil => exact ⟨[], .nil, by cases tagEnd <;> rfl⟩
  | cons a attributes ih =>
    obtain ⟨ha, hstorable⟩ := List.forall_mem_cons.mp hstorable
    rw [List.length_cons] at hn
    obtain ⟨n, rfl⟩ : ∃ k, n = k + 1 := ⟨n - 1, by omega⟩
    obtain ⟨raws, hraws, hmore⟩ := ih hstorable n (by omega)
    obtain ⟨raw, hraw, hfirst⟩ := readAttribute_append ha
    obtain ⟨c, cs, hname, hc, -⟩ := ha.isPlainName
    refine ⟨raw :: raws, .cons hraw hraws, ?_⟩
    rw [List.flatMap_cons, List.append_assoc, attributeChars_append]
    rw [hname, List.cons_append] at hfirst ⊢
    exact readAttributes_cons hc hfirst hmore

/-! ### Tags -/

lemma length_le_flatMap (attributes : List (String × String)) :
    attributes.length ≤ (attributes.flatMap attributeChars).length := by
  induction attributes with
  | nil => exact Nat.le_refl 0
  | cons a attributes ih =>
    have hone : 1 ≤ (attributeChars a).length := by simp [attributeChars]
    rw [List.flatMap_cons, List.length_append, List.length_cons]
    omega

lemma readOpenTag_of_space (hname : IsPlainName name)
    (h : readAttributes (' ' :: cs) (cs.length + 2) = .ok ((raws, tagEnd), rest)) :
    readOpenTag (name ++ ' ' :: cs) = .ok (.openTag name raws tagEnd.closes, rest) := by
  rw [readOpenTag, readQualifiedName_append hname (by decide) (by decide)]
  simp only [Bind.bind, Except.bind, show readTagEnd (' ' :: cs) = none from rfl,
    show isSpace ' ' = true from rfl, List.length_cons, h]
  rfl

/-- The characters of a start tag after its angle bracket. -/
def tagChars (name : List Char) (attributes : List (String × String)) (tagEnd : TagEnd) :
    List Char :=
  name ++ attributes.flatMap attributeChars ++ tagEnd.chars

lemma readOpenTag_append (htag : StorableTag name attributes) (tagEnd : TagEnd) (rest : List Char) :
    ∃ raws, List.Forall₂ RawAttribute.Reads raws attributes ∧
      readOpenTag (tagChars name attributes tagEnd ++ rest) =
        .ok (.openTag name raws tagEnd.closes, rest) := by
  by_cases hplain : attributes = [] ∧ tagEnd = .opened
  · obtain ⟨rfl, rfl⟩ := hplain
    refine ⟨[], .nil, ?_⟩
    rw [tagChars, List.flatMap_nil, List.append_nil, List.append_assoc, TagEnd.chars,
      List.singleton_append, readOpenTag,
      readQualifiedName_append htag.isPlainName (by decide) (by decide)]
    rfl
  · -- Otherwise a space stands behind the name.
    obtain ⟨cs, hcs⟩ :
        ∃ cs, attributes.flatMap attributeChars ++ (tagEnd.chars ++ rest) = ' ' :: cs := by
      rcases attributes with _ | ⟨a, attributes⟩
      · cases tagEnd with
        | opened => exact absurd ⟨rfl, rfl⟩ hplain
        | emptyElement => exact ⟨_, rfl⟩
      · rw [List.flatMap_cons, List.append_assoc, attributeChars_append]
        exact ⟨_, rfl⟩
    have hlength : attributes.length < cs.length + 2 := by
      have hle := length_le_flatMap attributes
      have hall := congrArg List.length hcs
      rw [List.length_append, List.length_cons] at hall
      omega
    obtain ⟨raws, hraws, hread⟩ := readAttributes_append htag.storable hlength
    rw [hcs] at hread
    refine ⟨raws, hraws, ?_⟩
    rw [tagChars, List.append_assoc, List.append_assoc, hcs]
    exact readOpenTag_of_space htag.isPlainName hread

lemma readPiece_of_isNameStart (hc : isNameStart c = true) :
    readPiece ('<' :: c :: cs) = readOpenTag (c :: cs) := by
  rw [readPiece]
  · rintro rest h
    cases h
    exact absurd hc (by decide)
  · rintro rest h
    cases h
    exact absurd hc (by decide)
  · rintro rest h
    cases h
    exact absurd hc (by decide)

/-- A start tag is read as it was written. -/
lemma readPiece_openTag (htag : StorableTag name attributes) (tagEnd : TagEnd) (rest : List Char) :
    ∃ raws, List.Forall₂ RawAttribute.Reads raws attributes ∧
      readPiece ('<' :: (tagChars name attributes tagEnd ++ rest)) =
        .ok (.openTag name raws tagEnd.closes, rest) := by
  obtain ⟨raws, hraws, hread⟩ := readOpenTag_append htag tagEnd rest
  obtain ⟨c, cs, rfl, hc, -⟩ := htag.isPlainName
  exact ⟨raws, hraws, (readPiece_of_isNameStart hc).trans hread⟩

/-- The characters of an end tag. -/
def endTagChars (name : List Char) : List Char :=
  '<' :: '/' :: (name ++ ['>'])

lemma endTagChars_append (name cs : List Char) :
    endTagChars name ++ cs = '<' :: '/' :: (name ++ '>' :: cs) := by
  simp [endTagChars]

lemma readPiece_endTag (hname : IsPlainName name) :
    readPiece (endTagChars name ++ rest) = .ok (.closeTag name, rest) := by
  rw [endTagChars_append, readPiece, readCloseTag, readName_append hname (by decide)]
  change Except.ok (Piece.closeTag (name ++ []), rest) = _
  rw [List.append_nil]

/-! ### Expanded tags -/

lemma splitName_of_isPlainName (hname : IsPlainName name) : splitName name = (none, name) := by
  have hcolon : ∀ c ∈ name, (c ≠ ':') := by
    obtain ⟨c, cs, rfl, hc, hcs⟩ := hname
    rintro d hd rfl
    rcases List.mem_cons.mp hd with rfl | hd
    · exact absurd hc (by decide)
    · exact absurd (hcs _ hd) (by decide)
  have hspan : name.span (· ≠ ':') = (name, []) := by
    rw [List.span_eq_takeWhile_dropWhile, List.takeWhile_eq_self_iff.mpr (by simpa using hcolon),
      List.dropWhile_eq_nil_iff.mpr (by simpa using hcolon)]
  rw [splitName, hspan]

variable {standalone : Bool}

lemma attributeValues_eq (hraws : List.Forall₂ RawAttribute.Reads raws attributes)
    (hstorable : ∀ a ∈ attributes, StorableAttribute a) (hnodup : (attributes.map Prod.fst).Nodup)
    (hseen : ∀ a ∈ attributes, a.1.toList ∉ seen) :
    attributeValues (.empty standalone) name here bindings seen raws =
      .ok (attributes.map fun a => (a.1.toList, a.2.toList), bindings) := by
  induction hraws generalizing seen with
  | nil => rfl
  | @cons raw a raws attributes hraw _ ih =>
    obtain ⟨ha, hstorable⟩ := List.forall_mem_cons.mp hstorable
    obtain ⟨hnew, hseen⟩ := List.forall_mem_cons.mp hseen
    obtain ⟨hfirst, hnodup⟩ := List.nodup_cons.mp hnodup
    have hdeclares : declaredPrefix? a.1.toList = none := by
      rw [declaredPrefix?, splitName_of_isPlainName ha.isPlainName]
      exact if_neg fun h => ha.declares_none (String.toList_inj.mp h)
    have hother : ∀ b ∈ attributes, b.1 ≠ a.1 := fun b hb h => hfirst (h ▸ List.mem_map_of_mem hb)
    have hmore := ih hstorable hnodup fun b hb => List.not_mem_cons_of_ne_of_not_mem
      (fun h => hother b hb (String.toList_inj.mp h)) (hseen b hb)
    refine (if_neg (hraw.name_eq ▸ hnew)).trans ?_
    simp only [Bind.bind, Except.bind, hraw.name_eq]
    rw [show (Doctype.empty standalone).isFree name a.1.toList = true from rfl,
      hraw.writes.valueOf, hdeclares, hmore]
    rfl

lemma expandAttributes_eq {seen : List String} (hstorable : ∀ a ∈ attributes, StorableAttribute a)
    (hnodup : (attributes.map Prod.fst).Nodup) (hseen : ∀ a ∈ attributes, a.1 ∉ seen) :
    expandAttributes bindings seen (attributes.map fun a => (a.1.toList, a.2.toList)) =
      .ok attributes := by
  induction attributes generalizing seen with
  | nil => rfl
  | cons a attributes ih =>
    obtain ⟨ha, hstorable⟩ := List.forall_mem_cons.mp hstorable
    obtain ⟨hnew, hseen⟩ := List.forall_mem_cons.mp hseen
    obtain ⟨hfirst, hnodup⟩ := List.nodup_cons.mp hnodup
    have hother : ∀ b ∈ attributes, b.1 ≠ a.1 := fun b hb h => hfirst (h ▸ List.mem_map_of_mem hb)
    have hmore := ih hstorable hnodup fun b hb =>
      List.not_mem_cons_of_ne_of_not_mem (hother b hb) (hseen b hb)
    have hexpanded : attributeName bindings a.1.toList = .ok a.1 := by
      rw [attributeName, splitName_of_isPlainName ha.isPlainName]
      exact congrArg _ String.ofList_toList
    rw [List.map_cons, expandAttributes, hexpanded]
    simp only [Bind.bind, Except.bind]
    rw [if_neg hnew, hmore, String.ofList_toList]
    rfl

/-- Without declarations and prefixes, a tag is expanded to what is written in it. -/
lemma expandTag_eq (htag : StorableTag name attributes)
    (hraws : List.Forall₂ RawAttribute.Reads raws attributes) :
    expandTag (.empty standalone) .initial name raws here =
      .ok ⟨String.ofList name, attributes, .initial⟩ := by
  have hexpanded : elementName .initial name = .ok (String.ofList name) := by
    rw [elementName, splitName_of_isPlainName htag.isPlainName]
    rfl
  have hdefault : defaultValues ((Doctype.empty standalone).rules name)
      (raws.map RawAttribute.name) .initial = .ok ([], .initial) := rfl
  rw [expandTag, attributeValues_eq hraws htag.storable htag.nodup (by simp)]
  simp only [Bind.bind, Except.bind]
  rw [hdefault]
  simp only [Except.mapError, List.append_nil]
  rw [expandAttributes_eq htag.storable htag.nodup (by simp), hexpanded]
  rfl

end Recalc.Xml
