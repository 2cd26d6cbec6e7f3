import Recalc.Proofs.Sheet.Stored
import Recalc.Proofs.Xml.Texts

/-!
# Stored sheets and their files

A stored sheet whose cells have names is read back from its file, and what is read from any file is
such a sheet again, with characters that a document can hold. Only other characters keep a sheet
from being written for what it holds.
-/

namespace Recalc

open Recalc.Text Recalc.Xml

/-! ### Trimmed names -/

lemma Text.trimBoth_trimBoth (drop : Char → Bool) (cs : List Char) :
    trimBoth drop (trimBoth drop cs) = trimBoth drop cs := by
  change List.rdropWhile drop ((trimBoth drop cs).dropWhile drop) = trimBoth drop cs
  have hself : (trimBoth drop cs).dropWhile drop = trimBoth drop cs := by
    have hpre : trimBoth drop cs <+: cs.dropWhile drop := List.rdropWhile_prefix drop _
    rw [List.dropWhile_eq_self_iff]
    intro hl
    rw [hpre.getElem]
    exact List.dropWhile_get_zero_not drop cs _
  rw [hself]
  exact List.rdropWhile_idempotent drop _

lemma Text.strip_strip (s : String) : strip (strip s) = strip s := by
  rw [strip, strip, String.toList_ofList, trimBoth_trimBoth]

namespace Xml

variable {e : Element}

/-! ### Texts of elements -/

lemma isText_textBefore {content : List Node} (h : ∀ n ∈ content, n.IsText) :
    IsText (Element.textBefore content).toList := by
  induction content with
  | nil => exact isText_nil
  | cons n content ih =>
    obtain ⟨hn, hcontent⟩ := List.forall_mem_cons.mp h
    cases hn with
    | text ht =>
      rw [Element.textBefore, String.toList_append, isText_append]
      exact ⟨ht, ih hcontent⟩
    | element => exact isText_nil

lemma Element.IsText.leadingText (h : e.IsText) : Xml.IsText e.leadingText.toList := by
  cases h with
  | element _ hcontent => exact isText_textBefore hcontent

lemma Element.IsText.children (h : e.IsText) : ∀ child ∈ e.children, child.IsText := by
  cases h with
  | element _ hcontent =>
    intro child hchild
    obtain ⟨n, hn, hsome⟩ := List.mem_filterMap.mp hchild
    cases n with
    | text t => cases hsome
    | element name attributes content =>
      cases hsome
      exact hcontent _ hn

lemma Element.IsText.attribute? (h : e.IsText) {name value : String}
    (hvalue : e.attribute? name = some value) : Xml.IsText value.toList := by
  cases h with
  | element hattributes _ =>
    obtain ⟨before, after, heq, -⟩ := List.lookup_eq_some_iff.mp hvalue
    refine hattributes (name, value) ?_
    rw [heq]
    exact List.mem_append_right _ List.mem_cons_self

end Xml

namespace StoredSheet

variable {s : StoredSheet} {e : Element} {es : List Element} {index : Nat}
  {name contents : Option String} {path : CodePoints} {disk written : Disk}

/-- The cells have names, without blanks at their ends. -/
def Named (s : StoredSheet) : Prop :=
  ∀ cell ∈ s.cells, strip cell.1 = cell.1 ∧ cell.1 ≠ ""

/-- The version, the names and the contents have characters of documents. -/
def IsText (s : StoredSheet) : Prop :=
  (∃ version : String, s.version = version ∧ Xml.IsText version.toList) ∧
    ∀ cell ∈ s.cells, Xml.IsText cell.1.toList ∧ Xml.IsText cell.2.toList

/-! ### What is read -/

lemma yields_readFields (hes : ∀ e ∈ es, e.IsText) (hname : ∀ t ∈ name, Xml.IsText t.toList)
    (hcontents : ∀ t ∈ contents, Xml.IsText t.toList) :
    Yields (fun found => (∀ t ∈ found.1, Xml.IsText t.toList) ∧
      ∀ t ∈ found.2, Xml.IsText t.toList) (readFields index name contents es) := by
  induction es generalizing name contents with
  | nil => exact yields_ok.mpr ⟨hname, hcontents⟩
  | cons e es ih =>
    obtain ⟨he, hes⟩ := List.forall_mem_cons.mp hes
    have hleading : ∀ t ∈ some e.leadingText, Xml.IsText t.toList := by
      intro t ht
      rw [Option.mem_some_iff] at ht
      exact ht ▸ he.leadingText
    unfold readFields
    dsimp only
    split
    · split
      · exact yields_error
      · exact ih hes hleading hcontents
    · split
      · exact yields_error
      · exact ih hes hname hleading
    · exact yields_error

lemma isText_strip {t : String} (ht : Xml.IsText t.toList) : Xml.IsText (strip t).toList := by
  intro c hc
  rw [strip, String.toList_ofList] at hc
  have hpre := (List.rdropWhile_prefix isBlank (t.toList.dropWhile isBlank)).subset hc
  exact ht c ((List.dropWhile_suffix isBlank).subset hpre)

lemma yields_readCell (he : e.IsText) :
    Yields (fun cell => (strip cell.1 = cell.1 ∧ cell.1 ≠ "") ∧
      Xml.IsText cell.1.toList ∧ Xml.IsText cell.2.toList) (readCell index e) := by
  unfold readCell
  refine (yields_readFields he.children (by simp) (by simp)).bind fun found hfound => ?_
  split
  next name contents =>
    dsimp only
    split
    next => exact yields_error
    next hne =>
      refine yields_pure ⟨⟨strip_strip name, hne⟩, isText_strip (hfound.1 name rfl), ?_⟩
      exact hfound.2 contents rfl
  next => exact yields_throw

lemma yields_readCells (hes : ∀ e ∈ es, e.IsText) :
    Yields (fun cells => ∀ cell ∈ cells, (strip cell.1 = cell.1 ∧ cell.1 ≠ "") ∧
      Xml.IsText cell.1.toList ∧ Xml.IsText cell.2.toList) (readCells index es) := by
  induction es generalizing index with
  | nil => exact yields_ok.mpr (List.forall_mem_nil _)
  | cons e es ih =>
    obtain ⟨he, hes⟩ := List.forall_mem_cons.mp hes
    unfold readCells
    dsimp only
    split
    next => exact yields_error
    refine (yields_readCell he).bind fun cell hcell => ?_
    refine (ih hes).bind fun cells hcells => ?_
    exact yields_pure (List.forall_mem_cons.mpr ⟨hcell, hcells⟩)

lemma yields_ofElement (he : e.IsText) : Yields (fun s => s.Named ∧ s.IsText) (ofElement e) := by
  have hversion : Yields
      (fun version : CodePoints => ∃ t : String, version = t ∧ Xml.IsText t.toList)
      (versionOf e) := by
    unfold versionOf
    split
    · exact yields_error
    · split
      next version hsome => exact yields_ok.mpr ⟨version, rfl, he.attribute? hsome⟩
      next => exact yields_error
  unfold ofElement
  refine hversion.bind fun version hversion => ?_
  refine (yields_readCells he.children).bind fun cells hcells => yields_pure ⟨?_, hversion, ?_⟩
  · exact fun cell hcell => (hcells cell hcell).1
  · exact fun cell hcell => (hcells cell hcell).2

lemma yields_readRoot : Yields Element.IsText (readRoot disk path) := by
  unfold readRoot
  dsimp only
  split
  · split <;> exact yields_error
  · split
    · exact yields_error
    · exact yields_error
    next root hread =>
      split
      · exact yields_error
      · exact yields_ok.mpr (yields_read _ _ hread)

/-- Every file that is read has a sheet that can be written. -/
lemma yields_read : Yields (fun s => s.Named ∧ s.IsText) (read disk path) := by
  unfold read
  exact yields_readRoot.bind fun root hroot => (yields_ofElement hroot).mapError

/-! ### What is rejected -/

lemma unstorable?_eq_none_iff {text : String} :
    unstorable? text = none ↔ Xml.IsText text.toList := by
  refine ⟨isText_of_unstorable?, fun h => List.find?_eq_none.mpr fun p hp => ?_⟩
  obtain ⟨c, hc, rfl⟩ := List.mem_map.mp hp
  simp [CodePoint.char?, h c hc]

lemma fault?_eq_none_iff : s.fault? = none ↔ s.IsText := by
  refine ⟨isText_of_fault?, fun ⟨⟨version, hversion, htext⟩, hcells⟩ => ?_⟩
  rw [fault?, hversion, unstorable?_eq_none_iff.mpr htext]
  refine List.findSome?_eq_none_iff.mpr fun cell hcell => ?_
  rw [Option.map_eq_none_iff, ← CodePoints.ofString_append, unstorable?_eq_none_iff,
    String.toList_append, isText_append]
  exact hcells cell hcell

/-- The sheet is not written because of its characters. -/
def Rejected (s : StoredSheet) (path : CodePoints) (disk : Disk) : Prop :=
  ∃ fault p, (s.write path disk).1 = .error (.file ⟨.unstorable fault, p⟩)

/-- Nothing that happens to files is told as a fault of characters. -/
lemma not_rejected_cleanUp {p : Path} {fault : DiskFault} {fault' : StorageFault}
    {text : CodePoints} :
    (cleanUp disk p fault).1 ≠ .error (.file ⟨.unstorable fault', text⟩) := by
  unfold cleanUp
  dsimp only
  split
  · simp
  · split <;> simp

lemma rejected_iff : s.Rejected path disk ↔ ¬s.IsText := by
  rw [← fault?_eq_none_iff]
  constructor
  · rintro ⟨fault, p, hwrite⟩ hnone
    unfold write at hwrite
    rw [hnone] at hwrite
    dsimp only at hwrite
    split at hwrite
    next => cases hwrite
    split at hwrite
    next =>
      split at hwrite
      next => cases hwrite
      next => exact not_rejected_cleanUp hwrite
    next =>
      split at hwrite
      next => cases hwrite
      next => exact not_rejected_cleanUp hwrite
  · intro hfault
    obtain ⟨fault, hsome⟩ := Option.ne_none_iff_exists'.mp hfault
    exact ⟨fault, _, by rw [write, hsome]⟩

/-- The characters of documents, as the standard lists them. -/
def IsStandardChar (n : Nat) : Prop :=
  n = 0x9 ∨ n = 0xA ∨ n = 0xD ∨ (0x20 ≤ n ∧ n ≤ 0xD7FF) ∨ (0xE000 ≤ n ∧ n ≤ 0xFFFD) ∨
    (0x10000 ≤ n ∧ n ≤ 0x10FFFF)

lemma isXmlChar_iff {c : Char} : isXmlChar c = true ↔ IsStandardChar c.toNat := by
  have hvalid : c.toNat < 0xD800 ∨ (0xDFFF < c.toNat ∧ c.toNat < 0x110000) := c.valid
  simp only [isXmlChar, IsStandardChar, Bool.or_eq_true, Bool.and_eq_true, beq_iff_eq,
    decide_eq_true_eq, bne_iff_ne]
  omega

/-- A code point of the version, of a name or of some contents. -/
def Holds (s : StoredSheet) (p : CodePoint) : Prop :=
  p ∈ s.version ∨ ∃ cell ∈ s.cells,
    p ∈ CodePoints.ofString cell.1 ∨ p ∈ CodePoints.ofString cell.2

lemma isText_iff {text : String} : Xml.IsText text.toList ↔
    ∀ p ∈ CodePoints.ofString text, IsStandardChar p.toNat := by
  rw [CodePoints.ofString, List.forall_mem_map]
  exact forall₂_congr fun c _ => isXmlChar_iff

/-- A text whose code points may all stand in documents has no surrogates. -/
lemma exists_isText_iff {text : CodePoints} : (∃ t : String, text = t ∧ Xml.IsText t.toList) ↔
    ∀ p ∈ text, IsStandardChar p.toNat := by
  constructor
  · rintro ⟨t, rfl, ht⟩
    exact isText_iff.mp ht
  · intro h
    apply exists_of_unstorable?
    refine List.find?_eq_none.mpr fun p hp => ?_
    have hstandard := h p hp
    cases p with
    | char c => simp [CodePoint.char?, isXmlChar_iff.mpr hstandard]
    | surrogate n =>
      have hn := n.isLt
      simp only [IsStandardChar, CodePoint.toNat] at hstandard
      omega

lemma isText_iff_holds : s.IsText ↔ ∀ p, s.Holds p → IsStandardChar p.toNat := by
  rw [IsText, exists_isText_iff]
  simp only [isText_iff]
  constructor
  · rintro ⟨hversion, hcells⟩ p (hp | ⟨cell, hcell, hp | hp⟩)
    · exact hversion p hp
    · exact (hcells cell hcell).1 p hp
    · exact (hcells cell hcell).2 p hp
  · intro h
    refine ⟨fun p hp => h p (.inl hp), fun cell hcell => ⟨fun p hp => ?_, fun p hp => ?_⟩⟩
    · exact h p (.inr ⟨cell, hcell, .inl hp⟩)
    · exact h p (.inr ⟨cell, hcell, .inr hp⟩)

/-- Only code points that cannot be stored are faults. -/
lemma fault?_eq_none_iff_holds : s.fault? = none ↔ ∀ p, s.Holds p → IsStandardChar p.toNat :=
  fault?_eq_none_iff.trans isText_iff_holds

/-! ### The main statement -/

lemma versionOf_of_ofElement (h : ofElement e = .ok s) : versionOf e = .ok s.version := by
  obtain ⟨version, hversion, h⟩ := Disk.exists_of_bind h
  obtain ⟨cells, -, h⟩ := Disk.exists_of_bind h
  cases h
  exact hversion

/-- What is written is read back, with its version. -/
lemma reads_of_write (hwrite : s.write path disk = (.ok (), written)) (hnamed : s.Named) :
    read written path = .ok s ∧ readVersion written path = .ok s.version := by
  have hread := read_of_write hwrite rfl hnamed
  refine ⟨hread, ?_⟩
  obtain ⟨root, hroot, hsheet⟩ := Disk.exists_of_bind hread
  have hversion : versionOf root = .ok s.version := by
    cases hof : ofElement root with
    | error fault =>
      rw [hof] at hsheet
      cases hsheet
    | ok s' =>
      rw [hof] at hsheet
      cases hsheet
      exact versionOf_of_ofElement hof
  rw [readVersion, hroot]
  change (versionOf root).mapError _ = _
  rw [hversion]
  rfl

/-- A stored sheet and the files that it is written to and read from. -/
structure RoundTrips (s : StoredSheet) (path : CodePoints) (disk : Disk) : Prop where
  /-- A sheet whose cells have names is read back, and so is its version. -/
  of_write : ∀ written, s.Named → s.write path disk = (.ok (), written) →
    read written path = .ok s ∧ readVersion written path = .ok s.version
  rejected_iff : s.Rejected path disk ↔ ∃ p, s.Holds p ∧ ¬IsStandardChar p.toNat
  /-- What is read has names and is never rejected, and when it is written it is read again. -/
  of_read : read disk path = .ok s → s.Named ∧ (∀ p, s.Holds p → IsStandardChar p.toNat) ∧
    ∀ path' disk' written, s.write path' disk' = (.ok (), written) →
      read written path' = .ok s ∧ readVersion written path' = .ok s.version

/-- Markup, line ends of several kinds, blanks, and a character beyond the first plane. -/
def awkward : StoredSheet :=
  ⟨" 1 & \"2\"\r\n", [("a\tb", "<\r\n\t]]>\r"), ("&amp;", ""), ("😀", " \n ")]⟩

end StoredSheet

end Recalc
