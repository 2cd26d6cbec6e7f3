import Recalc.Proofs.Sheet.ReadFailures
import Recalc.Proofs.Sheet.Spacing
import Recalc.Proofs.Xml.Copies

/-!
# The structure of sheet files

A document is read as a sheet just when its outermost element is that of a sheet with a version, and
the elements inside are cells, each with a name that is not blank and with contents. The case of the
names of elements, the order of the two fields and what stands between elements do not matter. A
document whose entities stand for too much is refused by the parser, whatever it stores.
-/

namespace Recalc

open Recalc.Text Recalc.Xml

namespace StoredSheet

variable {s : StoredSheet} {index : Nat} {n n' c c' : String}
  {fields : Option String × Option String} {cell : String × String} {e e' root root' : Element}
  {es es' : List Element}

/-! ### Elements that store sheets -/

/-- The element is a cell with a name and contents, in either order. -/
structure StoresCell (e : Element) (cell : String × String) : Prop where
  lower_name : lower e.name = "cell"
  fields : ∃ name contents, (e.children = [name, contents] ∨ e.children = [contents, name]) ∧
    lower name.name = "name" ∧ lower contents.name = "contents" ∧
    cell = (strip name.leadingText, contents.leadingText)
  name_ne : cell.1 ≠ ""

/-- The element is a sheet with a version, and every element inside is a cell, in the same order. -/
structure Stores (root : Element) (s : StoredSheet) : Prop where
  lower_name : lower root.name = "spreadsheet"
  attribute?_eq : (root.attribute? "version").map CodePoints.ofString = some s.version
  cells : List.Forall₂ StoresCell root.children s.cells

/-! ### Reading fields -/

lemma readFields_full : readFields index (some n) (some c) es = .ok fields ↔
    es = [] ∧ fields = (some n, some c) := by
  cases es with
  | nil => simp [readFields, eq_comm]
  | cons e es =>
    rw [readFields]
    refine iff_of_false ?_ (by simp)
    split <;> simp

lemma readFields_named : readFields index (some n) none es = .ok (some n', some c) ↔
    n' = n ∧ ∃ e, es = [e] ∧ lower e.name = "contents" ∧ c = e.leadingText := by
  cases es with
  | nil => simp [readFields]
  | cons e es =>
    rw [readFields]
    split
    next hname => simp [hname]
    next hcontents =>
      simp only [Option.isSome_none, Bool.false_eq_true, if_false, readFields_full,
        Prod.mk.injEq, Option.some.injEq]
      constructor
      · rintro ⟨rfl, rfl, rfl⟩
        exact ⟨rfl, e, rfl, hcontents, rfl⟩
      · rintro ⟨rfl, e', heq, -, rfl⟩
        cases heq
        exact ⟨rfl, rfl, rfl⟩
    next hcontents =>
      refine iff_of_false (fun h => by cases h) ?_
      rintro ⟨-, e', heq, hlower, -⟩
      cases heq
      exact hcontents hlower

lemma readFields_filled : readFields index none (some c) es = .ok (some n, some c') ↔
    c' = c ∧ ∃ e, es = [e] ∧ lower e.name = "name" ∧ n = e.leadingText := by
  cases es with
  | nil => simp [readFields]
  | cons e es =>
    rw [readFields]
    split
    next hname =>
      simp only [Option.isSome_none, Bool.false_eq_true, if_false, readFields_full,
        Prod.mk.injEq, Option.some.injEq]
      constructor
      · rintro ⟨rfl, rfl, rfl⟩
        exact ⟨rfl, e, rfl, hname, rfl⟩
      · rintro ⟨rfl, e', heq, -, rfl⟩
        cases heq
        exact ⟨rfl, rfl, rfl⟩
    next hcontents => simp [hcontents]
    next hname _ =>
      refine iff_of_false (fun h => by cases h) ?_
      rintro ⟨-, e', heq, hlower, -⟩
      cases heq
      exact hname hlower

/-- Two fields are read, in either order, and nothing else. -/
lemma readFields_iff : readFields index none none es = .ok (some n, some c) ↔
    ∃ name contents, (es = [name, contents] ∨ es = [contents, name]) ∧
      lower name.name = "name" ∧ lower contents.name = "contents" ∧
      n = name.leadingText ∧ c = contents.leadingText := by
  cases es with
  | nil => simp [readFields]
  | cons e es =>
    rw [readFields]
    split
    next hname =>
      simp only [Option.isSome_none, Bool.false_eq_true, if_false, readFields_named]
      constructor
      · rintro ⟨rfl, contents, rfl, hcontents, rfl⟩
        exact ⟨e, contents, .inl rfl, hname, hcontents, rfl, rfl⟩
      · rintro ⟨name, contents, heq | heq, hname', hcontents, rfl, rfl⟩
        · cases heq
          exact ⟨rfl, contents, rfl, hcontents, rfl⟩
        · cases heq
          rw [hname] at hcontents
          exact absurd hcontents (by decide)
    next hcontents =>
      simp only [Option.isSome_none, Bool.false_eq_true, if_false, readFields_filled]
      constructor
      · rintro ⟨rfl, name, rfl, hname, rfl⟩
        exact ⟨name, e, .inr rfl, hname, hcontents, rfl, rfl⟩
      · rintro ⟨name, contents, heq | heq, hname, hcontents', rfl, rfl⟩
        · cases heq
          rw [hcontents] at hname
          exact absurd hname (by decide)
        · cases heq
          exact ⟨rfl, name, rfl, hname, rfl⟩
    next hname hcontents =>
      refine iff_of_false (fun h => by cases h) ?_
      rintro ⟨name, contents, heq | heq, hname', hcontents', -⟩
      · cases heq
        exact hname hname'
      · cases heq
        exact hcontents hcontents'

/-! ### Reading cells -/

lemma readCell_iff (hlower : lower e.name = "cell") :
    readCell index e = .ok cell ↔ StoresCell e cell := by
  constructor
  · intro h
    obtain ⟨fields, hfields, hcell⟩ := Disk.exists_of_bind h
    split at hcell
    next n c =>
      obtain ⟨name, contents, hchildren, hname, hcontents, rfl, rfl⟩ := readFields_iff.mp hfields
      simp only at hcell
      split at hcell
      next => cases hcell
      next hne =>
        cases hcell
        exact ⟨hlower, ⟨name, contents, hchildren, hname, hcontents, rfl⟩, hne⟩
    next => cases hcell
  · rintro ⟨-, ⟨name, contents, hchildren, hname, hcontents, rfl⟩, hne⟩
    have hfields : readFields index none none e.children =
        .ok (some name.leadingText, some contents.leadingText) :=
      readFields_iff.mpr ⟨name, contents, hchildren, hname, hcontents, rfl, rfl⟩
    rw [readCell, hfields]
    simp only [Bind.bind, Except.bind, if_neg hne]
    rfl

lemma readCells_iff {cells : List (String × String)} :
    readCells index es = .ok cells ↔ List.Forall₂ StoresCell es cells := by
  induction es generalizing index cells with
  | nil =>
    rw [readCells, List.forall₂_nil_left_iff, Except.ok.injEq, eq_comm]
  | cons e es ih =>
    rw [List.forall₂_cons_left_iff, readCells]
    constructor
    · intro h
      split at h
      next => cases h
      next hlower =>
        obtain ⟨cell, hcell, h⟩ := Disk.exists_of_bind h
        obtain ⟨cells, hcells, h⟩ := Disk.exists_of_bind h
        cases h
        exact ⟨cell, cells, (readCell_iff (not_not.mp hlower)).mp hcell, ih.mp hcells, rfl⟩
    · rintro ⟨cell, cells, hcell, hcells, rfl⟩
      have hlower := hcell.lower_name
      rw [if_neg (not_not.mpr hlower), (readCell_iff hlower).mpr hcell, ih.mpr hcells]
      rfl

lemma versionOf_iff {version : CodePoints} : versionOf root = .ok version ↔
    lower root.name = "spreadsheet" ∧
      (root.attribute? "version").map CodePoints.ofString = some version := by
  unfold versionOf
  split
  next hlower => simp [hlower]
  next hlower =>
    rw [not_not] at hlower
    split <;> simp [*]

/-- The sheets that elements are read as are those that they store. -/
lemma ofElement_iff : ofElement root = .ok s ↔ Stores root s := by
  constructor
  · intro h
    obtain ⟨version, hversion, h⟩ := Disk.exists_of_bind h
    obtain ⟨cells, hcells, h⟩ := Disk.exists_of_bind h
    cases h
    obtain ⟨hlower, hattribute⟩ := versionOf_iff.mp hversion
    exact ⟨hlower, hattribute, readCells_iff.mp hcells⟩
  · rintro ⟨hlower, hattribute, hcells⟩
    rw [ofElement, versionOf_iff.mpr ⟨hlower, hattribute⟩, readCells_iff.mpr hcells]
    rfl

/-! ### Elements that store the same -/

structure SameField (e e' : Element) : Prop where
  lower_name : lower e.name = lower e'.name
  leadingText_eq : e.leadingText = e'.leadingText

/-- The same fields, perhaps in another order. -/
structure SameCell (e e' : Element) : Prop where
  lower_name : lower e.name = lower e'.name
  fields : ∃ fields, e.children.Perm fields ∧ List.Forall₂ SameField fields e'.children

structure SameSheet (root root' : Element) : Prop where
  lower_name : lower root.name = lower root'.name
  attribute?_eq : root.attribute? "version" = root'.attribute? "version"
  cells : List.Forall₂ SameCell root.children root'.children

lemma SameField.symm (h : SameField e e') : SameField e' e :=
  ⟨h.lower_name.symm, h.leadingText_eq.symm⟩

lemma SameCell.symm (h : SameCell e e') : SameCell e' e := by
  obtain ⟨fields, hperm, hfields⟩ := h.fields
  obtain ⟨fields', hfields', hperm'⟩ := List.perm_comp_forall₂ hperm hfields
  exact ⟨h.lower_name.symm, fields', hperm'.symm, (hfields'.imp fun _ _ h => h.symm).flip⟩

lemma SameSheet.symm (h : SameSheet root root') : SameSheet root' root :=
  ⟨h.lower_name.symm, h.attribute?_eq.symm, (h.cells.imp fun _ _ h => h.symm).flip⟩

lemma SameCell.storesCell (h : SameCell e e') (he : StoresCell e cell) : StoresCell e' cell := by
  obtain ⟨hlower, ⟨name, contents, hchildren, hname, hcontents, rfl⟩, hne⟩ := he
  obtain ⟨fields, hperm, hfields⟩ := h.fields
  have hpair : fields = [name, contents] ∨ fields = [contents, name] := by
    rcases hchildren with heq | heq
    · exact List.pair_perm.mp (heq ▸ hperm)
    · exact (List.pair_perm.mp (heq ▸ hperm)).symm
  refine ⟨h.lower_name.symm.trans hlower, ?_, hne⟩
  have hsame {name' contents' : Element} (h : SameField name name')
      (h' : SameField contents contents') :
      lower name'.name = "name" ∧ lower contents'.name = "contents" ∧
        (strip name.leadingText, contents.leadingText) =
          (strip name'.leadingText, contents'.leadingText) := by
    refine ⟨h.lower_name.symm.trans hname, h'.lower_name.symm.trans hcontents, ?_⟩
    rw [h.leadingText_eq, h'.leadingText_eq]
  rcases hpair with rfl | rfl
  · simp only [List.forall₂_cons_left_iff, List.forall₂_nil_left_iff] at hfields
    obtain ⟨name', _, h, ⟨contents', _, h', rfl, rfl⟩, heq⟩ := hfields
    exact ⟨name', contents', .inl heq, hsame h h'⟩
  · simp only [List.forall₂_cons_left_iff, List.forall₂_nil_left_iff] at hfields
    obtain ⟨contents', _, h', ⟨name', _, h, rfl, rfl⟩, heq⟩ := hfields
    exact ⟨name', contents', .inr heq, hsame h h'⟩

lemma storesCells_congr {cells : List (String × String)} (h : List.Forall₂ SameCell es es')
    (hcells : List.Forall₂ StoresCell es cells) : List.Forall₂ StoresCell es' cells := by
  induction h generalizing cells with
  | nil => exact hcells
  | cons he _ ih =>
    obtain ⟨cell, more, hcell, hmore, rfl⟩ := List.forall₂_cons_left_iff.mp hcells
    exact .cons (he.storesCell hcell) (ih hmore)

lemma SameSheet.stores (h : SameSheet root root') (hs : Stores root s) : Stores root' s where
  lower_name := h.lower_name.symm.trans hs.lower_name
  attribute?_eq := h.attribute?_eq ▸ hs.attribute?_eq
  cells := storesCells_congr h.cells hs.cells

/-- What stands between the elements makes no difference. -/
lemma sameSheet_of_sameElements (h : SameElements 3 [root.toNode] [root'.toNode]) :
    SameSheet root root' := by
  obtain ⟨⟨hname, hattributes, hcells⟩, -⟩ := List.forall₂_cons.mp h
  refine ⟨congrArg lower hname, congrArg (List.lookup "version") hattributes, ?_⟩
  refine hcells.imp fun e e' he => ?_
  obtain ⟨hname, -, hfields⟩ := he
  refine ⟨congrArg lower hname, e.children, .refl _, ?_⟩
  refine hfields.imp fun e e' he => ?_
  obtain ⟨hname, -, hcontent⟩ := he
  exact ⟨congrArg lower hname, congrArg Element.textBefore hcontent⟩

/-! ### Files -/

variable {disk disk' : Disk} {path path' : CodePoints} {octets octets' : Octets}

lemma readRoot_iff : readRoot disk path = .ok root ↔
    ∃ octets, disk.read (.ofText path) = .ok octets ∧ Xml.read octets = .ok root ∧
      ∃ version, versionOf root = .ok version := by
  constructor
  · intro h
    unfold readRoot at h
    dsimp only at h
    split at h
    next => split at h <;> cases h
    next octets hoctets =>
      split at h
      next => cases h
      next => cases h
      next hread =>
        split at h
        next => cases h
        next version hversion =>
          cases h
          exact ⟨octets, hoctets, hread, version, hversion⟩
  · rintro ⟨octets, hoctets, hread, version, hversion⟩
    delta readRoot
    simp only [hoctets, hread, hversion]

/-- What is read from a file is what its outermost element stores. -/
lemma read_iff : read disk path = .ok s ↔
    ∃ octets root, disk.read (.ofText path) = .ok octets ∧ Xml.read octets = .ok root ∧
      Stores root s := by
  constructor
  · intro h
    obtain ⟨root, hroot, h⟩ := Disk.exists_of_bind h
    obtain ⟨octets, hoctets, hread, -⟩ := readRoot_iff.mp hroot
    refine ⟨octets, root, hoctets, hread, ofElement_iff.mp ?_⟩
    cases hsheet : ofElement root with
    | error fault =>
      rw [hsheet] at h
      cases h
    | ok sheet =>
      rw [hsheet] at h
      cases h
      rfl
  · rintro ⟨octets, root, hoctets, hread, hstores⟩
    have hversion := versionOf_iff.mpr ⟨hstores.lower_name, hstores.attribute?_eq⟩
    rw [read, readRoot_iff.mpr ⟨octets, hoctets, hread, _, hversion⟩]
    simp only [Bind.bind, Except.bind, ofElement_iff.mpr hstores]
    rfl

/-- A document that stores no sheet is told as a fault of the file. -/
lemma refused_of_structure (hoctets : disk.read (.ofText path) = .ok octets)
    (hread : Xml.read octets = .ok root) (h : ∀ s, ¬Stores root s) :
    ∃ fault p, read disk path = .error (.file ⟨.structured fault, p⟩) ∧
      (p = path ∨ p = (Path.ofText path).text) := by
  cases hversion : versionOf root with
  | error fault =>
    have hroot : readRoot disk path =
        .error (.file ⟨.structured fault, (Path.ofText path).text⟩) := by
      delta readRoot
      simp only [hoctets, hread, hversion]
    refine ⟨fault, _, ?_, .inr rfl⟩
    rw [read, hroot]
    rfl
  | ok version =>
    have hroot := readRoot_iff.mpr ⟨octets, hoctets, hread, version, hversion⟩
    cases hsheet : ofElement root with
    | error fault =>
      refine ⟨fault, path, ?_, .inl rfl⟩
      rw [read, hroot]
      simp only [Bind.bind, Except.bind, hsheet]
      rfl
    | ok s => exact absurd (ofElement_iff.mp hsheet) (h s)

lemma readVersion_of_read (h : read disk path = .ok s) : readVersion disk path = .ok s.version := by
  obtain ⟨octets, root, hoctets, hread, hstores⟩ := read_iff.mp h
  have hversion := versionOf_iff.mpr ⟨hstores.lower_name, hstores.attribute?_eq⟩
  rw [readVersion, readRoot_iff.mpr ⟨octets, hoctets, hread, _, hversion⟩]
  simp only [Bind.bind, Except.bind, hversion]
  rfl

/-- What is read of a document that can be read. -/
lemma read_iff_stores (hoctets : disk.read (.ofText path) = .ok octets)
    (hread : Xml.read octets = .ok root) : read disk path = .ok s ↔ Stores root s := by
  rw [read_iff]
  constructor
  · rintro ⟨octets', root', hoctets', hread', hstores⟩
    rw [hoctets] at hoctets'
    cases hoctets'
    rw [hread] at hread'
    cases hread'
    exact hstores
  · exact fun hstores => ⟨octets, root, hoctets, hread, hstores⟩

/-- How the sheet in a file is read. -/
structure ReadsStructure (disk : Disk) (path : CodePoints) : Prop where
  read_iff : ∀ s, read disk path = .ok s ↔
    ∃ octets root, disk.read (.ofText path) = .ok octets ∧ parse octets = .ok root ∧
      ¬Amplifies octets ∧ Stores root s
  /-- A document that stores no sheet is told as a fault of the file, and there are no cells. -/
  refused : ∀ octets root, disk.read (.ofText path) = .ok octets → parse octets = .ok root →
    ¬Amplifies octets → (∀ s, ¬Stores root s) →
    ∃ fault p, read disk path = .error (.file ⟨.structured fault, p⟩) ∧
      (p = path ∨ p = (Path.ofText path).text)
  /-- A document that the guard stops is told as a fault of the file, too. -/
  stopped : ∀ octets root, disk.read (.ofText path) = .ok octets → parse octets = .ok root →
    Amplifies octets → ∃ line column,
      read disk path = .error (.file ⟨.malformed .amplified line column, (Path.ofText path).text⟩)
  readVersion_eq : ∀ s, read disk path = .ok s → readVersion disk path = .ok s.version
  /-- The case of tags, the order of fields, comments, blanks and what else stands between elements
  play no part. -/
  congr : ∀ disk' path' octets octets' root root', disk.read (.ofText path) = .ok octets →
    disk'.read (.ofText path') = .ok octets' → parse octets = .ok root →
    parse octets' = .ok root' → ¬Amplifies octets → ¬Amplifies octets' →
    SameSheet root root' ∨ SameDocuments octets octets' →
    ∀ s, read disk path = .ok s ↔ read disk' path' = .ok s

lemma stopped_of_amplifies (hoctets : disk.read (.ofText path) = .ok octets)
    (hparse : parse octets = .ok root) (h : Amplifies octets) : ∃ line column,
      read disk path =
        .error (.file ⟨.malformed .amplified line column, (Path.ofText path).text⟩) := by
  obtain ⟨line, column, hread⟩ := read_of_amplifies hparse h
  have hroot : readRoot disk path =
      .error (.file ⟨.malformed .amplified line column, (Path.ofText path).text⟩) := by
    delta readRoot
    simp only [hoctets, hread]
  refine ⟨line, column, ?_⟩
  rw [read, hroot]
  rfl

/-- A disk with a well-formed sheet that the guard stops. -/
def swollen : Disk :=
  (Disk.blank "home").put ["home", "sheet.xml"] (.file (toUtf8 (String.ofList swollenText)))

end StoredSheet

end Recalc
