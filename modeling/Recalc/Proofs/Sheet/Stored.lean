import Recalc.Proofs.Storage.Frame
import Recalc.Proofs.Text.CodePoints
import Recalc.Proofs.Xml.Document
import Recalc.Sheet.File

/-!
# Stored sheets read back

What a stored sheet is read from are the names, the attributes and the texts of a document, so it
does not matter where the reader of the document cuts a text. The document of a stored sheet gives
that sheet again, when its cells have names.
-/

namespace Recalc

open Recalc.Text Recalc.Xml

/-! ### Elements that tell the same -/

namespace Xml

variable {before : List Char} {content content' : List Node}

/-- The second element has what the first one has, perhaps with its texts cut. -/
structure Element.Rereads (e e' : Element) : Prop where
  name_eq : e'.name = e.name
  attributes_eq : e'.attributes = e.attributes
  content : Xml.Rereads [] e.content e'.content

lemma textBefore_textNodes (texts : List String) (content : List Node) :
    (Element.textBefore (textNodes texts ++ content)).toList =
      texts.flatMap String.toList ++ (Element.textBefore content).toList := by
  induction texts with
  | nil => rfl
  | cons s texts ih =>
    rw [textNodes, List.map_cons, List.cons_append, Element.textBefore, String.toList_append,
      ← textNodes, ih, List.flatMap_cons, List.append_assoc]

lemma Rereads.textBefore_eq (h : Rereads before content content') :
    (Element.textBefore content').toList = before ++ (Element.textBefore content).toList := by
  induction h with
  | @nil before texts htexts =>
    have htext := textBefore_textNodes texts []
    rw [List.append_nil, htexts] at htext
    exact htext
  | @text before s rest rest' _ ih =>
    rw [ih, Element.textBefore, String.toList_append, List.append_assoc]
  | element htexts _ _ _ _ =>
    rw [textBefore_textNodes, htexts]
    rfl

lemma Element.Rereads.leadingText_eq {e e' : Element} (h : e.Rereads e') :
    e'.leadingText = e.leadingText :=
  String.toList_inj.mp h.content.textBefore_eq

/-- The elements of some content. -/
def elementsOf (content : List Node) : List Element :=
  Element.children ⟨"", [], content⟩

lemma elementsOf_append (content content' : List Node) :
    elementsOf (content ++ content') = elementsOf content ++ elementsOf content' :=
  List.filterMap_append

lemma elementsOf_textNodes (texts : List String) : elementsOf (textNodes texts) = [] := by
  induction texts with
  | nil => rfl
  | cons s texts ih => exact ih

lemma Rereads.elementsOf (h : Rereads before content content') :
    List.Forall₂ Element.Rereads (elementsOf content) (elementsOf content') := by
  induction h with
  | nil =>
    rw [elementsOf_textNodes]
    exact .nil
  | text _ ih => exact ih
  | element _ hcontent _ _ ih =>
    rw [elementsOf_append, elementsOf_textNodes]
    exact .cons ⟨rfl, rfl, hcontent⟩ ih

lemma Element.Rereads.children {e e' : Element} (h : e.Rereads e') :
    List.Forall₂ Element.Rereads e.children e'.children :=
  h.content.elementsOf

end Xml

namespace StoredSheet

variable {s : StoredSheet} {index : Nat} {name contents : Option String} {e e' : Element}
  {es es' : List Element}

/-! ### Where texts are cut -/

lemma readFields_congr (h : List.Forall₂ Element.Rereads es es') :
    readFields index name contents es' = readFields index name contents es := by
  induction h generalizing name contents with
  | nil => rfl
  | cons he _ ih => rw [readFields, readFields, he.name_eq, he.leadingText_eq, ih, ih]

lemma readCell_congr (h : e.Rereads e') : readCell index e' = readCell index e := by
  rw [readCell, readCell, readFields_congr h.children]

lemma readCells_congr (h : List.Forall₂ Element.Rereads es es') :
    readCells index es' = readCells index es := by
  induction h generalizing index with
  | nil => rfl
  | cons he _ ih => rw [readCells, readCells, he.name_eq, readCell_congr he, ih]

lemma versionOf_congr (h : e.Rereads e') : versionOf e' = versionOf e := by
  rw [versionOf, versionOf, h.name_eq, Element.attribute?, Element.attribute?, h.attributes_eq]

/-- No cut in a text changes the sheet that is read. -/
theorem ofElement_congr (h : e.Rereads e') : ofElement e' = ofElement e := by
  rw [ofElement, ofElement, versionOf_congr h, readCells_congr h.children]

/-! ### The sheet of a document -/

lemma elementsOf_onLines (level : Nat) (nodes : List Node) :
    elementsOf (onLines level nodes) = elementsOf nodes := by
  have hlines (line : Node) (hline : elementsOf [line] = []) :
      elementsOf (nodes.flatMap fun n => [line, n]) = elementsOf nodes := by
    induction nodes with
    | nil => rfl
    | cons n nodes ih =>
      rw [List.flatMap_cons, elementsOf_append, ih, ← List.singleton_append, elementsOf_append,
        hline, List.nil_append, ← elementsOf_append]
      rfl
  rw [onLines]
  split
  next hempty =>
    rw [List.isEmpty_iff.mp hempty]
  next =>
    rw [elementsOf_append, hlines _ rfl]
    exact List.append_nil _

lemma lower_names : lower "spreadsheet" = "spreadsheet" ∧ lower "cell" = "cell" ∧
    lower "name" = "name" ∧ lower "contents" = "contents" := by
  refine ⟨?_, ?_, ?_, ?_⟩ <;> decide +kernel

/-- The element of a cell. -/
def cellElement (cell : String × String) : Element :=
  ⟨"cell", [], onLines 2
    [.element "name" [] [.text cell.1], .element "contents" [] [.text cell.2]]⟩

lemma elementsOf_map_cellNode (cells : List (String × String)) :
    elementsOf (cells.map cellNode) = cells.map cellElement := by
  induction cells with
  | nil => rfl
  | cons cell cells ih =>
    rw [List.map_cons, List.map_cons, ← ih]
    rfl

lemma readCell_cellElement {cell : String × String} (hname : strip cell.1 = cell.1)
    (hne : cell.1 ≠ "") (index : Nat) : readCell index (cellElement cell) = .ok cell := by
  have hchildren : (cellElement cell).children =
      [⟨"name", [], [.text cell.1]⟩, ⟨"contents", [], [.text cell.2]⟩] :=
    elementsOf_onLines 2 _
  have htext (name text : String) : Element.leadingText ⟨name, [], [.text text]⟩ = text := by
    rw [Element.leadingText, Element.textBefore]
    exact String.append_empty
  obtain ⟨-, -, hlower, hlower'⟩ := lower_names
  have hfields : readFields index none none (cellElement cell).children =
      .ok (some cell.1, some cell.2) := by
    rw [hchildren, readFields, hlower]
    simp only [htext, Option.isSome_none, Bool.false_eq_true, if_false]
    rw [readFields, hlower']
    simp only [htext, Option.isSome_none, Bool.false_eq_true, if_false]
    rfl
  rw [readCell, hfields]
  simp only [Bind.bind, Except.bind, hname, if_neg hne]
  rfl

lemma readCells_map {cells : List (String × String)}
    (h : ∀ cell ∈ cells, strip cell.1 = cell.1 ∧ cell.1 ≠ "") (index : Nat) :
    readCells index (cells.map cellElement) = .ok cells := by
  induction cells generalizing index with
  | nil => rfl
  | cons cell cells ih =>
    obtain ⟨⟨hname, hne⟩, h⟩ := List.forall_mem_cons.mp h
    have hlower : lower (cellElement cell).name = "cell" := lower_names.2.1
    rw [List.map_cons, readCells, if_neg (by simpa using hlower), readCell_cellElement hname hne,
      ih h]
    rfl

/-- A stored sheet without surrogates whose cells have names is read from its element. -/
theorem ofElement_toElement (hlossy : CodePoints.ofString s.version.lossy = s.version)
    (h : ∀ cell ∈ s.cells, strip cell.1 = cell.1 ∧ cell.1 ≠ "") :
    ofElement s.toElement = .ok s := by
  have hversion : versionOf s.toElement = .ok s.version := by
    have hlower : lower s.toElement.name = "spreadsheet" := lower_names.1
    rw [versionOf, if_neg (not_not.mpr hlower), ← hlossy]
    rfl
  have hchildren : s.toElement.children = s.cells.map cellElement := by
    have hlines := elementsOf_onLines 1 (s.cells.map cellNode)
    rw [elementsOf_map_cellNode] at hlines
    exact hlines
  rw [ofElement, hversion, hchildren]
  simp only [Bind.bind, Except.bind, readCells_map h]
  rfl

/-! ### The document of a stored sheet -/

variable {nodes nodes' : List Node}

lemma storable_append (h : Storable nodes) (h' : Storable nodes') : Storable (nodes ++ nodes') := by
  induction h with
  | nil => exact h'
  | text hs _ ih => exact .text hs ih
  | element htag hinside _ _ ih => exact .element htag hinside ih

lemma storable_line (level : Nat) :
    Storable [.text (String.ofList ('\n' :: List.replicate (2 * level) ' '))] := by
  refine .text ?_ .nil
  rw [String.toList_ofList]
  refine isText_cons.mpr ⟨by decide, fun c hc => ?_⟩
  rw [List.eq_of_mem_replicate hc]
  decide

lemma storable_onLines (level : Nat) (h : ∀ n ∈ nodes, Storable [n]) :
    Storable (onLines level nodes) := by
  rw [onLines]
  split
  · exact .nil
  refine storable_append ?_ (storable_line _)
  clear * - h
  induction nodes with
  | nil => exact .nil
  | cons n nodes ih =>
    obtain ⟨hn, h⟩ := List.forall_mem_cons.mp h
    exact storable_append (storable_append (storable_line level) hn) (ih h)

/-- A text that can be stored has characters of documents only. -/
lemma exists_of_unstorable? {text : CodePoints} (h : unstorable? text = none) :
    ∃ t : String, text = t ∧ IsText t.toList := by
  induction text with
  | nil => exact ⟨"", rfl, isText_nil⟩
  | cons p rest ih =>
    obtain ⟨hp, hrest⟩ := List.forall_mem_cons.mp (List.find?_eq_none.mp h)
    obtain ⟨t, rfl, ht⟩ := ih (List.find?_eq_none.mpr hrest)
    cases p with
    | surrogate n => exact absurd rfl hp
    | char c =>
      refine ⟨String.ofList (c :: t.toList), ?_, ?_⟩
      · rw [CodePoints.ofString, CodePoints.ofString, String.toList_ofList, List.map_cons]
      · rw [String.toList_ofList]
        exact isText_cons.mpr ⟨by simpa [CodePoint.char?] using hp, ht⟩

lemma isText_of_unstorable? {text : String} (h : unstorable? text = none) :
    IsText text.toList := by
  obtain ⟨t, heq, ht⟩ := exists_of_unstorable? h
  rwa [CodePoints.ofString_injective heq]

lemma storable_field {name text : String} (hname : IsPlainName name.toList)
    (htext : IsText text.toList) : Storable [.element name [] [.text text]] :=
  .element ⟨hname, List.forall_mem_nil _, List.nodup_nil⟩ (.text htext .nil) .nil

lemma storable_cellNode {cell : String × String} (hname : IsText cell.1.toList)
    (hcontents : IsText cell.2.toList) : Storable [cellNode cell] := by
  have hcell : IsPlainName "cell".toList := isPlainName_cons (by decide)
  refine .element ⟨hcell, List.forall_mem_nil _, List.nodup_nil⟩ ?_ .nil
  apply storable_onLines
  refine List.forall_mem_cons.mpr ⟨?_, List.forall_mem_singleton.mpr ?_⟩
  · exact storable_field (isPlainName_cons (by decide)) hname
  · exact storable_field (isPlainName_cons (by decide)) hcontents

/-- Without a fault, the version, the names and the contents may stand in a document. -/
lemma isText_of_fault? (h : s.fault? = none) :
    (∃ version : String, s.version = version ∧ IsText version.toList) ∧
      ∀ cell ∈ s.cells, IsText cell.1.toList ∧ IsText cell.2.toList := by
  unfold fault? at h
  split at h
  next => cases h
  next hversion =>
    refine ⟨exists_of_unstorable? hversion, fun cell hcell => ?_⟩
    have hnone := List.findSome?_eq_none_iff.mp h cell hcell
    rw [Option.map_eq_none_iff, ← CodePoints.ofString_append] at hnone
    have htext := isText_of_unstorable? hnone
    rwa [String.toList_append, isText_append] at htext

/-- The octets of a stored sheet whose cells have names are read as that sheet. -/
theorem exists_read_octets (hfault : s.fault? = none)
    (h : ∀ cell ∈ s.cells, strip cell.1 = cell.1 ∧ cell.1 ≠ "") :
    ∃ root, Xml.read s.octets = .ok root ∧ ofElement root = .ok s := by
  obtain ⟨⟨version, hversion, htext⟩, hcells⟩ := isText_of_fault? hfault
  have hlossy : s.version.lossy = version := by
    rw [hversion, CodePoints.lossy_ofString]
  have hname : IsPlainName "version".toList := isPlainName_cons (by decide)
  have hattribute : StorableAttribute ("version", s.version.lossy) :=
    ⟨hname, (by decide : "version" ≠ "xmlns"), hlossy ▸ htext⟩
  have hsheet : IsPlainName "spreadsheet".toList := isPlainName_cons (by decide)
  have htag : StorableTag s.toElement.name.toList s.toElement.attributes :=
    ⟨hsheet, List.forall_mem_singleton.mpr hattribute, (by decide : ["version"].Nodup)⟩
  have hcontent : Storable s.toElement.content := by
    apply storable_onLines
    intro n hn
    obtain ⟨cell, hcell, rfl⟩ := List.mem_map.mp hn
    exact storable_cellNode (hcells cell hcell).1 (hcells cell hcell).2
  obtain ⟨content', hrereads, hread⟩ := exists_read_document htag hcontent
  have hroot : s.toElement.Rereads ⟨s.toElement.name, s.toElement.attributes, content'⟩ :=
    ⟨rfl, rfl, hrereads⟩
  exact ⟨_, hread, (ofElement_congr hroot).trans (ofElement_toElement (by rw [hlossy, hversion]) h)⟩

/-! ### The file of a stored sheet -/

variable {path : CodePoints} {disk written later : Disk}

/-- What is written has no fault, and the file is the only one left of the two. -/
lemma of_write (h : s.write path disk = (.ok (), written)) :
    s.fault? = none ∧ ∃ interim, disk.write (interimPath (.ofText path)) s.octets = .ok interim ∧
      interim.move (interimPath (.ofText path)) (.ofText path) = .ok written := by
  have hcleanUp (disk : Disk) (p : Path) (fault : DiskFault) :
      cleanUp disk p fault ≠ (.ok (), written) := by
    unfold cleanUp
    split <;> simp
  unfold write at h
  split at h
  next => cases h
  next hfault =>
  refine ⟨hfault, ?_⟩
  simp only at h
  split at h
  next => cases h
  split at h
  next =>
    split at h
    next => cases h
    next => exact absurd h (hcleanUp _ _ _)
  next interim hinterim =>
    split at h
    next moved hmoved =>
      cases h
      exact ⟨interim, hinterim, hmoved⟩
    next => exact absurd h (hcleanUp _ _ _)

/-- A path and its plain form are written to alike. -/
lemma write_text (path : CodePoints) :
    s.write (Path.ofText path).text disk = s.write path disk := by
  rw [write, Path.ofText_text, ← write]

/-- In a directory that can be changed, a stored sheet without a fault takes the place of the file
that may be there. -/
lemma write_of_isOpen {l : Location} {name interim : String} (hfault : s.fault? = none)
    (hname : (Path.ofText path).name ≠ []) (hup : (Path.ofText path).name ≠ "..")
    (hl : disk.IsOpen l) (hpath : disk.locate (.ofText path) = .ok (l ++ [name]))
    (hinterim : disk.locate (interimPath (.ofText path)) = .ok (l ++ [interim]))
    (hfree : disk.IsFree (l ++ [name])) (hfree' : disk.IsFree (l ++ [interim]))
    (hslash : '/' ∉ name.toList) (hne : interim ≠ name) :
    s.write path disk = (.ok (), (disk.drop (l ++ [interim])).put (l ++ [name])
      (.file s.octets)) := by
  have hwrite : disk.write (interimPath (.ofText path)) s.octets =
      .ok (disk.put (l ++ [interim]) (.file s.octets)) := Disk.write_eq hinterim hl hfree'
  set written := disk.put (l ++ [interim]) (.file s.octets) with hwritten
  have halike : Disk.AlikeBeside l [interim] disk written :=
    .put (List.mem_singleton_self interim) hfree'.ne_directory
  have hself : written.node? (l ++ [interim]) = some (.file s.octets) :=
    Disk.node?_put_self (by simp)
  have hplace : written.IsFree (l ++ [name]) := by
    rw [Disk.IsFree, hwritten, Disk.node?_put_of_ne (by simp)
      (Disk.locationText_ne_of_ne hslash hne.symm)]
    exact hfree
  have hlast : (Path.ofText path).parts.getLast? ≠ some ".." := by
    intro hlast
    apply hup
    rw [Path.name, hlast]
    rfl
  have hmove := Disk.move_eq hlast (halike.locate hinterim) hself (halike.locate hpath)
    (halike.isOpen hl) hplace
  rw [write, hfault]
  simp only [if_neg hname, hwrite, hmove]
  rw [hwritten, Disk.drop_put]

/-- It is written on a blank disk. -/
lemma write_blank (hfault : s.fault? = none) :
    (s.write "sheet.xml" (Disk.blank "home")).1 = .ok () := by
  have hpath : (Disk.blank "home").locate (.ofText "sheet.xml") = .ok ["home", "sheet.xml"] := by
    cbv
  have hinterim : (Disk.blank "home").locate (interimPath (.ofText "sheet.xml")) =
      .ok ["home", "sheet.xml.tmp"] := by cbv
  rw [write_of_isOpen hfault (by decide) (by decide) (Disk.isOpen_blank "home") hpath hinterim
    (.inl Disk.node?_blank_child) (.inl Disk.node?_blank_child) (by decide) (by decide)]

/-- A stored sheet whose cells have names is read from a file that holds its octets. -/
lemma read_of_octets (hfault : s.fault? = none)
    (hoctets : later.read (.ofText path) = .ok s.octets)
    (h : ∀ cell ∈ s.cells, strip cell.1 = cell.1 ∧ cell.1 ≠ "") : read later path = .ok s := by
  obtain ⟨root, hxml, hroot⟩ := exists_read_octets hfault h
  obtain ⟨version, hversion, -⟩ := Disk.exists_of_bind (x := versionOf root) hroot
  have hreadRoot : readRoot later path = .ok root := by
    delta readRoot
    simp only [hoctets, hxml, hversion]
  rw [read, hreadRoot]
  simp only [Bind.bind, Except.bind, hroot]
  rfl

/-- A stored sheet whose cells have names is read from the file it was written to, as long as that
file stays as it is. -/
theorem read_of_write (hwrite : s.write path disk = (.ok (), written))
    (hlater : later.read (.ofText path) = written.read (.ofText path))
    (h : ∀ cell ∈ s.cells, strip cell.1 = cell.1 ∧ cell.1 ≠ "") :
    read later path = .ok s := by
  obtain ⟨hfault, interim, hinterim, hmoved⟩ := of_write hwrite
  exact read_of_octets hfault (hlater.trans (Disk.read_move hmoved (Disk.read_write hinterim))) h

end StoredSheet

end Recalc
