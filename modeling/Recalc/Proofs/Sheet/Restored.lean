import Recalc.Proofs.Sheet.History
import Recalc.Proofs.Sheet.Reentered
import Recalc.Proofs.Sheet.Stored

/-!
# Sheets that are saved and loaded

The cells of a saved sheet are entered one after another. At every moment those that were entered
are a part of the saved sheet, so that no cycle is closed on the way, and in the end they are all of
it. Only zero loses its sign.
-/

namespace Recalc

open Relation

variable {c : Contents}

/-! ### Parts of the saved cells -/

namespace Cells

variable {cells cells' : Cells} {k n t : String} {cell : Cell}

/-- The contents that a cell has when it is saved and loaded. -/
def restored? (cells : Cells) (k : String) : Option Contents :=
  cells[k]?.map fun cell => cell.contents.restored

/-- Every one of the cells was saved. -/
def RestoredFrom (cells' cells : Cells) : Prop :=
  ∀ (k : String) c, cells'[k]?.map Cell.contents = some c → cells.restored? k = some c

lemma RestoredFrom.references (h : RestoredFrom cells' cells) (href : cells'.References t u) :
    cells.References t u := by
  obtain ⟨cell', hcell', hu⟩ := references_iff.mp href
  have hrestored := h t cell'.contents (by rw [hcell', Option.map_some])
  obtain ⟨cell, hcell, hcontents⟩ := Option.map_eq_some_iff.mp hrestored
  refine references_iff.mpr ⟨cell, hcell, ?_⟩
  rwa [← Contents.variableSet_restored, hcontents]

/-- A saved cell is stored with the contents that it is entered with. -/
lemma map_contents_store_restored (hcell : cells[n]? = some cell)
    (hfull : cell.contents.isEmpty = false) :
    (cells'.store n cell.contents.restored)[k]?.map Cell.contents =
      if k = n then cells.restored? k else cells'[k]?.map Cell.contents := by
  split
  next hk =>
    rw [hk, map_contents_store_self, Contents.isEmpty_restored, hfull, restored?, hcell]
    rfl
  next hk => rw [getElem?_store_of_ne hk]

lemma RestoredFrom.store (h : RestoredFrom cells' cells) (hcell : cells[n]? = some cell)
    (hfull : cell.contents.isEmpty = false) :
    RestoredFrom (cells'.store n cell.contents.restored) cells := by
  intro k c hc
  rw [map_contents_store_restored hcell hfull] at hc
  split at hc
  next => exact hc
  next => exact h k c hc

end Cells

namespace Sheet

variable {s t s' saved : Sheet} {n : String} {path : CodePoints} {cell : Cell}
  {disk written later : Disk}

/-! ### Cells entered one after another -/

/-- The sheet `t` has a part of the cells of `s`. -/
structure Part (s t : Sheet) : Prop where
  consistent : t.Consistent
  naming_eq : t.naming = s.naming
  version_eq : t.version = s.version
  restoredFrom : t.cells.RestoredFrom s.cells

/-- No formula of the sheet closes a cycle in a part of it. -/
lemma Part.exists_commit (h : Part s t) (hs : s.Consistent)
    (hstore : (t.cells.store n c).RestoredFrom s.cells) :
    ∃ order, t.commit n c = (.ok order, { t with
      graph := t.rewired n c
      cells := order.foldl Cells.recalculate (t.cells.store n c)
      changed := true }) :=
  h.consistent.exists_commit fun k hloop => hs.not_transGen_references k
    (TransGen.mono (fun _ _ href => hstore.references href) _ _ hloop)

/-- What a cell is saved as enters it again. -/
lemma Part.setContents_eq (h : Part s t) (hs : s.Reachable) (hnaming : s.naming.Idempotent)
    (hcell : s.cells[n]? = some cell) :
    t.setContents (.text n) (.text cell.contents.toText) = t.commit n cell.contents.restored := by
  obtain ⟨text, htext⟩ := hs.entered.contents n cell hcell
  have hmem : n ∈ s.cells := by
    rw [Std.ExtTreeMap.mem_iff_isSome_getElem?, hcell, Option.isSome_some]
  obtain ⟨given, hgiven⟩ := hs.entered.name n hmem
  have hname : t.checkName (.text n) = .ok n := by
    simp only [checkName, Datum.text?, h.naming_eq, hnaming.canonical?_self hgiven]
  have hread : Contents.ofText t.naming cell.contents.toText = .ok cell.contents.restored := by
    rw [h.naming_eq]
    exact Contents.ofText_toText hnaming htext
  exact setContents_eq_commit hname hread

/-- A saved cell is entered into a part of the sheet, which remains one. -/
lemma Part.setContents (h : Part s t) (hs : s.Reachable) (hnaming : s.naming.Idempotent)
    (hcell : s.cells[n]? = some cell) :
    ∃ order t', t.setContents (.text n) (.text cell.contents.toText) = (.ok order, t') ∧
      Part s t' ∧ ∀ k : String, t'.cells[k]?.map Cell.contents =
        if k = n then s.cells.restored? k else t.cells[k]?.map Cell.contents := by
  have hfull := hs.consistent.not_isEmpty n cell hcell
  have hstore := h.restoredFrom.store hcell hfull
  have hset := h.setContents_eq hs hnaming hcell
  obtain ⟨order, hdone⟩ := h.exists_commit hs.consistent hstore
  have hconsistent := h.consistent.setContents (.text n) (.text cell.contents.toText)
  rw [hset, hdone] at hconsistent
  refine ⟨order, _, hset.trans hdone, ⟨hconsistent, h.naming_eq, h.version_eq, ?_⟩, ?_⟩
  · intro k c hc
    exact hstore k c (Cells.map_contents_foldl.symm.trans hc)
  · intro k
    exact Cells.map_contents_foldl.trans (Cells.map_contents_store_restored hcell hfull)

/-- The name and the text that are saved of a cell. -/
def entryOf (entry : String × Cell) : String × String :=
  (entry.1, entry.2.contents.toText)

/-- Saved cells are entered one after another. -/
lemma Part.exists_enterAll (h : Part s t) (hs : s.Reachable) (hnaming : s.naming.Idempotent)
    {entries : List (String × Cell)}
    (hentries : ∀ entry ∈ entries, s.cells[entry.1]? = some entry.2) :
    ∃ t', t.enterAll (entries.map entryOf) = .ok t' ∧ Part s t' ∧
      ∀ k : String, t'.cells[k]?.map Cell.contents =
        if k ∈ entries.map Prod.fst then s.cells.restored? k
        else t.cells[k]?.map Cell.contents := by
  induction entries generalizing t with
  | nil => exact ⟨t, rfl, h, fun k => rfl⟩
  | cons entry entries ih =>
    obtain ⟨n, cell⟩ := entry
    obtain ⟨hcell, hentries⟩ := List.forall_mem_cons.mp hentries
    obtain ⟨order, next, hset, hnext, hcontents⟩ := h.setContents hs hnaming hcell
    obtain ⟨t', henter, ht', hcontents'⟩ := ih hnext hentries
    refine ⟨t', ?_, ht', fun k => ?_⟩
    · rw [List.map_cons, entryOf, enterAll, hset]
      exact henter
    · rw [hcontents', hcontents, List.map_cons]
      by_cases hk : k = n
      · simp [hk]
      · simp only [List.mem_cons, hk, false_or, if_false]

/-! ### Saving and loading -/

/-- The first sheet with the contents that it has when it is saved and loaded. -/
structure Loaded (s s' : Sheet) : Prop where
  consistent : s'.Consistent
  naming_eq : s'.naming = s.naming
  version_eq : s'.version = s.version
  changed_eq : s'.changed = false
  contents_eq : ∀ k : String, s'.cells[k]?.map Cell.contents = s.cells.restored? k

lemma exists_write_of_save (h : s.save path disk = (.ok (), saved, written)) :
    s.stored.write path disk = (.ok (), written) := by
  unfold Sheet.save at h
  split at h
  next hwrite =>
    cases h
    exact hwrite
  next => cases h

lemma Entered.strip_stored (hs : s.Entered) :
    ∀ entry ∈ s.stored.cells, Text.strip entry.1 = entry.1 ∧ entry.1 ≠ "" := by
  intro entry hentry
  obtain ⟨⟨k, cell⟩, hmem, rfl⟩ := List.mem_map.mp hentry
  have hk : k ∈ s.cells := by
    rw [Std.ExtTreeMap.mem_iff_isSome_getElem?,
      Std.ExtTreeMap.mem_toList_iff_getElem?_eq_some.mp hmem, Option.isSome_some]
  obtain ⟨given, hgiven⟩ := hs.name k hk
  obtain ⟨-, hname, -⟩ := Formula.canonical?_eq_some_iff.mp hgiven
  refine ⟨strip_of_isName hname, ?_⟩
  rintro rfl
  cases hname

/-- All saved cells are entered into the empty sheet. -/
lemma Reachable.exists_enterAll (hs : s.Reachable) (hnaming : s.naming.Idempotent) :
    ∃ t, (Sheet.empty s.naming s.version).enterAll s.stored.cells = .ok t ∧
      Loaded s { t with changed := false } := by
  have hempty : Part s (Sheet.empty s.naming s.version) := by
    refine ⟨consistent_empty _ _, rfl, rfl, fun k c hc => ?_⟩
    simp [Sheet.empty] at hc
  have hentries : ∀ entry ∈ s.cells.toList, s.cells[entry.1]? = some entry.2 :=
    fun entry => Std.ExtTreeMap.mem_toList_iff_getElem?_eq_some.mp
  obtain ⟨t, henter, ht, hcontents⟩ := hempty.exists_enterAll hs hnaming hentries
  refine ⟨t, henter, ht.consistent.mark false, ht.naming_eq, ht.version_eq, rfl, fun k => ?_⟩
  rw [hcontents]
  split
  next => rfl
  next hk =>
    rw [Std.ExtTreeMap.map_fst_toList_eq_keys, Std.ExtTreeMap.mem_keys] at hk
    rw [Cells.restored?, Std.ExtTreeMap.getElem?_eq_none hk]
    simp [Sheet.empty]

/-- What is loaded from a file that stores the sheet. -/
lemma Reachable.exists_loaded_of_read (hs : s.Reachable) (hnaming : s.naming.Idempotent)
    (hread : StoredSheet.read disk path = .ok s.stored) :
    ∃ loaded, Sheet.load disk path s.naming s.version = .ok loaded ∧ Loaded s loaded := by
  obtain ⟨t, henter, ht⟩ := hs.exists_enterAll hnaming
  refine ⟨_, ?_, ht⟩
  rw [Sheet.load, hread]
  simp only [Bind.bind, Except.bind, stored, ne_eq, not_true_eq_false, if_false]
  rw [stored] at henter
  simp only [henter]
  rfl

/-- What is loaded from the file of a saved sheet. -/
lemma Reachable.exists_loaded (hs : s.Reachable) (hnaming : s.naming.Idempotent)
    (hsave : s.save path disk = (.ok (), saved, written))
    (hlater : later.read (.ofText path) = written.read (.ofText path)) :
    ∃ loaded, Sheet.load later path s.naming s.version = .ok loaded ∧ Loaded s loaded :=
  hs.exists_loaded_of_read hnaming
    (StoredSheet.read_of_write (exists_write_of_save hsave) hlater hs.entered.strip_stored)

/-! ### What is the same -/

lemma Loaded.names_eq (h : Loaded s s') : s'.names = s.names := by
  have hunits : s'.cells.map (fun _ _ => ()) = s.cells.map (fun _ _ => ()) := by
    apply Std.ExtTreeMap.ext_getElem?
    intro k
    have hcontents := congrArg (Option.map fun _ => ()) (h.contents_eq k)
    rw [Cells.restored?, Option.map_map, Option.map_map] at hcontents
    rw [Std.ExtTreeMap.getElem?_map, Std.ExtTreeMap.getElem?_map]
    exact hcontents
  rw [names, names, ← Std.ExtTreeMap.keys_map, hunits, Std.ExtTreeMap.keys_map]

lemma Loaded.references_iff (h : Loaded s s') {t u : String} :
    s'.cells.References t u ↔ s.cells.References t u := by
  have hfrom : s'.cells.RestoredFrom s.cells := fun k c hc => (h.contents_eq k).symm.trans hc
  refine ⟨hfrom.references, fun href => ?_⟩
  obtain ⟨cell, hcell, hu⟩ := Cells.references_iff.mp href
  have hcontents := h.contents_eq t
  rw [Cells.restored?, hcell, Option.map_some] at hcontents
  obtain ⟨cell', hcell', heq⟩ := Option.map_eq_some_iff.mp hcontents
  rw [← Contents.variableSet_restored, ← heq] at hu
  exact Cells.references_iff.mpr ⟨cell', hcell', hu⟩

lemma Loaded.directDependents_eq (h : Loaded s s') (hs : s.Consistent) (name : Datum) :
    s'.directDependents name = s.directDependents name := by
  obtain ⟨pairs, hpairs, hrefs⟩ := hs.holds
  obtain ⟨pairs', hpairs', hrefs'⟩ := h.consistent.holds
  have halike := alike_of_holds hpairs' hpairs fun u t => by rw [hrefs, hrefs', h.references_iff]
  have hcheck : s'.checkName name = s.checkName name := by
    rw [checkName, checkName, h.naming_eq]
  rw [directDependents, directDependents, hcheck, funext halike.dependentsOf_eq]

lemma Loaded.contents_equal (h : Loaded s s') (hs : s.Entered) (k : String) :
    Option.Rel Contents.Equal (s.cells[k]?.map Cell.contents) (s'.cells[k]?.map Cell.contents) := by
  rw [h.contents_eq, Cells.restored?]
  cases hcell : s.cells[k]? with
  | none => exact .none
  | some cell =>
    obtain ⟨text, htext⟩ := hs.contents k cell hcell
    exact .some (Contents.equal_restored htext)

/-- Without a negative zero, the cells are the same with their values. -/
lemma Loaded.cells_eq (h : Loaded s s') (hs : s.Consistent)
    (hzero : ∀ (k : String) cell, s.cells[k]? = some cell →
      cell.contents ≠ .number Number.negativeZero) :
    s'.cells = s.cells := by
  refine h.consistent.cells_eq hs fun k => ?_
  rw [h.contents_eq, Cells.restored?]
  cases hcell : s.cells[k]? with
  | none => rfl
  | some cell =>
    rw [Option.map_some, Option.map_some, Contents.restored_eq_self (hzero k cell hcell)]

/-- What a saved sheet and the loaded one have in common. -/
structure Restored (s s' : Sheet) : Prop where
  naming_eq : s'.naming = s.naming
  version_eq : s'.version = s.version
  changed_eq : s'.changed = false
  names_eq : s'.names = s.names
  contents : ∀ k : String, Option.Rel Contents.Equal (s.cells[k]?.map Cell.contents)
    (s'.cells[k]?.map Cell.contents)
  directDependents_eq : ∀ name, s'.directDependents name = s.directDependents name
  value_eq : (∀ (k : String) cell, s.cells[k]? = some cell →
    cell.contents ≠ .number Number.negativeZero) →
      ∀ k : String, s'.cells[k]?.map Cell.value = s.cells[k]?.map Cell.value

/-- A saved sheet is loaded again, as long as its file stays as it is. -/
theorem Reachable.exists_restored (hs : s.Reachable) (hnaming : s.naming.Idempotent)
    (hsave : s.save path disk = (.ok (), saved, written))
    (hlater : later.read (.ofText path) = written.read (.ofText path)) :
    ∃ loaded, Sheet.load later path s.naming s.version = .ok loaded ∧ Restored s loaded := by
  obtain ⟨loaded, hload, h⟩ := hs.exists_loaded hnaming hsave hlater
  refine ⟨loaded, hload, h.naming_eq, h.version_eq, h.changed_eq, h.names_eq,
    h.contents_equal hs.entered, h.directDependents_eq hs.consistent, fun hzero k => ?_⟩
  rw [h.cells_eq hs.consistent hzero]

/-- Formulas that mention cells further on, and a text with blanks of several kinds. -/
def forward : Sheet :=
  (empty .free defaultVersion).edited [(.text "a", .text "=b * c"), (.text "c", .text "=d"),
    (.text "b", .text " <&\r\n\t ")]

lemma reachable_forward : forward.Reachable :=
  (Reachable.empty .free defaultVersion).edited _

theorem exists_restored_forward : ∃ saved written loaded,
    Naming.ofSettings .null .null = .ok forward.naming ∧ forward.Reachable ∧
    forward.save "sheet.xml" (Disk.blank "home") = (.ok (), saved, written) ∧
    Sheet.load written "sheet.xml" forward.naming forward.version = .ok loaded ∧
    Restored forward loaded := by
  have hsettings : Naming.ofSettings .null .null = .ok forward.naming := by
    rw [forward, naming_edited]
    cbv
  have hsave : forward.save "sheet.xml" (Disk.blank "home") =
      (.ok (), { forward with changed := false },
        (forward.stored.write "sheet.xml" (Disk.blank "home")).2) := by
    rw [save, ← Prod.mk.eta (p := forward.stored.write _ _), StoredSheet.write_blank (by cbv)]
  obtain ⟨loaded, hload, hrestored⟩ := reachable_forward.exists_restored
    (Naming.idempotent_of_ofSettings hsettings) hsave rfl
  exact ⟨_, _, loaded, hsettings, reachable_forward, hsave, hload, hrestored⟩

end Sheet

end Recalc
