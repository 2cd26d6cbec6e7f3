import Recalc.Proofs.Sheet.RoundTrip
import Recalc.Proofs.Storage.Found

/-!
# Interim files

A sheet is written to an interim file beside the final one, which then takes its place. So a save
that fails leaves the final file as it was, and one that succeeds leaves no interim file. Nothing
else on the disk changes. But a file that happened to be at the interim path is lost, unless the
sheet or its path is such that the save does not even begin, or the system refuses to remove it.
-/

namespace Recalc

open Disk

/-! ### What a write leaves -/

namespace StoredSheet

variable {s : StoredSheet} {d d' : Disk} {k l : Location} {path : CodePoints}
  {outcome : Except SheetFailure Unit}

/-- Nothing about the sheet or the path itself keeps the sheet from being written. -/
structure Begins (s : StoredSheet) (path : CodePoints) : Prop where
  fault?_eq : s.fault? = none
  name_ne : (Path.ofText path).name ≠ []

/-- How a write ends, and what it leaves on the disk. -/
inductive Ends (s : StoredSheet) (path : CodePoints) (d : Disk) :
    Except SheetFailure Unit → Disk → Prop where
  | unbegun (failure : SheetFailure) (h : ¬s.Begins path) : Ends s path d (.error failure) d
  /-- The interim file is neither written nor removed. -/
  | unwritten (failure : SheetFailure) (h : ∃ e, d.remove (interimPath (.ofText path)) = .error e) :
      Ends s path d (.error failure) d
  /-- The interim file cannot be written, or cannot take the place of the final one, and is
  removed. -/
  | undone {k : Location} (failure : SheetFailure) (hbegins : s.Begins path)
      (hk : d.locate (interimPath (.ofText path)) = .ok k) (hfree : d.node? k ≠ some .directory) :
      Ends s path d (.error failure) (d.drop k)
  /-- The interim file is written, and it is refused to remove it. -/
  | kept {k : Location} {before : Octets} (failure : SheetFailure) (hbegins : s.Begins path)
      (hopen : d.openForWriting (interimPath (.ofText path)) = .ok (k, before))
      (hrefused : ∃ r, d.refusal? .remove k = some r) :
      Ends s path d (.error failure) (d.put k (.file s.octets))
  | done {k l : Location} (hbegins : s.Begins path)
      (hk : d.locate (interimPath (.ofText path)) = .ok k) (hfree : d.node? k ≠ some .directory)
      (hl : d.locate (.ofText path) = .ok l) (hfree' : d.node? l ≠ some .directory) :
      Ends s path d (.ok ()) ((d.drop k).put l (.file s.octets))

/-- A write that could not be done is followed by a removal. -/
lemma ends_cleanUp (hbegins : s.Begins path) (fault : DiskFault) :
    Ends s path d (cleanUp d (.ofText path) fault).1 (cleanUp d (.ofText path) fault).2 := by
  unfold cleanUp
  cases hremove : d.remove (interimPath (.ofText path)) with
  | error e => exact .unwritten _ ⟨e, hremove⟩
  | ok removed =>
    obtain ⟨k, hk, hfree, rfl⟩ := exists_of_remove hremove
    exact .undone _ hbegins hk hfree

/-- So is one whose result could not be moved. -/
lemma ends_cleanUp_written {before : Octets} (hbegins : s.Begins path) (fault : DiskFault)
    (hopen : d.openForWriting (interimPath (.ofText path)) = .ok (k, before)) :
    Ends s path d (cleanUp (d.put k (.file s.octets)) (.ofText path) fault).1
      (cleanUp (d.put k (.file s.octets)) (.ofText path) fault).2 := by
  obtain ⟨hk, hfree⟩ := openForWriting_ok hopen
  have hk' := (SameDirectories.put (n := .file s.octets) (by simp) hfree).locate_iff.mpr hk
  have hnode : (d.put k (.file s.octets)).node? k = some (.file s.octets) :=
    node?_put_self (ne_nil_of_node? hfree)
  unfold cleanUp
  cases hremove : (d.put k (.file s.octets)).remove (interimPath (.ofText path)) with
  | error e =>
    have hrefused := exists_refusal_of_remove_error hk' hnode (by simp) hremove
    exact .kept _ hbegins hopen hrefused
  | ok removed =>
    obtain ⟨k', hk'', -, rfl⟩ := exists_of_remove hremove
    obtain rfl := Except.ok.inj (hk'.symm.trans hk'')
    simp only [drop_put]
    exact .undone _ hbegins hk hfree

/-- A write ends in one of these ways. -/
theorem ends_write (s : StoredSheet) (path : CodePoints) (d : Disk) :
    Ends s path d (s.write path d).1 (s.write path d).2 := by
  unfold write
  cases hfault : s.fault? with
  | some fault => exact .unbegun _ fun hbegins => nomatch hfault.symm.trans hbegins.fault?_eq
  | none =>
    by_cases hname : (Path.ofText path).name = []
    · simp only [if_pos hname]
      exact .unbegun _ fun hbegins => hbegins.name_ne hname
    · have hbegins : s.Begins path := ⟨hfault, hname⟩
      simp only [if_neg hname]
      cases hwrite : d.write (interimPath (.ofText path)) s.octets with
      | error e =>
        by_cases hunasked : e.fault.isUnasked = true
        · obtain ⟨fault, hfault⟩ :=
            Option.ne_none_iff_exists'.mp ((isUnasked_of_write hwrite).mp hunasked)
          simp only [if_pos hunasked]
          exact .unwritten _ ⟨_, remove_of_locate_error (locate_of_fault? hfault)⟩
        · simp only [if_neg hunasked]
          exact ends_cleanUp hbegins e.fault
      | ok written =>
        obtain ⟨k, before, hopen, rfl⟩ := exists_put_of_write hwrite
        obtain ⟨hk, hfree⟩ := openForWriting_ok hopen
        simp only
        split
        next moved hmove =>
          have hsame : SameDirectories d (d.put k (.file s.octets)) := .put nofun hfree
          obtain ⟨k', l, n, hk', hn, -, hl, hfree', rfl⟩ := exists_of_move hmove
          obtain rfl := Except.ok.inj (hk'.symm.trans (hsame.locate_iff.mpr hk))
          rw [node?_put_self (ne_nil_of_node? hfree), Option.some.injEq] at hn
          rw [drop_put, ← hn]
          exact .done hbegins hk hfree (hsame.locate_iff.mp hl)
            fun hdir => hfree' ((hsame.directory_iff l).mpr hdir)
        next fault _ => exact ends_cleanUp_written hbegins fault hopen

/-- An interim file that was written stays where it is refused to remove it. -/
lemma exists_write_of_kept {before : Octets} (hbegins : s.Begins path)
    (hopen : d.openForWriting (interimPath (.ofText path)) = .ok (k, before))
    (hrefused : ∃ r, d.refusal? .remove k = some r) :
    ∃ failure, s.write path d = (.error failure, d.put k (.file s.octets)) := by
  obtain ⟨r, hr⟩ := hrefused
  obtain ⟨hk, hfree⟩ := openForWriting_ok hopen
  have hwrite : d.write (interimPath (.ofText path)) s.octets = .ok (d.put k (.file s.octets)) := by
    rw [Disk.write, hopen]
    rfl
  have hk' := (SameDirectories.put (n := .file s.octets) (by simp) hfree).locate_iff.mpr hk
  obtain ⟨fault, hmove⟩ := exists_move_error (q := .ofText path) hk' hr
  have hheld : (d.put k (.file s.octets)).Held (interimPath (.ofText path)) :=
    (held_put_iff hopen).mpr ⟨r, hr⟩
  obtain ⟨error, hremove, -⟩ := remove_error_iff.mpr hheld
  rw [write, hbegins.fault?_eq]
  simp only [if_neg hbegins.name_ne, hwrite, hmove, cleanUp, hremove]
  exact ⟨_, rfl⟩

/-- The interim file is not the final one. -/
lemma Begins.locationText_ne (h : s.Begins path)
    (hk : d.locate (interimPath (.ofText path)) = .ok k) (hl : d.locate (.ofText path) = .ok l) :
    locationText k ≠ locationText l := by
  have hlonger (other : String) (h : other.length < (Path.ofText path).name.fileName.length + 4) :
      CodePoints.fileName ((Path.ofText path).name ++ ".tmp") ≠ other := by
    rintro rfl
    rw [fileName_interim, String.length_append] at h
    exact Nat.lt_irrefl _ h
  have hshort {count : Nat} (h : count < 4) :
      count < (Path.ofText path).name.fileName.length + 4 :=
    Nat.lt_add_left _ h
  exact locationText_withName_ne (Path.getLast?_parts h.name_ne)
    (CodePoints.slash_fileName (Path.slash_name path))
    (hlonger _ (Nat.lt_add_of_pos_right (by decide))) (hlonger ".." (hshort (by decide)))
    (hlonger "" (hshort (by decide))) hk hl

namespace Ends

variable {failure : SheetFailure}

lemma sameDirectories (h : Ends s path d outcome d') : SameDirectories d d' := by
  cases h with
  | unbegun failure h => exact .refl d
  | unwritten failure h => exact .refl d
  | undone failure hbegins hk hfree => exact .drop hfree
  | kept failure hbegins hopen => exact .put nofun (openForWriting_ok hopen).2
  | done hbegins hk hfree hl hfree' =>
    exact (SameDirectories.drop hfree).trans (.put nofun (node?_drop_ne_directory hfree'))

lemma eq_of_not_begins (h : Ends s path d outcome d') (hnot : ¬s.Begins path) : d' = d := by
  cases h with
  | unbegun failure h => rfl
  | unwritten failure h => rfl
  | undone failure hbegins => exact absurd hbegins hnot
  | kept failure hbegins => exact absurd hbegins hnot
  | done hbegins => exact absurd hbegins hnot

/-- After a failure, the final file is as it was. -/
lemma found?_of_error (h : Ends s path d (.error failure) d') :
    d'.found? (.ofText path) = d.found? (.ofText path) := by
  cases h with
  | unbegun failure h => rfl
  | unwritten failure h => rfl
  | undone failure hbegins hk hfree =>
    apply (SameDirectories.drop hfree).found?_eq
    intro l hl
    exact (AlikeAt.drop hfree (hbegins.locationText_ne hk hl)).node?_eq
  | kept failure hbegins hopen =>
    obtain ⟨hk, hfree⟩ := openForWriting_ok hopen
    apply (SameDirectories.put (by simp) hfree).found?_eq
    intro l hl
    exact (AlikeAt.put (by simp) hfree (hbegins.locationText_ne hk hl)).node?_eq

lemma found?_interim_of_drop (hk : d.locate (interimPath (.ofText path)) = .ok k)
    (hfree : d.node? k ≠ some .directory) :
    (d.drop k).found? (interimPath (.ofText path)) = none := by
  rw [found?_of_locate ((SameDirectories.drop hfree).locate_iff.mpr hk)]
  exact node?_drop_self (ne_nil_of_node? hfree)

/-- After a success, the sheet is at its path, and the interim file is gone. -/
lemma found?_of_ok (h : Ends s path d (.ok ()) d') :
    d'.found? (.ofText path) = some (.file s.octets) ∧
      d'.found? (interimPath (.ofText path)) = none := by
  have hsame := h.sameDirectories
  cases h with
  | done hbegins hk hfree hl hfree' =>
    have hne := hbegins.locationText_ne hk hl
    rw [found?_of_locate (hsame.locate_iff.mpr hl), found?_of_locate (hsame.locate_iff.mpr hk)]
    have hk' := ne_nil_of_node? hfree
    refine ⟨node?_put_self (ne_nil_of_node? hfree'), ?_⟩
    rw [node?_put_of_ne hk' hne.symm, node?_drop_self hk']

/-- After a failure, there is no new interim file, where what is added can be removed again. -/
lemma found?_interim_of_error (h : Ends s path d (.error failure) d')
    (htakes : d.TakesBack (interimPath (.ofText path)))
    (hnone : d.found? (interimPath (.ofText path)) = none) :
    d'.found? (interimPath (.ofText path)) = none := by
  cases h with
  | unbegun failure h => exact hnone
  | unwritten failure h => exact hnone
  | undone failure hbegins hk hfree => exact found?_interim_of_drop hk hfree
  | kept failure hbegins hopen hrefused =>
    obtain ⟨r, hr⟩ := hrefused
    exact absurd hnone (htakes.found?_ne_none hopen hr)

/-- A file that was at the interim path is lost, unless it is refused to remove it. -/
lemma found?_interim_of_begins {n : DiskNode} (h : Ends s path d outcome d')
    (hbegins : s.Begins path) (hk : d.locate (interimPath (.ofText path)) = .ok k)
    (hn : d.node? k = some n) (hfile : n ≠ .directory)
    (hremove : d.refusal? .remove k = none) :
    d'.found? (interimPath (.ofText path)) = none := by
  cases h with
  | unbegun failure h => exact absurd hbegins h
  | unwritten failure h =>
    obtain ⟨e, he⟩ := h
    obtain ⟨r, hr⟩ := exists_refusal_of_remove_error hk hn hfile he
    cases hremove.symm.trans hr
  | undone failure hbegins hk hfree => exact found?_interim_of_drop hk hfree
  | kept failure hbegins hopen hrefused =>
    obtain ⟨r, hr⟩ := hrefused
    obtain rfl := Except.ok.inj (hk.symm.trans (openForWriting_ok hopen).1)
    cases hremove.symm.trans hr
  | done hbegins hk hfree hl hfree' =>
    exact (found?_of_ok (.done hbegins hk hfree hl hfree')).2

end Ends

end StoredSheet

/-! ### Other files -/

namespace Sheet

open StoredSheet

/-- What a save leaves of the rest of the disk. -/
structure SparesOthers (s : Sheet) (path : CodePoints) (d d' : Disk) : Prop
    extends SameDirectories d d' where
  node?_eq : ∀ l, d.LeadsElsewhere (.ofText path) l →
    d.LeadsElsewhere (interimPath (.ofText path)) l → d'.node? l = d.node? l
  eq_of_not_begins : ¬s.stored.Begins path → d' = d
  /-- A file at the interim path is lost, unless it is refused to remove it. -/
  found?_interim : s.stored.Begins path → ∀ k n, d.locate (interimPath (.ofText path)) = .ok k →
    d.node? k = some n → n ≠ .directory → d.refusal? .remove k = none →
      d'.found? (interimPath (.ofText path)) = none

/-- Whether or not a sheet is saved, nothing else changes on the disk but what is at the interim
path, and that only if the sheet could be written as far as it and its path are concerned. -/
theorem sparesOthers_save (s : Sheet) (path : CodePoints) (d : Disk) :
    s.SparesOthers path d (s.save path d).2.2 := by
  have hends := ends_write s.stored path d
  rw [disk_save]
  refine ⟨hends.sameDirectories, ?_, hends.eq_of_not_begins, ?_⟩
  · intro l hpath hinterim
    exact (alikeAt_write hpath fun _ => hinterim).node?_eq
  · intro hbegins k n hk hn hfile hremove
    exact hends.found?_interim_of_begins hbegins hk hn hfile hremove

/-- A disk with a file where the interim file of `s.sprd` would be. -/
def neighbour : Disk :=
  (Disk.blank "home").put ["home", "s.sprd.tmp"] (.file (Text.toUtf8 "kept"))

/-- Another file can be lost when a sheet is saved. -/
theorem not_found_neighbour :
    neighbour.found? (.ofText "s.sprd.tmp") = some (.file (Text.toUtf8 "kept")) ∧
      ((Sheet.empty .free defaultVersion).save "s.sprd" neighbour).2.2.found?
        (.ofText "s.sprd.tmp") = none := by
  have hinterim : interimPath (.ofText "s.sprd") = .ofText "s.sprd.tmp" := by cbv
  have hbegins : (Sheet.empty .free defaultVersion).stored.Begins "s.sprd" :=
    ⟨by cbv, by decide +kernel⟩
  have hlocate : neighbour.locate (.ofText "s.sprd.tmp") = .ok ["home", "s.sprd.tmp"] := by cbv
  have hfile : neighbour.found? (.ofText "s.sprd.tmp") = some (.file (Text.toUtf8 "kept")) := by
    rw [found?_of_locate hlocate]
    exact node?_put_self (by decide)
  have hends := ends_write (Sheet.empty .free defaultVersion).stored "s.sprd" neighbour
  refine ⟨hfile, ?_⟩
  rw [found?_of_locate hlocate] at hfile
  rw [← hinterim] at hlocate ⊢
  rw [disk_save]
  exact hends.found?_interim_of_begins hbegins hlocate hfile (by simp) rfl

end Sheet

end Recalc
