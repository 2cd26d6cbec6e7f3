import Recalc.Proofs.Sheet.Reachable
import Recalc.Proofs.Sheet.RoundTrip
import Recalc.Proofs.Storage.Faults

/-!
# Failures to write

A sheet that is not written is told as a fault of its file, unless the interim file cannot be
removed afterwards. That is so exactly when something that is held is at its path, or the file is
held as soon as it is written.
-/

namespace Recalc

open Disk

/-- A fault of the file, told with the path as it was given or as it is read. -/
def SheetFailure.OfFile (path : CodePoints) : SheetFailure → Prop
  | .file e => e.path = path ∨ e.path = (Path.ofText path).text
  | _ => False

namespace StoredSheet

variable {s : StoredSheet} {d : Disk} {path : CodePoints} {p : Path} {fault : DiskFault}
  {failure : SheetFailure} {error : DiskError}

/-- A failed write is told as a fault of the file, unless there is something at the interim path
that is not to be removed. -/
lemma cleanUp_cases (d : Disk) (p : Path) (fault : DiskFault) :
    (cleanUp d p fault).1 = .error (.file ⟨.unwritable fault, p.text⟩) ∨
      ∃ error, d.remove (interimPath p) = .error error ∧ error.fault ≠ .notFound ∧
        (cleanUp d p fault).1 = .error (.disk error) := by
  unfold cleanUp
  cases hremove : d.remove (interimPath p) with
  | ok removed => exact .inl rfl
  | error error =>
    by_cases hmissing : error.fault = .notFound
    · simp [hmissing]
    · exact .inr ⟨error, rfl, hmissing, by simp [hmissing]⟩

/-- A write ends well, with a fault of the file, or with a fault of the disk. The last comes about
at a blocked interim path only. -/
lemma write_cases (hname : (Path.ofText path).name ≠ []) :
    (s.write path d).1 = .ok () ∨
      (∃ fault, (s.write path d).1 = .error (.file ⟨fault, (Path.ofText path).text⟩)) ∨
      s.fault? = none ∧ d.Blocked (interimPath (.ofText path)) ∧
        ∃ error, (s.write path d).1 = .error (.disk error) := by
  unfold write
  cases hfault : s.fault? with
  | some fault => exact .inr (.inl ⟨_, rfl⟩)
  | none =>
    simp only [if_neg hname]
    split
    next error hwrite =>
      split
      next hunasked =>
        obtain ⟨fault, hfault⟩ :=
          Option.ne_none_iff_exists'.mp ((isUnasked_of_write hwrite).mp hunasked)
        have hheld := held_of_fault? (d := d) hfault
        exact .inr (.inr ⟨trivial, .held hheld, error, rfl⟩)
      rcases cleanUp_cases d (.ofText path) error.fault with hfile | ⟨error', hremove, hne, hdisk⟩
      · exact .inr (.inl ⟨_, hfile⟩)
      · have hheld := remove_error_iff.mp ⟨error', hremove, hne⟩
        exact .inr (.inr ⟨trivial, .held hheld, error', hdisk⟩)
    next written hwrite =>
      split
      next => exact .inl rfl
      next fault _ =>
        obtain ⟨k, before, hopen, rfl⟩ := exists_put_of_write hwrite
        rcases cleanUp_cases (d.put k (.file s.octets)) (.ofText path) fault with
          hfile | ⟨error, hremove, hne, hdisk⟩
        · exact .inr (.inl ⟨_, hfile⟩)
        · obtain ⟨r, hr⟩ := (held_put_iff hopen).mp (remove_error_iff.mp ⟨error, hremove, hne⟩)
          exact .inr (.inr ⟨trivial, .kept hopen hr, error, hdisk⟩)

/-- What is held is told when it is to be removed. -/
lemma cleanUp_of_held (fault : DiskFault) (h : d.Held (interimPath p)) :
    ∃ error, (cleanUp d p fault).1 = .error (.disk error) := by
  obtain ⟨error, hremove, hne⟩ := remove_error_iff.mpr h
  refine ⟨error, ?_⟩
  simp only [cleanUp, hremove, if_neg hne]

/-- Where the interim path is blocked, the failure is that of the removal. -/
lemma write_of_blocked (hname : (Path.ofText path).name ≠ [])
    (hfault : s.fault? = none) (hblocked : d.Blocked (interimPath (.ofText path))) :
    ∃ error, (s.write path d).1 = .error (.disk error) := by
  rw [write, hfault]
  simp only [if_neg hname]
  cases hwrite : d.write (interimPath (.ofText path)) s.octets with
  | error error =>
    dsimp only
    split
    next => exact ⟨error, rfl⟩
    cases hblocked with
    | held hheld => exact cleanUp_of_held _ hheld
    | kept hopen =>
      rw [Disk.write, hopen] at hwrite
      cases hwrite
  | ok written =>
    obtain ⟨k, before, hopen, rfl⟩ := exists_put_of_write hwrite
    have hheld : (d.put k (.file s.octets)).Held (interimPath (.ofText path)) :=
      (held_put_iff hopen).mpr (hblocked.exists_refusal hopen)
    obtain ⟨r, hr⟩ := hblocked.exists_refusal hopen
    obtain ⟨hk, hfree⟩ := openForWriting_ok hopen
    have hk' : (d.put k (.file s.octets)).locate (interimPath (.ofText path)) = .ok k :=
      locate_of_directories (fun l hl => node?_put_of_directory hfree hl) rfl rfl hk
    obtain ⟨fault, hmove⟩ := exists_move_error (q := .ofText path) hk' hr
    simp only [hmove]
    exact cleanUp_of_held _ hheld

/-- The failures of a write. All of them are faults of the file, but for those of the disk, which
come about when nothing in the sheet keeps it from being written and the interim path is blocked. -/
structure WriteFails {α : Type} (s : StoredSheet) (path : CodePoints) (d : Disk)
    (outcome : Except SheetFailure α) : Prop where
  ofFile_or_disk : ∀ failure, outcome = .error failure →
    failure.OfFile path ∨ ∃ error, failure = .disk error
  disk_iff : (∃ error, outcome = .error (.disk error)) ↔
    (∀ c, s.Holds c → IsStandardChar c.toNat) ∧ d.Blocked (interimPath (.ofText path))

lemma writeFails_write (hname : (Path.ofText path).name ≠ []) :
    s.WriteFails path d (s.write path d).1 := by
  constructor
  · intro failure hfailure
    rcases s.write_cases (d := d) hname with hok | ⟨fault, hfile⟩ | ⟨-, -, error, hdisk⟩
    · rw [hok] at hfailure
      cases hfailure
    · rw [hfile, Except.error.injEq] at hfailure
      exact hfailure ▸ .inl (.inr rfl)
    · rw [hdisk, Except.error.injEq] at hfailure
      exact .inr ⟨error, hfailure.symm⟩
  · rw [← fault?_eq_none_iff_holds]
    refine ⟨?_, fun h => write_of_blocked hname h.1 h.2⟩
    rintro ⟨error, herror⟩
    rcases s.write_cases (d := d) hname with hok | ⟨fault, hfile⟩ | ⟨hfault, hblocked, -⟩
    · rw [hok] at herror
      cases herror
    · rw [hfile] at herror
      cases herror
    · exact ⟨hfault, hblocked⟩

end StoredSheet

namespace Sheet

open StoredSheet

variable {s : Sheet} {stored : StoredSheet} {d : Disk} {path : CodePoints}

lemma fst_save (s : Sheet) (path : CodePoints) (d : Disk) :
    (s.save path d).1 = (s.stored.write path d).1 := by
  unfold save
  split
  next h => rw [h]
  next h => rw [h]

/-- Whatever is on the disk, the failures to write a stored sheet or to save a sheet are faults of
the file, except when the interim path is blocked. -/
theorem writeFails_of_name (s : Sheet) (stored : StoredSheet) (d : Disk)
    (hname : (Path.ofText path).name ≠ []) :
    stored.WriteFails path d (stored.write path d).1 ∧
      s.stored.WriteFails path d (s.save path d).1 := by
  refine ⟨stored.writeFails_write hname, ?_⟩
  rw [fst_save]
  exact s.stored.writeFails_write hname

/-- A disk with a directory where the interim file of `sheet.xml` would be. -/
def occupied : Disk :=
  (Disk.blank "home").put ["home", "sheet.xml.tmp"] .directory

theorem writeFails_occupied :
    (Path.ofText "sheet.xml").name ≠ [] ∧
    awkward.WriteFails "sheet.xml" occupied (awkward.write "sheet.xml" occupied).1 ∧
    diamond.stored.WriteFails "sheet.xml" occupied (diamond.save "sheet.xml" occupied).1 := by
  have hname : (Path.ofText "sheet.xml").name ≠ [] := by decide
  exact ⟨hname, writeFails_of_name diamond awkward occupied hname⟩

/-- That the directory cannot be removed is told, and not that the file cannot be written. -/
theorem escapes_occupied :
    (Path.ofText "sheet.xml").name ≠ [] ∧ .char '\x00' ∉ CodePoints.ofString "sheet.xml" ∧
    ∃ failure, ((Sheet.empty .free defaultVersion).save "sheet.xml" occupied).1 = .error failure ∧
      ¬failure.OfFile "sheet.xml" := by
  have hname : (Path.ofText "sheet.xml").name ≠ [] := by decide
  have hfault : (Sheet.empty .free defaultVersion).stored.fault? = none := by cbv
  have hlocate : occupied.locate (interimPath (.ofText "sheet.xml")) =
      .ok ["home", "sheet.xml.tmp"] := by cbv
  have hblocked : occupied.Blocked (interimPath (.ofText "sheet.xml")) :=
    .held (.directory hlocate (by cbv))
  obtain ⟨error, herror⟩ := write_of_blocked hname hfault hblocked
  refine ⟨hname, by decide, .disk error, ?_, id⟩
  rw [fst_save, herror]

end Sheet

end Recalc
