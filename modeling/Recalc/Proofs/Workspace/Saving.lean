import Recalc.Proofs.Sheet.Interim
import Recalc.Proofs.Sheet.Restored
import Recalc.Proofs.Sheet.WriteFailures
import Recalc.Proofs.Workspace.Audit

/-!
# Failed saves

A save that fails is not seen: the sheet is as it was, and so is what is at the path. After a save
that succeeds, the sheet is there as a whole. This is so with a log as well, unless the path leads
to the log itself, which the event of the save goes to. An interim file is left only in a directory
that lets it be added and not removed.
-/

namespace Recalc

open Disk EventLog Sheet StoredSheet

variable {w : Workspace} {s : Sheet} {d d' d'' : Disk} {p : Path} {path : CodePoints}
  {outcome : Except SheetFailure Unit} {after : Sheet} {log : EventLog}

/-- What is seen of a save in the sheet and on the disk as they are afterwards. -/
structure Sheet.SavesWhole (s : Sheet) (path : CodePoints) (d : Disk)
    (outcome : Except SheetFailure Unit) (after : Sheet) (d' : Disk) : Prop where
  of_error : ∀ failure, outcome = .error failure →
    after = s ∧ d'.found? (.ofText path) = d.found? (.ofText path) ∧
      (d.TakesBack (interimPath (.ofText path)) →
        d.found? (interimPath (.ofText path)) = none →
          d'.found? (interimPath (.ofText path)) = none)
  of_ok : outcome = .ok () →
    after = { s with changed := false } ∧
      d'.found? (.ofText path) = some (.file s.stored.octets) ∧
      StoredSheet.read d' path = .ok s.stored ∧
      d'.found? (interimPath (.ofText path)) = none

/-! ### Without a log -/

namespace Sheet

/-- What is seen of a save does not change with what is elsewhere on the disk. -/
lemma SavesWhole.congr (h : s.SavesWhole path d outcome after d')
    (hpath : d''.found? (.ofText path) = d'.found? (.ofText path))
    (hinterim : d''.found? (interimPath (.ofText path)) = d'.found? (interimPath (.ofText path))) :
    s.SavesWhole path d outcome after d'' := by
  constructor
  · intro failure hfailure
    rw [hpath, hinterim]
    exact h.of_error failure hfailure
  · intro hsaved
    obtain ⟨hafter, hfound, hread, hgone⟩ := h.of_ok hsaved
    rw [hpath, hinterim]
    refine ⟨hafter, hfound, ?_, hgone⟩
    have hsame : d''.read (.ofText path) = d'.read (.ofText path) := by
      rw [read_of_found? hfound, read_of_found? (hpath.trans hfound)]
    have hroot : readRoot d'' path = readRoot d' path := by
      delta readRoot
      simp only [hsame]
    rw [StoredSheet.read, hroot]
    exact hread

lemma Reachable.savesWhole (hs : s.Reachable) (path : CodePoints) (d : Disk) :
    s.SavesWhole path d (s.save path d).1 (s.save path d).2.1 (s.save path d).2.2 := by
  have hends := ends_write s.stored path d
  unfold Sheet.save
  cases hwrite : s.stored.write path d with
  | mk outcome written =>
    rw [hwrite] at hends
    cases outcome with
    | error failure =>
      constructor
      · intro failure' _
        exact ⟨rfl, hends.found?_of_error, hends.found?_interim_of_error⟩
      · intro hsaved
        cases hsaved
    | ok =>
      obtain ⟨hpath, hinterim⟩ := hends.found?_of_ok
      constructor
      · intro failure hfailure
        cases hfailure
      · intro _
        refine ⟨rfl, hpath, ?_, hinterim⟩
        exact read_of_octets (of_write hwrite).1 (read_of_found? hpath) hs.entered.strip_stored

end Sheet

/-! ### With a log -/

/-- What is at a path stays when events are logged elsewhere. -/
lemma Workspace.found?_emitAll (e? : Option Event)
    (helse : ∀ log, w.log = some log → ∀ l, w.disk.locate p = .ok l →
      w.disk.LeadsElsewhere log.file l) :
    (w.emitAll e?).disk.found? p = w.disk.found? p := by
  cases e? with
  | none => rfl
  | some e =>
    rcases w.emit_cases e with ⟨log, d, hlog, happend, hemit⟩ | ⟨hdisk, -⟩
    · rw [emitAll, hemit]
      apply (SameDirectories.append happend).found?_eq
      intro l hl
      exact (AlikeAt.append (helse log hlog l hl) happend).node?_eq
    · rw [emitAll, hdisk]

/-- No log is an interim file. -/
lemma EventLog.leadsElsewhere_of_interimPath {l : Location}
    (hl : d.locate (interimPath (.ofText path)) = .ok l) : d.LeadsElsewhere log.file l := by
  intro k hk
  obtain ⟨k, rfl⟩ := exists_eq_of_locate_file hk
  exact (leadsElsewhere_interimPath isEntry_events.slash (by decide) l hl).symm

/-- A failed save is not seen, and a sheet that is saved is there as a whole, unless it is saved to
the log. -/
theorem Sheet.Reachable.savesWhole_of_spares (hs : s.Reachable) (w : Workspace)
    (hspares : ∀ log, w.log = some log → (Operation.save s path).Spares log w.disk) :
    s.SavesWhole path w.disk (w.save s path).1 (w.save s path).2.1 (w.save s path).2.2.disk := by
  have hsame : SameDirectories w.disk (s.save path w.disk).2.2 := by
    rw [disk_save]
    exact (ends_write s.stored path w.disk).sameDirectories
  obtain ⟨e?, hsave⟩ : ∃ e?, w.save s path = ((s.save path w.disk).1, (s.save path w.disk).2.1,
      { w with disk := (s.save path w.disk).2.2 }.emitAll e?) := Workspace.exists_save rfl
  rw [hsave]
  have hpath := Workspace.found?_emitAll (w := { w with disk := (s.save path w.disk).2.2 })
    (p := .ofText path) e? fun log hlog l hl k hk => by
      have hspared := (hspares log hlog).of_sameDirectories hsame
      exact (hspared k hk l hl).symm
  have hinterim := Workspace.found?_emitAll (w := { w with disk := (s.save path w.disk).2.2 })
    (p := interimPath (.ofText path)) e? fun log _ l hl => leadsElsewhere_of_interimPath hl
  exact (hs.savesWhole path w.disk).congr hpath hinterim

theorem savesWhole_diamond : diamond.Reachable ∧
    (∀ log, emptyProject.log = some log →
      (Operation.save diamond "s.sprd").Spares log emptyProject.disk) ∧
    diamond.SavesWhole "s.sprd" emptyProject.disk (emptyProject.save diamond "s.sprd").1
      (emptyProject.save diamond "s.sprd").2.1 (emptyProject.save diamond "s.sprd").2.2.disk := by
  have hlocate : emptyProject.disk.locate (.ofText "s.sprd") = .ok ["home", "s.sprd"] := by cbv
  have hspares (log : EventLog) (hlog : emptyProject.log = some log) :
      (Operation.save diamond "s.sprd").Spares log emptyProject.disk := by
    cases hlog
    intro l hl k hk
    rw [locate_projectLog, Except.ok.injEq] at hl
    rw [hlocate, Except.ok.injEq] at hk
    subst hl hk
    decide
  exact ⟨reachable_diamond, hspares, reachable_diamond.savesWhole_of_spares emptyProject hspares⟩

/-- At the path `seen`, where nothing was, something is found after a save that failed. -/
structure FailsSeen (s : Sheet) (path : CodePoints) (w : Workspace) (seen : Path) : Prop where
  reachable : s.Reachable
  failed : ∃ failure, (w.save s path).1 = .error failure
  found?_before : w.disk.found? seen = none
  found?_after : (w.save s path).2.2.disk.found? seen ≠ none

/-- A sheet with a character that cannot be stored. -/
def unstorable : Sheet :=
  ((Sheet.empty .free defaultVersion).setContents (.text "A1") (.text "\x01")).2

/-- A failed save to the log makes the log. -/
lemma failsSeen_log : FailsSeen unstorable "logs/events.ndjson" emptyProject
    (.ofText "logs/events.ndjson") := by
  have hreach : unstorable.Reachable := (Reachable.empty .free defaultVersion).setContents _ _
  have hfile : projectLog.file = .ofText "logs/events.ndjson" := by decide +kernel
  have hnone : emptyProject.disk.found? (.ofText "logs/events.ndjson") = none := by
    rw [← hfile, found?_of_locate locate_projectLog]
    cbv
  have hfault : unstorable.stored.fault?.isSome := by cbv
  obtain ⟨fault, hfault⟩ := Option.isSome_iff_exists.mp hfault
  have hwrite : unstorable.stored.write "logs/events.ndjson" emptyProject.disk =
      (.error (.file ⟨.unstorable fault, (Path.ofText "logs/events.ndjson").text⟩),
        emptyProject.disk) := by
    rw [StoredSheet.write, hfault]
  have hfailed : (unstorable.save "logs/events.ndjson" emptyProject.disk).1 =
      .error (.file ⟨.unstorable fault, (Path.ofText "logs/events.ndjson").text⟩) := by
    rw [fst_save, hwrite]
  obtain ⟨e?, hsave, hleaves⟩ := exists_leaves_save emptyProject unstorable "logs/events.ndjson"
  have hevent := hleaves.unique (.saveFailed hfailed)
  have hadds : Adds projectLog e?.toList emptyProject.disk (emptyProject.emitAll e?) :=
    .emitAll rfl works_projectLog hleaves.forall_told
  rw [disk_save, hwrite] at hsave
  refine ⟨hreach, ⟨_, hfailed⟩, hnone, ?_⟩
  rw [hsave]
  intro hfound
  have hoctets := hadds.octets_eq
  rw [hevent, List.flatMap_singleton, lineOctets_eq_append] at hoctets
  rw [← hfile] at hfound
  have hempty : projectLog.octets (emptyProject.emitAll e?).disk = [] :=
    octetsAt_of_found?_none hfound
  rw [hempty] at hoctets
  simp at hoctets

/-- A workspace without a log, where files can be added but not removed. -/
def lasting : Workspace :=
  .blank
    { Disk.blank "home" with
      refusal? := fun a _ => if a = .remove then some .notPermitted else none } ""

/-- A sheet that cannot be moved to its place stays where it was first written to. -/
lemma failsSeen_lasting : FailsSeen diamond "s.sprd" lasting (interimPath (.ofText "s.sprd")) := by
  have hlocate : lasting.disk.locate (interimPath (.ofText "s.sprd")) =
      .ok ["home", "s.sprd.tmp"] := by cbv
  have hnone : lasting.disk.node? ["home", "s.sprd.tmp"] = none := by cbv
  have hopen : lasting.disk.openForWriting (interimPath (.ofText "s.sprd")) =
      .ok (["home", "s.sprd.tmp"], []) :=
    openForWriting_eq_ok_iff.mpr ⟨hlocate, .inr ⟨hnone, rfl, by cbv⟩⟩
  have hbegins : diamond.stored.Begins "s.sprd" := ⟨by cbv, by decide +kernel⟩
  obtain ⟨failure, hwrite⟩ := exists_write_of_kept hbegins hopen ⟨.notPermitted, by cbv⟩
  have hsave : diamond.save "s.sprd" lasting.disk = (.error failure, diamond,
      lasting.disk.put ["home", "s.sprd.tmp"] (.file diamond.stored.octets)) := by
    rw [Sheet.save, hwrite]
  obtain ⟨e?, hsaved⟩ := Workspace.exists_save hsave
  refine ⟨reachable_diamond, ⟨failure, by rw [hsaved]⟩, ?_, ?_⟩
  · rw [found?_of_locate hlocate, hnone]
  · have hfree : lasting.disk.node? ["home", "s.sprd.tmp"] ≠ some .directory := by simp [hnone]
    have hsame := SameDirectories.put (n := .file diamond.stored.octets) (by simp) hfree
    have hlocate' := hsame.locate_iff.mpr hlocate
    rw [hsaved, Workspace.found?_emitAll e? fun log hlog => (by cases hlog),
      found?_of_locate hlocate', node?_put_self (by simp)]
    simp

theorem failed_saves_seen :
    FailsSeen unstorable "logs/events.ndjson" emptyProject (.ofText "logs/events.ndjson") ∧
      FailsSeen diamond "s.sprd" lasting (interimPath (.ofText "s.sprd")) :=
  ⟨failsSeen_log, failsSeen_lasting⟩

end Recalc
