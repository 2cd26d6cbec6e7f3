import Recalc.Proofs.Log.Writing
import Recalc.Proofs.Storage.Frame
import Recalc.Workspace.Project

/-!
# Logging beside a sheet

The log of a project is in a directory of its own, and to log an event changes nothing else on the
disk. Events that cannot be logged change nothing at all there.
-/

namespace Recalc

open Disk

variable {d : Disk} {l : Location} {project : Path} {w : Workspace} {s s' : Sheet}
  {name contents : Datum} {order : List String} {path : CodePoints}

lemma isEntry_events : IsEntry EventLog.fileName :=
  ⟨by decide, by decide, by decide, by decide⟩

/-! ### The directory of the log -/

/-- The log of the project can be opened, since its directory is there or can be made. -/
structure LogOpens (l : Location) (project : Path) (d : Disk) : Prop where
  isDirectory : d.node? l = some .directory
  locate : d.locate (project.child EventLog.directoryName) = .ok (l ++ [EventLog.directoryName])
  free : d.node? (l ++ [EventLog.directoryName]) = none ∧ d.refusal? .add l = none ∨
    d.node? (l ++ [EventLog.directoryName]) = some .directory

lemma makeDirectory_eq {p : Path} {name : String} (hp : d.locate p = .ok (l ++ [name]))
    (hl : d.node? l = some .directory) (hadd : d.refusal? .add l = none)
    (hnone : d.node? (l ++ [name]) = none) :
    d.makeDirectory p = .ok (d.put (l ++ [name]) .directory) := by
  have hcan : d.canAdd (l ++ [name]) = .ok () := by
    rw [canAdd_eq_ok_iff, List.dropLast_concat]
    exact ⟨hl, hadd⟩
  rw [makeDirectory, hp]
  simp only [Bind.bind, Except.bind, hnone, hcan]
  rfl

lemma exists_makeDirectories (h : LogOpens l project d) : ∃ d',
    d.makeDirectories (project.child EventLog.directoryName) true = (.ok (), d') ∧
      AlikeBeside l [EventLog.directoryName] d d' ∧
      d'.node? (l ++ [EventLog.directoryName]) = some .directory := by
  have hensure (d' : Disk)
      (h : d.ensureDirectory (project.child EventLog.directoryName) true = .ok d') :
      d.makeDirectories (project.child EventLog.directoryName) true = (.ok (), d') := by
    rw [makeDirectories, makeDirectoriesWithin, h]
  rcases h.free with ⟨hnone, hadd⟩ | hdir
  · refine ⟨_, hensure _ ?_, .put (List.mem_singleton_self _) (by simp [hnone]),
      node?_put_self (by simp)⟩
    rw [ensureDirectory, makeDirectory_eq h.locate h.isDirectory hadd hnone]
  · refine ⟨d, hensure d ?_, .refl _ _ d, hdir⟩
    have hexists : d.makeDirectory (project.child EventLog.directoryName) =
        .error ⟨.exists, some (project.child EventLog.directoryName).text⟩ := by
      rw [makeDirectory, h.locate]
      simp only [Bind.bind, Except.bind, hdir]
      rfl
    have hfind : d.isDirectory (project.child EventLog.directoryName) = true := by
      rw [isDirectory, find, h.locate]
      simp only [Bind.bind, Except.bind, hdir]
      rfl
    rw [ensureDirectory, hexists]
    simp only [hfind, Bool.and_true, if_true]

/-! ### Workspaces with a log -/

namespace Workspace

/-- Events go to the log in the directory. -/
def LogsIn (l : Location) (w : Workspace) : Prop :=
  ∃ log, w.log = some log ∧
    w.disk.locate log.directory = .ok (l ++ [EventLog.directoryName]) ∧
    w.disk.node? (l ++ [EventLog.directoryName]) = some .directory

lemma LogsIn.isDirectory (h : w.LogsIn l) :
    w.disk.node? (l ++ [EventLog.directoryName]) = some .directory := by
  obtain ⟨log, -, -, hnode⟩ := h
  exact hnode

lemma LogsIn.of_alikeBeside {w' : Workspace} {names : List String} (h : w.LogsIn l)
    (hlog : w'.log = w.log) (hdisk : AlikeBeside l names w.disk w'.disk) : w'.LogsIn l := by
  obtain ⟨log, hw, hlocate, hnode⟩ := h
  exact ⟨log, hlog.trans hw, hdisk.locate hlocate, hdisk.directory _ hnode⟩

@[simp]
lemma disk_warn (w : Workspace) (warning : Warning) : (w.warn warning).disk = w.disk := by
  unfold warn
  split <;> rfl

@[simp]
lemma log_warn (w : Workspace) (warning : Warning) : (w.warn warning).log = w.log := by
  unfold warn
  split <;> rfl

lemma emit_of_no_log (hlog : w.log = none) (e : Event) : w.emit e = w := by
  simp only [emit, deliver, hlog]

lemma emit_of_log {log : EventLog} (hlog : w.log = some log) (e : Event) : w.emit e =
    match log.write (w.room + 3) w.disk e.clipped.attributed with
    | .ok d => { w with disk := d }
    | .error _ => w.warn .loggingFailed := by
  simp only [emit, deliver, hlog]
  cases log.write (w.room + 3) w.disk e.clipped.attributed <;> rfl

/-- The line of an event is added to the log, or the disk stays as it is. -/
lemma emit_cases (w : Workspace) (e : Event) :
    (∃ log d, w.log = some log ∧ w.disk.append log.file
      (EventLog.lineOctets e.clipped.attributed) = .ok d ∧ w.emit e = { w with disk := d }) ∨
    (w.emit e).disk = w.disk ∧ (w.emit e).log = w.log := by
  rcases Option.eq_none_or_eq_some w.log with hlog | ⟨log, hlog⟩
  · rw [emit_of_no_log hlog]
    exact .inr ⟨rfl, rfl⟩
  · rw [emit_of_log hlog]
    cases hwrite : log.write (w.room + 3) w.disk e.clipped.attributed with
    | error fault => exact .inr ⟨disk_warn _ _, log_warn _ _⟩
    | ok d => exact .inl ⟨log, d, hlog, (EventLog.write_eq_ok_iff.mp hwrite).2, rfl⟩

/-- An event changes nothing but the log. -/
lemma LogsIn.emit (h : w.LogsIn l) (e : Event) :
    AlikeBeside l [EventLog.directoryName] w.disk (w.emit e).disk ∧ (w.emit e).LogsIn l := by
  suffices hstep : AlikeBeside l [EventLog.directoryName] w.disk (w.emit e).disk ∧
      (w.emit e).log = w.log from ⟨hstep.1, h.of_alikeBeside hstep.2 hstep.1⟩
  obtain ⟨log, hlog, hlocate, hnode⟩ := h
  rcases w.emit_cases e with ⟨log', d', hlog', happend, hemit⟩ | hdisk
  · obtain rfl : log = log' := Option.some.inj (hlog.symm.trans hlog')
    rw [hemit]
    refine ⟨?_, rfl⟩
    obtain ⟨⟨m, before⟩, hopen, -⟩ := exists_of_bind (exists_of_about happend)
    obtain ⟨hm, -⟩ := openForWriting_ok hopen
    obtain rfl := eq_of_locate_child isEntry_events hlocate hm
    rw [List.append_assoc] at hm
    exact .append happend hm (List.mem_singleton_self _)
  · rw [hdisk.1]
    exact ⟨.refl _ _ _, hdisk.2⟩

lemma LogsIn.emitAll (h : w.LogsIn l) (e? : Option Event) :
    AlikeBeside l [EventLog.directoryName] w.disk (w.emitAll e?).disk ∧
      (w.emitAll e?).LogsIn l := by
  cases e? with
  | none => exact ⟨.refl _ _ _, h⟩
  | some e => exact h.emit e

/-- To open the log changes nothing but its directory. -/
lemma exists_logTo (h : LogOpens l project w.disk) : ∃ w', w.logTo project = (.ok (), w') ∧
    AlikeBeside l [EventLog.directoryName] w.disk w'.disk ∧ w'.LogsIn l := by
  obtain ⟨d', hmade, hdisk, hnode⟩ := exists_makeDirectories h
  have hopen (forced : Bool) (tailBytes : Option Int) :
      EventLog.openIn w.disk project forced tailBytes =
        (.ok ⟨project.child EventLog.directoryName, forced,
          tailBytes.getD EventLog.defaultTailBytes⟩, d') := by
    rw [EventLog.openIn, hmade]
    rfl
  have hlogs (w' : Workspace) (forced : Bool) (tailBytes : Option Int) :
      AlikeBeside l [EventLog.directoryName] w.disk d' ∧
        LogsIn l { w' with
          disk := d'
          log := some ⟨project.child EventLog.directoryName, forced,
            tailBytes.getD EventLog.defaultTailBytes⟩ } :=
    ⟨hdisk, _, rfl, hdisk.locate h.locate, hnode⟩
  rw [logTo]
  cases Settings.load w.disk project with
  | error e =>
    simp only [disk_warn, hopen]
    exact ⟨_, rfl, hlogs _ _ _⟩
  | ok settings =>
    cases htail : Settings.tailBytes? settings with
    | some tailBytes =>
      simp only [htail, hopen]
      exact ⟨_, rfl, hlogs _ _ _⟩
    | none =>
      simp only [htail, disk_warn, hopen]
      exact ⟨_, rfl, hlogs _ _ _⟩

/-! ### Logged operations -/

/-- A refused edit is logged, and nothing else happens. -/
lemma exists_setContents_error {e : EditError} (h : s.setContents name contents = (.error e, s')) :
    ∃ event?, w.setContents s name contents = (.error e, w.emitAll event?) := by
  simp only [setContents, edit, h]
  exact ⟨_, rfl⟩

lemma exists_setContents_ok (h : s.setContents name contents = (.ok order, s')) :
    ∃ event?, w.setContents s name contents = (.ok (s', order), w.emitAll event?) := by
  simp only [setContents, edit, h]
  exact ⟨_, rfl⟩

lemma exists_save {outcome : Except SheetFailure Unit}
    (h : s.save path w.disk = (outcome, s', d)) :
    ∃ event?, w.save s path = (outcome, s', { w with disk := d }.emitAll event?) := by
  simp only [save, h]
  exact ⟨_, rfl⟩

end Workspace

end Recalc
