import Recalc.Proofs.Log.Told
import Recalc.Proofs.Storage.Elsewhere
import Recalc.Proofs.Workspace.Logged

/-!
# The log as an audit

As long as the log can be written, it has one line for each edit that was done or was refused for
its formula or for a cycle, and for each sheet file that was written or read or could not be, in the
order in which this happened, and no other line. The texts of an event are clipped in the log.
-/

namespace Recalc

open Disk EventLog

/-! ### Operations -/

/-- What is done with a sheet, as it is at that time, or with a sheet file. -/
inductive Operation where
  | edit (s : Sheet) (name contents : Datum)
  | save (s : Sheet) (path : CodePoints)
  | load (path : CodePoints) (naming : Naming) (version : CodePoints)

/-- What is saved is not saved to the log. -/
def Operation.Spares (log : EventLog) (d : Disk) : Operation → Prop
  | .save _ path => ∀ l, d.locate log.file = .ok l → d.LeadsElsewhere (.ofText path) l
  | _ => True

lemma Operation.Spares.of_sameDirectories {log : EventLog} {d d' : Disk} {op : Operation}
    (h : op.Spares log d) (hdisk : SameDirectories d d') : op.Spares log d' := by
  cases op with
  | edit s name contents => exact trivial
  | save s path => exact fun l hl => hdisk.leadsElsewhere (h l (hdisk.locate_iff.mp hl))
  | load path naming version => exact trivial

namespace Workspace

/-- The workspace after an operation. -/
def perform (w : Workspace) : Operation → Workspace
  | .edit s name contents => (w.edit s name contents).2.2
  | .save s path => (w.save s path).2.2
  | .load path naming version => (w.load path naming version).2

/-- The workspace after operations, each at a time of its own. -/
def performAll (w : Workspace) : List (String × Operation) → Workspace
  | [] => w
  | (time, op) :: rest => ({ w with clock := time }.perform op).performAll rest

end Workspace

/-! ### What is told -/

/-- The event with these fields in its context. -/
def Event.entry (time : String) (level : EventLevel) (kind : EventKind) (code : Option FailureCode)
    (message : CodePoints) (fields : Datum.Fields) : Event :=
  { schemaVersion := currentSchema
    time, level, kind, message
    context := Json.entriesOf fields
    code := code.map (·.text) }

/-- The events that an operation leaves. Which they are depends on how the operation ends. -/
inductive Leaves (d : Disk) (time : String) : Operation → List Event → Prop where
  | updated {s s' : Sheet} {name contents : Datum} {text cell : String} {order : List String}
      (htext : contents.text? = some text) (hcell : s.checkName name = .ok cell)
      (h : s.setContents name contents = (.ok order, s')) :
      Leaves d time (.edit s name contents) [.entry time .info .cellUpdated none
        ("Set " ++ cell ++ "; recalculated " ++ toString order.length ++ " cells" : String)
        [("cell", .text cell), ("contents", .text text), ("recalculated", Event.cellList order)]]
  | formulaRejected {s s' : Sheet} {name contents : Datum} {text cell : String}
      {e : Formula.FormatError} (htext : contents.text? = some text)
      (hcell : s.checkName name = .ok cell)
      (h : s.setContents name contents = (.error (.format e), s')) :
      Leaves d time (.edit s name contents) [.entry time .warning .formulaRejected
        (some .formulaFormat) e.message [("cell", .text cell), ("contents", .text text)]]
  | circularRejected {s s' : Sheet} {name contents : Datum} {text cell : String}
      {path : List String} (htext : contents.text? = some text)
      (hcell : s.checkName name = .ok cell)
      (h : s.setContents name contents = (.error (.circular path), s')) :
      Leaves d time (.edit s name contents) [.entry time .warning .circularRejected
        (some .circularReference) (EditError.circular path).message
        [("cell", .text cell), ("contents", .text text), ("cycle", Event.cellList path)]]
  /-- A bad name, contents that are no text, or a number that cannot be converted. -/
  | refused {s s' : Sheet} {name contents : Datum} {e : EditError}
      (h : s.setContents name contents = (.error e, s')) (hformat : ∀ f, e ≠ .format f)
      (hcircular : ∀ path, e ≠ .circular path) : Leaves d time (.edit s name contents) []
  | saved {s : Sheet} {path : CodePoints} (h : (s.save path d).1 = .ok ()) :
      Leaves d time (.save s path) [.entry time .info .sheetSaved none
        ("Saved " ++ toString s.cells.size ++ " cells" : String)
        [("path", .text path), ("version", .text s.version)]]
  | saveFailed {s : Sheet} {path : CodePoints} {e : SheetFileError}
      (h : (s.save path d).1 = .error (.file e)) :
      Leaves d time (.save s path) [.entry time .error .sheetFailed (some .sheetWriteFailed)
        e.message [("path", .text path), ("version", .text s.version)]]
  | saveStopped {s : Sheet} {path : CodePoints} {e : SheetFailure}
      (h : (s.save path d).1 = .error e) (hfile : ∀ f, e ≠ .file f) :
      Leaves d time (.save s path) []
  | loaded {s : Sheet} {path version : CodePoints} {naming : Naming}
      (h : Sheet.load d path naming version = .ok s) :
      Leaves d time (.load path naming version) [.entry time .info .sheetLoaded none
        ("Loaded " ++ toString s.cells.size ++ " cells" : String)
        [("path", .text path), ("version", .text version)]]
  /-- The file could be read, but it has another version. -/
  | versionMismatch {path version : CodePoints} {naming : Naming} {e : SheetFileError}
      {stored : StoredSheet} (h : Sheet.load d path naming version = .error (.file e))
      (hread : StoredSheet.read d path = .ok stored) (hversion : stored.version ≠ version) :
      Leaves d time (.load path naming version) [.entry time .error .sheetFailed
        (some .versionMismatch) e.message [("path", .text path), ("version", .text version)]]
  | loadFailed {path version : CodePoints} {naming : Naming} {e : SheetFileError}
      (h : Sheet.load d path naming version = .error (.file e))
      (hversion : ∀ stored, StoredSheet.read d path = .ok stored → stored.version = version) :
      Leaves d time (.load path naming version) [.entry time .error .sheetFailed
        (some .sheetReadFailed) e.message [("path", .text path), ("version", .text version)]]
  | loadStopped {path version : CodePoints} {naming : Naming} {e : SheetFailure}
      (h : Sheet.load d path naming version = .error e) (hfile : ∀ f, e ≠ .file f) :
      Leaves d time (.load path naming version) []

/-- The events that operations leave one after another. -/
inductive Trail : Workspace → List (String × Operation) → List Event → Prop where
  | nil (w : Workspace) : Trail w [] []
  | cons {w : Workspace} {time : String} {op : Operation} {rest : List (String × Operation)}
      {told events : List Event} (h : Leaves w.disk time op told)
      (hrest : Trail ({ w with clock := time }.perform op) rest events) :
      Trail w ((time, op) :: rest) (told ++ events)

variable {d : Disk} {w w' : Workspace} {log : EventLog} {e : Event}
  {time : String} {op : Operation} {ops : List (String × Operation)} {told told' : List Event}

/-- How an operation ends tells which events it leaves. -/
lemma Leaves.unique (h : Leaves d time op told) (h' : Leaves d time op told') : told = told' := by
  cases h with
  | refused h hformat hcircular =>
    cases h' with
    | updated _ _ h' => simp [h] at h'
    | formulaRejected _ _ h' =>
      obtain ⟨heq, -⟩ := Prod.ext_iff.mp (h.symm.trans h')
      exact absurd (Except.error.inj heq) (hformat _)
    | circularRejected _ _ h' =>
      obtain ⟨heq, -⟩ := Prod.ext_iff.mp (h.symm.trans h')
      exact absurd (Except.error.inj heq) (hcircular _)
    | refused => rfl
  | saveStopped h hfile =>
    cases h' with
    | saved h' => simp [h] at h'
    | saveFailed h' => exact absurd (Except.error.inj (h.symm.trans h')) (hfile _)
    | saveStopped => rfl
  | loadStopped h hfile =>
    cases h' with
    | loaded h' => simp [h] at h'
    | versionMismatch h' => exact absurd (Except.error.inj (h.symm.trans h')) (hfile _)
    | loadFailed h' => exact absurd (Except.error.inj (h.symm.trans h')) (hfile _)
    | loadStopped => rfl
  | _ => cases h' <;> simp_all

lemma Trail.unique {events events' : List Event} (h : Trail w ops events)
    (h' : Trail w ops events') : events = events' := by
  induction h generalizing events' with
  | nil => cases h' with | nil => rfl
  | cons hleaves _ ih =>
    cases h' with
    | cons hleaves' hrest' => rw [hleaves.unique hleaves', ih hrest']

/-! ### Told events can be written -/

lemma Event.told_entry {level : EventLevel} {kind : EventKind} {code : Option FailureCode}
    {message : CodePoints} {fields : Datum.Fields} (hkeys : (fields.map Prod.fst).Nodup)
    (hplain : ∀ field ∈ fields, Datum.IsPlain field.2)
    (hkey : ∀ key ∈ kind.requiredKey?, CodePoints.ofString key ∈ fields.map Prod.fst) :
    (Event.entry time level kind code message fields).Told := by
  refine ⟨rfl, ⟨fields, hkeys, hplain, rfl⟩, ?_⟩
  refine Option.filter_eq_none_iff.mpr fun key hmem => ?_
  obtain ⟨⟨k, v⟩, hfield, hk⟩ := List.mem_map.mp (hkey key hmem)
  have hfind : Datum.Entries.find? (Json.entriesOf fields) key = some v :=
    (Datum.find?_eq_some_iff hkeys).mpr (hk ▸ hfield)
  change ¬(Datum.Entries.find? (Json.entriesOf fields) key).isNone = true
  rw [hfind]
  exact Bool.false_ne_true

lemma Event.isPlain_cellList (names : List String) : (Event.cellList names).IsPlain := by
  have htexts : (names.map fun name => Datum.text (CodePoints.ofString name)) =
      (names.map CodePoints.ofString).map .text := by
    rw [List.map_map]
    rfl
  rw [Event.cellList, htexts]
  exact .texts _

lemma Leaves.forall_told (h : Leaves d time op told) : ∀ e ∈ told, e.Told := by
  have htexts (k₁ k₂ s₁ s₂ : CodePoints) : ∀ field ∈ [(k₁, Datum.text s₁), (k₂, .text s₂)],
      Datum.IsPlain field.2 :=
    List.forall_mem_cons.mpr ⟨.text s₁, List.forall_mem_singleton.mpr (.text s₂)⟩
  have hlist (k s₁ s₂ : CodePoints) (names : List String) : ∀ field ∈ ([("cell", .text s₁),
      ("contents", .text s₂), (k, Event.cellList names)] : Datum.Fields), Datum.IsPlain field.2 :=
    List.forall_mem_cons.mpr ⟨.text s₁, List.forall_mem_cons.mpr ⟨.text s₂,
      List.forall_mem_singleton.mpr (Event.isPlain_cellList names)⟩⟩
  cases h with
  | updated | circularRejected =>
    rw [List.forall_mem_singleton]
    exact Event.told_entry (by simp) (hlist _ _ _ _) (by simp [EventKind.requiredKey?])
  | formulaRejected | saved | saveFailed | loaded | versionMismatch | loadFailed =>
    rw [List.forall_mem_singleton]
    exact Event.told_entry (by simp) (htexts _ _ _ _) (by simp [EventKind.requiredKey?])
  | refused | saveStopped | loadStopped => exact fun e he => absurd he List.not_mem_nil

/-- Nothing but the message and the context of such an event can keep it from being read as it is
written. -/
lemma Event.isJson_entry {level : EventLevel} {kind : EventKind} {code : Option FailureCode}
    {message : CodePoints} {fields : Datum.Fields} (hmessage : message.Unpaired)
    (h : (Datum.record fields).IsJson) :
    (Event.entry time level kind code message fields).toDatum.IsJson := by
  have htext := CodePoints.unpaired_ofString
  refine Event.isJson_toDatum_iff.mpr ⟨h, htext _, hmessage, fun text hcode => ?_⟩
  obtain ⟨c, -, rfl⟩ := Option.map_eq_some_iff.mp hcode
  exact htext _

/-! ### Each operation leaves its events -/

lemma exists_leaves_edit (w : Workspace) (s : Sheet) (name contents : Datum) : ∃ e?,
    (w.edit s name contents).2.2 = w.emitAll e? ∧
      Leaves w.disk w.clock (.edit s name contents) e?.toList := by
  simp only [Workspace.edit]
  cases hset : s.setContents name contents with
  | mk outcome s' =>
    cases htext : contents.text? with
    | none =>
      have hkind : s.setContents name contents = (.error (.notText contents.kind), s) := by
        rw [Sheet.setContents, htext]
      exact ⟨none, rfl, .refused hkind (by simp) (by simp)⟩
    | some text =>
      cases hcell : s.checkName name with
      | error e =>
        have hname : s.setContents name contents = (.error (.invalidName e), s) := by
          simp only [Sheet.setContents, htext, hcell]
        exact ⟨none, rfl, .refused hname (by simp) (by simp)⟩
      | ok cell =>
        cases outcome with
        | ok order => exact ⟨some _, rfl, .updated htext hcell hset⟩
        | error e =>
          cases e with
          | format e => exact ⟨some _, rfl, .formulaRejected htext hcell hset⟩
          | circular path => exact ⟨some _, rfl, .circularRejected htext hcell hset⟩
          | notText kind => exact ⟨none, rfl, .refused hset (by simp) (by simp)⟩
          | invalidName e => exact ⟨none, rfl, .refused hset (by simp) (by simp)⟩
          | unreadableNumber text => exact ⟨none, rfl, .refused hset (by simp) (by simp)⟩

lemma exists_leaves_save (w : Workspace) (s : Sheet) (path : CodePoints) : ∃ e?,
    (w.save s path).2.2 = { w with disk := (s.save path w.disk).2.2 }.emitAll e? ∧
      Leaves w.disk w.clock (.save s path) e?.toList := by
  simp only [Workspace.save]
  cases h : (s.save path w.disk).1 with
  | ok => exact ⟨some _, rfl, .saved h⟩
  | error e =>
    cases e with
    | file e => exact ⟨some _, rfl, .saveFailed h⟩
    | encoding e => exact ⟨none, rfl, .saveStopped h (by simp)⟩
    | unreadableNumber text => exact ⟨none, rfl, .saveStopped h (by simp)⟩
    | namelessPath path => exact ⟨none, rfl, .saveStopped h (by simp)⟩
    | disk e => exact ⟨none, rfl, .saveStopped h (by simp)⟩

/-- A file that cannot be read is not told to have another version. -/
lemma StoredSheet.loadCode_of_read {path : CodePoints} {e : SheetFailure}
    (h : StoredSheet.read d path = .error e) : Event.loadCode e = .sheetReadFailed := by
  unfold StoredSheet.read at h
  cases hroot : readRoot d path with
  | ok root =>
    rw [hroot] at h
    change (ofElement root).mapError _ = .error e at h
    cases helement : ofElement root with
    | ok stored => rw [helement] at h; cases h
    | error fault => rw [helement] at h; cases h; rfl
  | error failure =>
    rw [hroot] at h
    cases h
    unfold readRoot at hroot
    dsimp only at hroot
    split at hroot
    next =>
      split at hroot
      next => cases hroot; rfl
      next => cases hroot; rfl
    next =>
      split at hroot
      next => cases hroot; rfl
      next => cases hroot; rfl
      next =>
        split at hroot
        next => cases hroot; rfl
        next => cases hroot

/-- A load that fails tells another version just when the file could be read and has one. -/
lemma Sheet.load_error {path version : CodePoints} {naming : Naming} {e : SheetFailure}
    (h : Sheet.load d path naming version = .error e) :
    (∃ stored, StoredSheet.read d path = .ok stored ∧ stored.version ≠ version ∧
      Event.loadCode e = .versionMismatch) ∨
    (∀ stored, StoredSheet.read d path = .ok stored → stored.version = version) ∧
      Event.loadCode e = .sheetReadFailed := by
  unfold load at h
  cases hread : StoredSheet.read d path with
  | error fault =>
    rw [hread] at h
    cases h
    exact .inr ⟨nofun, StoredSheet.loadCode_of_read hread⟩
  | ok stored =>
    rw [hread] at h
    simp only [Bind.bind, Except.bind] at h
    split at h
    next hne =>
      cases h
      exact .inl ⟨stored, rfl, hne, rfl⟩
    next heq =>
      rw [not_not] at heq
      refine .inr ⟨fun stored' hstored => ?_, ?_⟩
      · cases hstored
        exact heq
      · simp only [pure, Except.pure] at h
        split at h
        next => cases h
        next => cases h; rfl
        next => cases h; rfl

lemma exists_leaves_load (w : Workspace) (path : CodePoints) (naming : Naming)
    (version : CodePoints) : ∃ e?,
    (w.load path naming version).2 = w.emitAll e? ∧
      Leaves w.disk w.clock (.load path naming version) e?.toList := by
  simp only [Workspace.load]
  cases h : Sheet.load w.disk path naming version with
  | ok s => exact ⟨some _, rfl, .loaded h⟩
  | error e =>
    cases e with
    | file e =>
      dsimp only
      rcases Sheet.load_error h with ⟨stored, hread, hne, hcode⟩ | ⟨hsame, hcode⟩
      · rw [hcode]
        exact ⟨some _, rfl, .versionMismatch h hread hne⟩
      · rw [hcode]
        exact ⟨some _, rfl, .loadFailed h hsame⟩
    | encoding e => exact ⟨none, rfl, .loadStopped h (by simp)⟩
    | unreadableNumber text => exact ⟨none, rfl, .loadStopped h (by simp)⟩
    | namelessPath path => exact ⟨none, rfl, .loadStopped h (by simp)⟩
    | disk e => exact ⟨none, rfl, .loadStopped h (by simp)⟩

/-! ### The lines that are added -/

/-- The log is always under the same name. -/
lemma exists_eq_of_locate_file {l : Location} (h : d.locate log.file = .ok l) :
    ∃ k, l = k ++ [fileName] := by
  have hlast : log.file.parts.getLast? = some fileName := by
    rw [file, Path.child, isEntry_events.ofText_eq]
    exact List.getLast?_concat
  exact exists_eq_of_locate hlast isEntry_events.ne_up h

/-- The lines of the events are added to the log, which goes on to work. -/
structure Adds (log : EventLog) (told : List Event) (d : Disk) (w : Workspace) : Prop where
  log_eq : w.log = some log
  works : log.Works w.disk
  sameDirectories : SameDirectories d w.disk
  octets_eq : log.octets w.disk = log.octets d ++ told.flatMap fun e => lineOctets e.clipped

namespace Adds

lemma nil (hlog : w.log = some log) (hworks : log.Works w.disk) : Adds log [] w.disk w :=
  ⟨hlog, hworks, .refl _, (List.append_nil _).symm⟩

lemma append (h : Adds log told d w) (h' : Adds log told' w.disk w') :
    Adds log (told ++ told') d w' := by
  refine ⟨h'.log_eq, h'.works, h.sameDirectories.trans h'.sameDirectories, ?_⟩
  rw [h'.octets_eq, h.octets_eq, List.flatMap_append, List.append_assoc]

lemma emit (hlog : w.log = some log) (hworks : log.Works w.disk) (htold : e.Told) :
    Adds log [e] w.disk (w.emit e) := by
  have hattributed : e.clipped.attributed = e.clipped := htold.clipped.attributed_eq
  have hfault := htold.clipped.fault?_eq_none (Nat.le_add_left 3 w.room)
  obtain ⟨d', hwrite, hworks'⟩ := hworks.exists_write hfault
  rw [Workspace.emit_of_log hlog, hattributed, hwrite]
  refine ⟨hlog, hworks', .append (write_eq_ok_iff.mp hwrite).2, ?_⟩
  rw [List.flatMap_singleton]
  exact octetsAt_of_read (read_of_write hwrite)

lemma emitAll {e? : Option Event} (hlog : w.log = some log) (hworks : log.Works w.disk)
    (htold : ∀ e ∈ e?.toList, e.Told) : Adds log e?.toList w.disk (w.emitAll e?) := by
  cases e? with
  | none => exact nil hlog hworks
  | some e => exact emit hlog hworks (List.forall_mem_singleton.mp htold)

/-- A sheet that is saved elsewhere adds nothing. -/
lemma save {path : CodePoints} (s : Sheet) (hlog : w.log = some log) (hworks : log.Works w.disk)
    (hspares : ∀ l, w.disk.locate log.file = .ok l → w.disk.LeadsElsewhere (.ofText path) l) :
    Adds log [] w.disk { w with disk := (s.save path w.disk).2.2 } := by
  obtain ⟨l, before, hopen⟩ := hworks
  obtain ⟨hlocate, -⟩ := openForWriting_ok hopen
  obtain ⟨k, rfl⟩ := exists_eq_of_locate_file hlocate
  have halike : AlikeAt (k ++ [fileName]) w.disk (s.save path w.disk).2.2 := by
    rw [Sheet.disk_save]
    exact StoredSheet.alikeAt_write (hspares _ hlocate) fun _ =>
      StoredSheet.leadsElsewhere_interimPath isEntry_events.slash (by decide)
  have hopen' := halike.openForWriting_eq hopen
  refine ⟨hlog, ⟨_, _, hopen'⟩, halike.toSameDirectories, ?_⟩
  rw [List.flatMap_nil, List.append_nil, octets, octets, octetsAt_of_openForWriting hopen',
    octetsAt_of_openForWriting hopen]

end Adds

/-! ### Runs -/

/-- An operation adds the lines of the events that it leaves. -/
lemma exists_adds_perform (hlog : w.log = some log) (hworks : log.Works w.disk)
    (hspares : op.Spares log w.disk) :
    ∃ told, Leaves w.disk w.clock op told ∧ Adds log told w.disk (w.perform op) := by
  cases op with
  | edit s name contents =>
    obtain ⟨e?, hedit, hleaves⟩ := exists_leaves_edit w s name contents
    rw [Workspace.perform, hedit]
    exact ⟨_, hleaves, .emitAll hlog hworks hleaves.forall_told⟩
  | save s path =>
    obtain ⟨e?, hsave, hleaves⟩ := exists_leaves_save w s path
    have hsaved := Adds.save s hlog hworks hspares
    rw [Workspace.perform, hsave]
    exact ⟨_, hleaves, hsaved.append (.emitAll hsaved.log_eq hsaved.works hleaves.forall_told)⟩
  | load path naming version =>
    obtain ⟨e?, hload, hleaves⟩ := exists_leaves_load w path naming version
    rw [Workspace.perform, hload]
    exact ⟨_, hleaves, .emitAll hlog hworks hleaves.forall_told⟩

lemma exists_adds_performAll (hlog : w.log = some log) (hworks : log.Works w.disk)
    (hspares : ∀ step ∈ ops, step.2.Spares log w.disk) :
    ∃ events, Trail w ops events ∧ Adds log events w.disk (w.performAll ops) := by
  induction ops generalizing w with
  | nil => exact ⟨[], .nil w, .nil hlog hworks⟩
  | cons step rest ih =>
    obtain ⟨time, op⟩ := step
    obtain ⟨hfirst, hrest⟩ := List.forall_mem_cons.mp hspares
    obtain ⟨told, hleaves, hadds⟩ :=
      exists_adds_perform (w := { w with clock := time }) hlog hworks hfirst
    obtain ⟨events, htrail, hall⟩ := ih hadds.log_eq hadds.works fun step hstep =>
      (hrest step hstep).of_sameDirectories hadds.sameDirectories
    exact ⟨told ++ events, .cons hleaves htrail, hadds.append hall⟩

/-- What a working log has after operations that do not save to it is what it had before, with one
line for each event that the operations leave, in order. No other events are left by them. -/
theorem Workspace.octets_performAll (hlog : w.log = some log) (hworks : log.Works w.disk)
    (hspares : ∀ step ∈ ops, step.2.Spares log w.disk) :
    ∃ events, Trail w ops events ∧ (∀ events', Trail w ops events' → events' = events) ∧
      log.octets (w.performAll ops).disk =
        log.octets w.disk ++ events.flatMap fun e => lineOctets e.clipped := by
  obtain ⟨events, htrail, hadds⟩ := exists_adds_performAll hlog hworks hspares
  exact ⟨events, htrail, fun events' htrail' => htrail'.unique htrail, hadds.octets_eq⟩

/-! ### A project with a log -/

/-- The log of the project in the working directory. -/
def projectLog : EventLog :=
  ⟨⟨false, [directoryName]⟩, false, defaultTailBytes⟩

/-- An empty project, with a directory for its log. -/
def emptyProject : Workspace :=
  { Workspace.blank ((Disk.blank "home").put ["home", directoryName] .directory) "" with
    log := some projectLog }

lemma locate_projectLog : emptyProject.disk.locate projectLog.file =
    .ok ["home", directoryName, fileName] := by
  have hlogs : emptyProject.disk.locate projectLog.directory = .ok ["home", directoryName] := by cbv
  have hdirectory : emptyProject.disk.node? ["home", directoryName] = some .directory :=
    node?_put_self (by simp)
  have hfault : projectLog.file.fault? = none := by decide
  rw [file, locate_child_eq isEntry_events hlogs, ← file, hfault, step_of_directory hdirectory rfl]
  decide

lemma works_projectLog : projectLog.Works emptyProject.disk := by
  refine ⟨["home", directoryName, fileName], [], ?_⟩
  rw [openForWriting, locate_projectLog]
  cbv

/-- A cell is set, and the sheet is saved and loaded with another version. -/
def workday : List (String × Operation) :=
  [("2024-01-02T03:04:05.678901Z", .edit (.empty .free "default") (.text "A1") (.text "x")),
    ("2024-01-02T03:04:06.000000Z",
      .save ((Sheet.empty .free "default").setContents (.text "A1") (.text "x")).2 "s.sprd"),
    ("2024-01-02T03:04:07.000000Z", .load "s.sprd" .free "other")]

theorem octets_performAll_workday : emptyProject.log = some projectLog ∧
    projectLog.Works emptyProject.disk ∧
    (∀ step ∈ workday, step.2.Spares projectLog emptyProject.disk) ∧
    ∃ events, Trail emptyProject workday events ∧
      (∀ events', Trail emptyProject workday events' → events' = events) ∧
      projectLog.octets (emptyProject.performAll workday).disk =
        projectLog.octets emptyProject.disk ++ events.flatMap fun e => lineOctets e.clipped := by
  have hlocate : emptyProject.disk.locate (.ofText "s.sprd") = .ok ["home", "s.sprd"] := by cbv
  have hsave (s : Sheet) : (Operation.save s "s.sprd").Spares projectLog emptyProject.disk := by
    intro l hl k hk
    rw [locate_projectLog, Except.ok.injEq] at hl
    rw [hlocate, Except.ok.injEq] at hk
    subst hl hk
    decide
  have hspares : ∀ step ∈ workday, step.2.Spares projectLog emptyProject.disk :=
    List.forall_mem_cons.mpr ⟨trivial,
      List.forall_mem_cons.mpr ⟨hsave _, List.forall_mem_singleton.mpr trivial⟩⟩
  exact ⟨rfl, works_projectLog, hspares,
    Workspace.octets_performAll rfl works_projectLog hspares⟩

/-- A text that is longer than what the log keeps of it. -/
def longText : String :=
  String.ofList (List.replicate 257 'x')

lemma length_longText : longText.length = 257 :=
  String.length_ofList.trans List.length_replicate

lemma clipText_longText : clipText longText ≠ CodePoints.ofString longText := by
  intro h
  have hcount : (CodePoints.ofString longText).length = 257 := by
    rw [CodePoints.length_ofString, length_longText]
  have hlength := length_clipText_of_lt (Nat.lt_of_lt_of_eq (by decide : 256 < 257) hcount.symm)
  rw [h, hcount] at hlength
  omega

/-- A text with such a first letter can be entered, however long it is. -/
lemma exists_setContents_x {text : String} {rest : List Char} (h : text.toList = 'x' :: rest) :
    ∃ s', (Sheet.empty .free "default").setContents (.text "A1") (.text text) =
      (.ok ["A1"], s') := by
  have hentered : Contents.ofText .free text = .ok (.text text) := by
    have hnumber : Contents.readNumber? ('x' :: rest) = none := rfl
    rw [Contents.ofText, h, hnumber]
    simp only [Contents.ofOtherText, h]
    rfl
  have hcell : (Sheet.empty .free "default").checkName (.text "A1") = .ok "A1" := by cbv
  have horder : ((Sheet.empty .free "default").commit "A1" (.text text)).1 = .ok ["A1"] := by cbv
  have hset : (Sheet.empty .free "default").setContents (.text "A1") (.text text) =
      (Sheet.empty .free "default").commit "A1" (.text text) := by
    have hnaming : (Sheet.empty .free "default").naming = .free := rfl
    simp only [Sheet.setContents, Datum.text?, hcell, hnaming, hentered]
  exact ⟨_, hset.trans (Prod.ext horder rfl)⟩

/-- An edit with a longer text. -/
def longEdit : List (String × Operation) :=
  [("2024-01-02T03:04:05.678901Z", .edit (.empty .free "default") (.text "A1") (.text longText))]

/-- The events are not in the log with all of their texts. -/
theorem octets_longEdit : emptyProject.log = some projectLog ∧ projectLog.Works emptyProject.disk ∧
    (∀ step ∈ longEdit, step.2.Spares projectLog emptyProject.disk) ∧
    ¬∃ events, Trail emptyProject longEdit events ∧
      projectLog.octets (emptyProject.performAll longEdit).disk =
        projectLog.octets emptyProject.disk ++ events.flatMap lineOctets := by
  have hspares : ∀ step ∈ longEdit, step.2.Spares projectLog emptyProject.disk :=
    List.forall_mem_singleton.mpr trivial
  refine ⟨rfl, works_projectLog, hspares, ?_⟩
  rintro ⟨events, htrail, hoctets⟩
  obtain ⟨events', htrail', hadds⟩ := exists_adds_performAll rfl works_projectLog hspares
  have hchars : longText.toList = 'x' :: List.replicate 256 'x' := String.toList_ofList
  obtain ⟨s', hset⟩ := exists_setContents_x hchars
  have hcell : (Sheet.empty .free "default").checkName (.text "A1") = .ok "A1" := by cbv
  have hleaves : Leaves emptyProject.disk "2024-01-02T03:04:05.678901Z" _ _ :=
    .updated rfl hcell hset
  have htold := hleaves.forall_told _ (List.mem_singleton_self _)
  have htext := CodePoints.unpaired_ofString
  have hcontext : (Datum.record [("cell", .text "A1"), ("contents", .text longText),
      ("recalculated", Event.cellList ["A1"])]).IsJson := by
    refine Json.isJson_record_iff.mpr ⟨by simp, by simp [htext], ?_⟩
    simp [Json.isJson_text_iff, htext, Event.cellList, Datum.IsJson.list]
  -- The one event of the edit is in the log, but clipped.
  have hevents := htrail.unique (.cons hleaves (.nil _))
  rw [hadds.octets_eq, ← htrail.unique htrail', List.append_cancel_left_eq, hevents] at hoctets
  simp only [List.append_nil, List.flatMap_singleton] at hoctets
  exact htold.lineOctets_clipped_ne
    (Event.isJson_entry (CodePoints.unpaired_ofString _) hcontext) "contents" rfl clipText_longText
    hoctets

end Recalc
