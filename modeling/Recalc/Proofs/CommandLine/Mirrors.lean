import Recalc.Proofs.CommandLine.Place
import Recalc.Proofs.Sheet.Extent
import Recalc.Proofs.Sheet.RoundTrip
import Recalc.Proofs.Sheet.Saved

/-!
# Files that mirror sheets

A file mirrors a sheet in memory when it holds what that sheet would save. What is opened from such
a file is saved like the sheet in memory, so that after an edit which can be saved the file mirrors
the sheet that was edited in the same way. An edit that is refused or cannot be saved leaves the
file as it was.
-/

namespace Recalc

open Disk

/-! ### Names of recalculated cells -/

namespace Sheet

variable {t t' : Sheet} {name contents : Datum} {order : List String} {k : String}

/-- The cells that an edit recalculates can be asked for. -/
lemma Reachable.checkName_of_mem_order (ht : t.Reachable) (hnaming : t.naming.Idempotent)
    (h : t.setContents name contents = (.ok order, t')) (hk : k ∈ order) :
    t'.checkName (.text k) = .ok k := by
  have hreach' := ht.setContents name contents
  obtain ⟨text, n, c, -, hn, -, htouches⟩ := ht.consistent.touches (congrArg Prod.fst h)
  rw [h] at hreach' htouches
  have hnormal : ∃ given, t'.naming.canonical? given = some k := by
    obtain ⟨rest, rfl, hrest⟩ := htouches.exists_rest
    rcases List.mem_cons.mp hk with rfl | hk
    · obtain ⟨given, -, hgiven⟩ := exists_canonical_of_checkName hn
      rw [htouches.naming_eq]
      exact ⟨given, hgiven⟩
    · -- A cell that references another one is stored.
      obtain ⟨u, href, -⟩ := Relation.TransGen.head'_iff.mp ((hrest k).mp hk)
      obtain ⟨cell, hcell, -⟩ := Cells.references_iff.mp href
      refine hreach'.entered.name k ?_
      rw [Std.ExtTreeMap.mem_iff_isSome_getElem?, hcell, Option.isSome_some]
  rw [← htouches.naming_eq] at hnaming
  obtain ⟨given, hgiven⟩ := hnormal
  simp only [checkName, Datum.text?, hnaming.canonical?_self hgiven]

end Sheet

namespace CommandLine

variable {l : Location} {file : String} {d d' : Disk} {s t : Sheet} {settings : Datum.Entries}
  {naming : Naming} {w : Workspace} {name contents : String} {order : List String}

/-! ### Files and sheets in memory -/

/-- The file holds what the sheet in memory would save. It is not there as long as that is the empty
sheet of the settings. -/
structure Mirrors (l : Location) (file : String) (settings : Datum.Entries) (naming : Naming)
    (d : Disk) (s : Sheet) : Prop where
  usable : Usable l file d
  load_settings : Settings.load d (projectOf d file) = .ok settings
  reachable : s.Reachable
  naming_eq : s.naming = naming
  version_eq : s.version = Settings.text settings "version"
  held : (d.node? (l ++ [nameOf file]) = none ∧
      s = .empty naming (Settings.text settings "version")) ∨
    (d.node? (l ++ [nameOf file]) = some (.file s.stored.octets) ∧ s.stored.fault? = none)

lemma Mirrors.isFree (h : Mirrors l file settings naming d s) : d.IsFree (l ++ [nameOf file]) :=
  h.held.imp And.left fun hfile => ⟨_, hfile.1⟩

/-- Logging changes nothing that the sheet depends on. -/
lemma Mirrors.node?_logged (h : Mirrors l file settings naming d s)
    (hdisk : AlikeBeside l [EventLog.directoryName] d d') :
    d'.node? (l ++ [nameOf file]) = d.node? (l ++ [nameOf file]) := by
  obtain ⟨-, -, -, hlog⟩ := h.usable.name_ne
  exact hdisk.node?_eq _ (slash_nameOf file) (by simpa using hlog)

lemma Mirrors.logged (h : Mirrors l file settings naming d s)
    (hdisk : AlikeBeside l [EventLog.directoryName] d d')
    (hlog : d'.node? (l ++ [EventLog.directoryName]) = some .directory) :
    Mirrors l file settings naming d' s := by
  have hsub : AlikeBeside l (changing file) d d' := hdisk.mono (by simp [changing])
  have hinterim : d'.node? (l ++ [interimNameOf file]) = none := by
    have hne : interimNameOf file ≠ EventLog.directoryName := interimNameOf_ne (by decide)
    rw [hdisk.node?_eq _ (slash_interimNameOf file) (by simpa using hne)]
    exact h.usable.free
  constructor
  · exact h.usable.of_alikeBeside hdisk hlog hinterim
  · rw [h.usable.load_settings hsub]
    exact h.load_settings
  · exact h.reachable
  · exact h.naming_eq
  · exact h.version_eq
  · rw [h.node?_logged hdisk]
    exact h.held

/-- A saved edit is one of the sheet in memory. -/
lemma Mirrors.saved {edit edit' : Datum} (h : Mirrors l file settings naming d s)
    (hdisk : AlikeBeside l [nameOf file, interimNameOf file] d d')
    (hfile : d'.node? (l ++ [nameOf file]) =
      some (.file (s.setContents edit edit').2.stored.octets))
    (hfree : d'.node? (l ++ [interimNameOf file]) = none)
    (hfault : (s.setContents edit edit').2.stored.fault? = none)
    (hlog : d.node? (l ++ [EventLog.directoryName]) = some .directory) :
    Mirrors l file settings naming d' (s.setContents edit edit').2 := by
  have hsub : AlikeBeside l (changing file) d d' := hdisk.mono (by simp [changing])
  constructor
  · exact h.usable.of_alikeBeside hdisk (hdisk.directory _ hlog) hfree
  · rw [h.usable.load_settings hsub]
    exact h.load_settings
  · exact h.reachable.setContents edit edit'
  · rw [Sheet.naming_setContents]
    exact h.naming_eq
  · rw [Sheet.version_setContents]
    exact h.version_eq
  · exact .inr ⟨hfile, hfault⟩

/-! ### Opening -/

lemma has_eq {p : Path} {k : Location} (hp : d.locate p = .ok k) (hfree : d.IsFree k) :
    d.has p = .ok (d.node? k).isSome := by
  rw [Disk.has, Disk.find, hp]
  obtain hnone | ⟨octets, hfile⟩ := hfree
  · simp only [Bind.bind, Except.bind, hnone]
    rfl
  · simp only [Bind.bind, Except.bind, hfile]
    rfl

/-- The sheet in the file, when there is one, is saved like the sheet in memory. -/
lemma Mirrors.exists_load (h : Mirrors l file settings naming d s)
    (hnaming : Workspace.namingOf settings = .ok naming)
    (hfile : d.node? (l ++ [nameOf file]) = some (.file s.stored.octets))
    (hfault : s.stored.fault? = none) :
    ∃ t, Sheet.load d (Path.ofText file).text naming (Settings.text settings "version") = .ok t ∧
      s.SavedAlike t ∧ t.Reachable := by
  have hidempotent : s.naming.Idempotent := by
    rw [h.naming_eq]
    exact Naming.idempotent_of_ofSettings hnaming
  have hoctets : d.read (.ofText (Path.ofText file).text) = .ok s.stored.octets := by
    rw [Path.ofText_text]
    exact read_of_locate h.usable.locate_file hfile
  have hread := StoredSheet.read_of_octets hfault hoctets h.reachable.entered.strip_stored
  obtain ⟨t, hload, ht⟩ := h.reachable.exists_loaded_of_read hidempotent hread
  rw [h.naming_eq, h.version_eq] at hload
  exact ⟨t, hload, ht.savedAlike h.reachable.consistent, .load hload⟩

lemma openFile_eq {w₀ w' : Workspace}
    (hloop : w₀.disk.isLoop (w₀.disk.resolve (.ofText file)) = false)
    (hload : Settings.load w₀.disk (projectOf w₀.disk file) = .ok settings)
    (hlogTo : w₀.logTo (projectOf w₀.disk file) = (.ok (), w))
    (hopen : w.openSheet (.ofText file) settings = (.ok t, w')) :
    openFile w₀ file none = (.ok (.ofText file, t), w') := by
  have hproject : projectFor w₀.disk (.ofText file) none = .ok (projectOf w₀.disk file) := by
    rw [projectFor, Option.filter_none]
    simp only [hloop, Bool.false_eq_true, if_false]
    rfl
  unfold openFile
  dsimp only
  rw [hproject]
  dsimp only
  rw [hload]
  dsimp only
  rw [hlogTo]
  dsimp only
  rw [hopen]
  rfl

lemma Mirrors.isLoop_resolve (h : Mirrors l file settings naming d s) :
    d.isLoop (d.resolve (.ofText file)) = false := by
  obtain ⟨hname, hup, -, -⟩ := h.usable.name_ne
  exact CommandLine.isLoop_resolve h.usable.locate_project h.usable.isOpen.isDirectory hup hname
    h.isFree.ne_loop

/-- What is opened is saved like the sheet in memory. -/
lemma Mirrors.exists_openFile (h : Mirrors l file settings naming d s)
    (hnaming : Workspace.namingOf settings = .ok naming) (clock : String) (room : Nat) :
    ∃ t w, openFile (.blank d clock room) file none = (.ok (.ofText file, t), w) ∧ s.SavedAlike t ∧
      t.Reachable ∧ AlikeBeside l [EventLog.directoryName] d w.disk ∧ w.LogsIn l := by
  obtain ⟨w, hlogTo, hdisk, hlogs⟩ :=
    Workspace.exists_logTo (w := .blank d clock room) h.usable.logOpens
  have hmirrors : Mirrors l file settings naming w.disk s := h.logged hdisk hlogs.isDirectory
  have hhas := has_eq hmirrors.usable.locate_file hmirrors.isFree
  have hloop := h.isLoop_resolve
  rcases hmirrors.held with ⟨hnone, hempty⟩ | ⟨hfile, hfault⟩
  · have hopen : w.openSheet (.ofText file) settings = (.ok s, w) := by
      rw [hnone] at hhas
      simp only [Workspace.openSheet, hnaming, hhas, Option.isSome_none, hempty]
    exact ⟨s, w, openFile_eq hloop h.load_settings hlogTo hopen, .refl h.reachable.consistent,
      h.reachable, hdisk, hlogs⟩
  · obtain ⟨t, hload, ht, hreach⟩ := hmirrors.exists_load hnaming hfile hfault
    obtain ⟨event?, hopen⟩ : ∃ event?, w.openSheet (.ofText file) settings =
        (.ok t, w.emitAll event?) := by
      rw [hfile] at hhas
      simp only [Workspace.openSheet, hnaming, hhas, Option.isSome_some, Workspace.load, hload]
      exact ⟨_, rfl⟩
    obtain ⟨hemit, hlogs'⟩ := hlogs.emitAll event?
    exact ⟨t, _, openFile_eq hloop h.load_settings hlogTo hopen, ht, hreach, hdisk.trans hemit,
      hlogs'⟩

/-! ### Editing and saving -/

lemma exit_failed {told : List FailureKind} {f : Failure} {warnings : String} :
    ((Report.failed told f).outcome warnings).exit = 1 := by
  unfold Report.failed Report.outcome
  dsimp only
  by_cases hkind : f.kind ∈ told
  · rw [if_pos hkind]
  · rw [if_neg hkind]

lemma Report.ofEach_eq {α : Type} {line : α → Except Failure String} {f : α → String}
    {as : List α} (h : ∀ a ∈ as, line a = .ok (f a)) : ofEach line as = done (as.map f) := by
  induction as with
  | nil => rfl
  | cons a as ih =>
    obtain ⟨ha, has⟩ := List.forall_mem_cons.mp h
    rw [ofEach, ha]
    simp only [ih has]
    rfl

/-- The line of a cell. -/
def cellLine (value : String → Value) (cell : String) : String :=
  cell ++ " = " ++ (value cell).display

/-- The command with the outcome of its edit. -/
lemma run_eq {clock : String} {room : Nat} {args : List String} {report : Report} {w' : Workspace}
    (hread : read d args = .run (.set file name contents none))
    (hopen : openFile (.blank d clock room) file none = (.ok (.ofText file, t), w))
    (hset : setCell name contents (.ofText file) t w = (report, w')) :
    run d clock room args = (report.outcome w'.warningText, w'.disk) := by
  unfold run
  rw [hread]
  dsimp only
  unfold Command.run withSheet
  dsimp only
  rw [hopen]
  dsimp only
  rw [hset]

/-- A sheet that cannot be saved is told like an edit that is refused. -/
lemma exists_setCell_of_save_error {t' : Sheet}
    (hset : t.setContents (.text name) (.text contents) = (.ok order, t'))
    (hsave : ∀ event?, ∃ e, t'.save (Path.ofText file).text (w.emitAll event?).disk =
      (.error e, t', (w.emitAll event?).disk)) :
    ∃ told f event? event?', setCell name contents (.ofText file) t w =
      (.failed told f, (w.emitAll event?).emitAll event?') := by
  obtain ⟨event?, hedit⟩ := Workspace.exists_setContents_ok (w := w) hset
  obtain ⟨e, hsave⟩ := hsave event?
  obtain ⟨event?', hsaved⟩ := Workspace.exists_save hsave
  refine ⟨[.sheet, .formula], .sheet e, event?, event?', ?_⟩
  rw [setCell, hedit]
  dsimp only
  rw [hsaved]

/-- An edit that is refused, or cannot be saved, changes nothing but the log. -/
lemma exists_setCell_failed (hlogs : w.LogsIn l) (ht : s.SavedAlike t)
    (hrefused : ∀ order, (s.setContents (.text name) (.text contents)).1 = .ok order →
      (s.setContents (.text name) (.text contents)).2.stored.fault? ≠ none) :
    ∃ told f w', setCell name contents (.ofText file) t w = (.failed told f, w') ∧
      AlikeBeside l [EventLog.directoryName] w.disk w'.disk ∧ w'.LogsIn l := by
  obtain ⟨hanswer, hsaved⟩ := ht.setContents (.text name) (.text contents)
  cases hset : t.setContents (.text name) (.text contents) with | mk outcome t' =>
  rw [hset] at hanswer hsaved
  cases outcome with
  | error e =>
    obtain ⟨event?, hedit⟩ := Workspace.exists_setContents_error (w := w) hset
    have hcell : setCell name contents (.ofText file) t w =
        (.failed [.sheet, .formula] (.edit e), w.emitAll event?) := by
      rw [setCell, hedit]
    exact ⟨_, _, _, hcell, hlogs.emitAll event?⟩
  | ok order =>
    have hunstorable : t'.stored.fault? ≠ none := by
      rw [hsaved.stored_eq]
      exact hrefused order hanswer
    obtain ⟨fault, hfault⟩ := Option.ne_none_iff_exists'.mp hunstorable
    have hsave (event? : Option Event) :
        ∃ e, t'.save (Path.ofText file).text (w.emitAll event?).disk =
          (.error e, t', (w.emitAll event?).disk) := by
      rw [Sheet.save, StoredSheet.write, hfault]
      exact ⟨_, rfl⟩
    obtain ⟨told, f, event?, event?', hcell⟩ := exists_setCell_of_save_error hset hsave
    obtain ⟨hdisk, hlogs'⟩ := hlogs.emitAll event?
    obtain ⟨hdisk', hlogs''⟩ := hlogs'.emitAll event?'
    exact ⟨told, f, _, hcell, hdisk.trans hdisk', hlogs''⟩

/-- Once a sheet is saved, all recalculated cells are shown. -/
lemma exists_setCell_of_save {t' : Sheet} {w₁ w₂ : Workspace} (hreach : t.Reachable)
    (hnaming : t.naming.Idempotent)
    (hset : t.setContents (.text name) (.text contents) = (.ok order, t'))
    (hedit : w.setContents t (.text name) (.text contents) = (.ok (t', order), w₁))
    (hsave : w₁.save t' (Path.ofText file).text = (.ok (), { t' with changed := false }, w₂)) :
    ∃ value, (∀ cell ∈ order, t'.value (.text cell) = .ok (value cell)) ∧
      setCell name contents (.ofText file) t w = (.done (order.map (cellLine value)), w₂) := by
  have hvalue : ∀ cell ∈ order, t'.value (.text cell) =
      .ok ((t'.cells[cell]?.map Cell.value).getD (.text "")) := by
    intro cell hcell
    rw [Sheet.value, hreach.checkName_of_mem_order hnaming hset hcell]
    rfl
  refine ⟨_, hvalue, ?_⟩
  rw [setCell, hedit]
  dsimp only
  rw [hsave]
  dsimp only
  congr 1
  refine Report.ofEach_eq fun cell hcell => ?_
  have hmarked : Sheet.value { t' with changed := false } (.text cell) =
      .ok ((t'.cells[cell]?.map Cell.value).getD (.text "")) := hvalue cell hcell
  rw [hmarked]
  rfl

/-- An edit that can be saved is saved, and all recalculated cells are shown. -/
lemma Mirrors.exists_setCell_done (h : Mirrors l file settings naming w.disk s)
    (hnaming : naming.Idempotent) (hlogs : w.LogsIn l) (ht : s.SavedAlike t) (hreach : t.Reachable)
    (hdone : (s.setContents (.text name) (.text contents)).1 = .ok order)
    (hfault : (s.setContents (.text name) (.text contents)).2.stored.fault? = none) :
    ∃ value w', (∀ cell ∈ order, (t.setContents (.text name) (.text contents)).2.value
        (.text cell) = .ok (value cell)) ∧
      setCell name contents (.ofText file) t w = (.done (order.map (cellLine value)), w') ∧
      Mirrors l file settings naming w'.disk (s.setContents (.text name) (.text contents)).2 ∧
      w'.disk.node? (l ++ [nameOf file]) =
        some (.file (s.setContents (.text name) (.text contents)).2.stored.octets) := by
  obtain ⟨hanswer, hsaved⟩ := ht.setContents (.text name) (.text contents)
  cases hset : t.setContents (.text name) (.text contents) with | mk outcome t' =>
  rw [hset] at hanswer hsaved
  dsimp only at hanswer hsaved
  rw [hdone] at hanswer
  subst hanswer
  -- The edit is logged, then the sheet is written, and that is logged, too.
  obtain ⟨event?, hedit⟩ := Workspace.exists_setContents_ok (w := w) hset
  obtain ⟨hdisk, hlogs'⟩ := hlogs.emitAll event?
  have hmirrors := h.logged hdisk hlogs'.isDirectory
  obtain ⟨written, hwrite, halike, hfile, hfree⟩ :=
    hmirrors.usable.exists_write hfault hmirrors.isFree
  have hwritten := hmirrors.saved halike hfile hfree hfault hlogs'.isDirectory
  have hsave : t'.save (Path.ofText file).text (w.emitAll event?).disk =
      (.ok (), { t' with changed := false }, written) := by
    rw [Sheet.save, hsaved.stored_eq, hwrite]
  obtain ⟨event?', hsave'⟩ := Workspace.exists_save hsave
  have hlogs₂ : Workspace.LogsIn l { w.emitAll event? with disk := written } :=
    hlogs'.of_alikeBeside rfl halike
  obtain ⟨hdisk', hlogs''⟩ := hlogs₂.emitAll event?'
  have hidempotent : t.naming.Idempotent := by
    rw [ht.naming_eq, h.naming_eq]
    exact hnaming
  obtain ⟨value, hvalue, hcell⟩ := exists_setCell_of_save hreach hidempotent hset hedit hsave'
  refine ⟨value, _, hvalue, hcell, hwritten.logged hdisk' hlogs''.isDirectory, ?_⟩
  rw [hwritten.node?_logged hdisk']
  exact hfile

end CommandLine

end Recalc
