import Recalc.Proofs.CommandLine.Mirrors

/-!
# Sheets edited from the command line

Every command opens the file of a sheet, edits a cell and saves the sheet. After any number of them
the file holds what one sheet would save that was kept in memory and edited in the same way. A file
in the place of the log, or beside something else in that place, cannot be edited, and neither can
one whose name is so long that there is no room for the file that the sheet is first written to.
-/

namespace Recalc.CommandLine

open Disk

variable {l : Location} {file : String} {d₀ d d' : Disk} {s : Sheet} {settings : Datum.Entries}
  {naming : Naming} {names args order : List String} {name contents clock : String} {room : Nat}

/-! ### Arguments -/

lemma takeApart_cons_other {arg : String} (harg : arg.toList.head? ≠ some '-') (rest : List String)
    (switches : List Switch) (mixed : Bool) : takeApart switches mixed (arg :: rest) =
      if mixed then (takeApart switches mixed rest).map (.addOther arg)
      else .ok ⟨[], arg :: rest⟩ := by
  have hdashes : arg ≠ "--" := by
    rintro rfl
    exact harg rfl
  rw [takeApart, if_neg hdashes, if_neg fun h => harg h.1]

/-- Operands of an edit reach the command when none of them begins like a switch. -/
lemma read_set (hargs : ∀ arg ∈ [file, name, contents], arg.toList.head? ≠ some '-')
    (hfile : checkPath d "FILE" file .file false = .ok ()) :
    read d ["set", file, name, contents] = .run (.set file name contents none) := by
  obtain ⟨harg, hname, hcontents, -⟩ : _ ∧ _ ∧ _ ∧ _ := by
    simpa only [List.forall_mem_cons] using hargs
  have hform : forms.find? (·.name = "set") = some forms[5] := rfl
  have hoperands : checkOperands d forms[5].operands [file, name, contents] = .ok [] := by
    change (checkPath d "FILE" file .file false >>= fun _ => .ok []) = _
    rw [hfile]
    rfl
  have hcheck : Parts.check ⟨[], [file, name, contents]⟩ d forms[5].switches forms[5].operands =
      .ok () := by
    change (checkOperands d forms[5].operands [file, name, contents] >>= _) = _
    rw [hoperands]
    rfl
  have hparts : takeApart forms[5].allSwitches true [file, name, contents] =
      .ok ⟨[], [file, name, contents]⟩ := by
    rw [takeApart_cons_other harg, takeApart_cons_other hname, takeApart_cons_other hcontents]
    rfl
  rw [read, takeApart_cons_other (by decide)]
  simp only [List.isEmpty_cons, Bool.false_eq_true, if_false, hform]
  rw [Form.read, hparts]
  dsimp only
  rw [hcheck]
  rfl

/-- A path to a file, or to nothing, may be given for a file. -/
lemma checkPath_of_locate {k : Location} {shown : String}
    (hlocate : d.locate (.ofText file) = .ok k) (hk : d.IsFree k) :
    checkPath d shown file .file false = .ok () := by
  unfold checkPath findText
  by_cases hempty : file = ""
  · rw [if_pos hempty]
    rfl
  rw [if_neg hempty, find, hlocate]
  simp only [Bind.bind, Except.bind]
  obtain hnone | ⟨octets, hfile⟩ := hk
  · rw [hnone]
    rfl
  · have hreadable : d.isReadable (.ofText file) = true := by
      rw [isReadable, hlocate]
      simp only [hfile]
    simp only [hfile, pure, Except.pure]
    -- What the text ends with decides between no fault and one that does not count.
    generalize (_ && decide (DiskNode.file octets ≠ .directory)) = asksForDirectory
    cases asksForDirectory
    · simp [hreadable]
    · rfl

lemma Mirrors.read_set (h : Mirrors l file settings naming d s)
    (hargs : ∀ arg ∈ [file, name, contents], arg.toList.head? ≠ some '-') :
    read d ["set", file, name, contents] = .run (.set file name contents none) :=
  CommandLine.read_set hargs (checkPath_of_locate h.usable.locate_file h.isFree)

/-! ### Commands -/

/-- What a sheet is saved as does not depend on where it is saved. -/
lemma read_of_save {path : CodePoints} {saved : Sheet} (h : s.save path d = (.ok (), saved, d')) :
    d'.read (.ofText path) = .ok s.stored.octets := by
  obtain ⟨-, interim, hinterim, hmoved⟩ := StoredSheet.of_write (Sheet.exists_write_of_save h)
  exact read_move hmoved (read_write hinterim)

/-- The sheet in memory when the edit of a command is replayed on it, unless the command failed. -/
def replayed (s : Sheet) (name contents : String) (outcome : Outcome) : Sheet :=
  if outcome.exit = 0 then (s.setContents (.text name) (.text contents)).2 else s

/-- A command edits the file as the sheet in memory is edited. -/
structure Simulates (file name contents clock : String) (room : Nat) (s : Sheet) (d : Disk)
    (result : Outcome × Disk) : Prop where
  exit_iff : result.1.exit = 0 ↔
    (∃ order, (s.setContents (.text name) (.text contents)).1 = .ok order) ∧
      ∀ c, (s.setContents (.text name) (.text contents)).2.stored.Holds c →
        StoredSheet.IsStandardChar c.toNat
  /-- The cells are shown in order, with the values that they get in the sheet of the command. -/
  output : result.1.exit = 0 → ∃ p t w order value,
    openFile (.blank d clock room) file none = (.ok (p, t), w) ∧
      (s.setContents (.text name) (.text contents)).1 = .ok order ∧
      (∀ cell ∈ order, (t.setContents (.text name) (.text contents)).2.value (.text cell) =
        .ok (value cell)) ∧
      result.1.output = printed (order.map (cellLine value))
  octets : result.1.exit = 0 → result.2.read (.ofText file) =
    .ok (s.setContents (.text name) (.text contents)).2.stored.octets
  /-- Wherever the sheet in memory is saved. -/
  save : result.1.exit = 0 → ∀ path disk saved written,
    (s.setContents (.text name) (.text contents)).2.save path disk = (.ok (), saved, written) →
      written.read (.ofText path) = result.2.read (.ofText file)
  unchanged : result.1.exit ≠ 0 → result.2.find (.ofText file) = d.find (.ofText file)

/-- A command whose edit can be saved. -/
lemma Mirrors.run_done (h : Mirrors l file settings naming d s)
    (hnaming : Workspace.namingOf settings = .ok naming)
    (hread : read d args = .run (.set file name contents none))
    (horder : (s.setContents (.text name) (.text contents)).1 = .ok order)
    (hfault : (s.setContents (.text name) (.text contents)).2.stored.fault? = none) :
    Simulates file name contents clock room s d (run d clock room args) ∧
      Mirrors l file settings naming (run d clock room args).2
        (replayed s name contents (run d clock room args).1) := by
  obtain ⟨t, w, hopen, ht, hreach, hdisk, hlogs⟩ := h.exists_openFile hnaming clock room
  obtain ⟨value, w', hvalue, hset, hmirrors, hfile⟩ :=
    (h.logged hdisk hlogs.isDirectory).exists_setCell_done
      (Naming.idempotent_of_ofSettings hnaming) hlogs ht hreach horder hfault
  rw [run_eq hread hopen hset]
  have hexit : ((Report.done (order.map (cellLine value))).outcome w'.warningText).exit = 0 := rfl
  have hoctets := read_of_locate hmirrors.usable.locate_file hfile
  refine ⟨⟨?_, fun _ => ⟨_, t, w, order, value, hopen, horder, hvalue, rfl⟩, fun _ => hoctets, ?_,
    ?_⟩, ?_⟩
  · exact iff_of_true hexit ⟨⟨order, horder⟩, StoredSheet.fault?_eq_none_iff_holds.mp hfault⟩
  · intro _ path disk saved written hsave
    rw [read_of_save hsave, hoctets]
  · exact fun hne => absurd hexit hne
  · rw [replayed, if_pos hexit]
    exact hmirrors

/-- A command whose edit is refused, or cannot be saved. -/
lemma Mirrors.run_failed (h : Mirrors l file settings naming d s)
    (hnaming : Workspace.namingOf settings = .ok naming)
    (hread : read d args = .run (.set file name contents none))
    (hrefused : ∀ order, (s.setContents (.text name) (.text contents)).1 = .ok order →
      (s.setContents (.text name) (.text contents)).2.stored.fault? ≠ none) :
    Simulates file name contents clock room s d (run d clock room args) ∧
      Mirrors l file settings naming (run d clock room args).2
        (replayed s name contents (run d clock room args).1) := by
  obtain ⟨t, w, hopen, ht, -, hdisk, hlogs⟩ := h.exists_openFile hnaming clock room
  obtain ⟨told, f, w', hset, hdisk', hlogs'⟩ := exists_setCell_failed hlogs ht hrefused
  have hmirrors := h.logged (hdisk.trans hdisk') hlogs'.isDirectory
  rw [run_eq hread hopen hset]
  have hexit : ((Report.failed told f).outcome w'.warningText).exit ≠ 0 := by
    rw [exit_failed]
    exact Nat.one_ne_zero
  refine ⟨⟨?_, fun h0 => absurd h0 hexit, fun h0 => absurd h0 hexit, fun h0 => absurd h0 hexit,
    fun _ => ?_⟩, ?_⟩
  · refine iff_of_false hexit ?_
    rintro ⟨⟨order, horder⟩, hchars⟩
    exact hrefused order horder (StoredSheet.fault?_eq_none_iff_holds.mpr hchars)
  · rw [find, find, hmirrors.usable.locate_file, h.usable.locate_file]
    simp only [Bind.bind, Except.bind, h.node?_logged (hdisk.trans hdisk')]
  · rw [replayed, if_neg hexit]
    exact hmirrors

/-- One command. -/
lemma Mirrors.run (h : Mirrors l file settings naming d s)
    (hnaming : Workspace.namingOf settings = .ok naming)
    (hread : read d args = .run (.set file name contents none)) :
    Simulates file name contents clock room s d (run d clock room args) ∧
      Mirrors l file settings naming (run d clock room args).2
        (replayed s name contents (run d clock room args).1) := by
  by_cases hdone : ∃ order, (s.setContents (.text name) (.text contents)).1 = .ok order ∧
      (s.setContents (.text name) (.text contents)).2.stored.fault? = none
  · obtain ⟨order, horder, hfault⟩ := hdone
    exact h.run_done hnaming hread horder hfault
  · exact h.run_failed hnaming hread fun order horder hfault => hdone ⟨order, horder, hfault⟩

/-- A disk after commands on a file, each of which got to its edit, and the sheet in memory. -/
inductive Session (file : String) (d₀ : Disk) (s₀ : Sheet) : Disk → Sheet → Prop where
  | start : Session file d₀ s₀ d₀ s₀
  | command {d : Disk} {s : Sheet} {clock name contents : String} {room : Nat}
      {args : List String} (h : Session file d₀ s₀ d s)
      (hread : read d args = .run (.set file name contents none)) :
      Session file d₀ s₀ (CommandLine.run d clock room args).2
        (replayed s name contents (CommandLine.run d clock room args).1)

lemma Session.mirrors {s₀ : Sheet} (hsession : Session file d₀ s₀ d s)
    (hnaming : Workspace.namingOf settings = .ok naming)
    (h : Mirrors l file settings naming d₀ s₀) : Mirrors l file settings naming d s := by
  induction hsession with
  | start => exact h
  | command _ hread ih => exact (ih.run hnaming hread).2

/-- Before anything is saved, the sheet in memory is empty. -/
lemma Mirrors.empty (husable : Usable l file d) (habsent : d.node? (l ++ [nameOf file]) = none)
    (hsettings : Settings.load d (projectOf d file) = .ok settings) :
    Mirrors l file settings naming d (.empty naming (Settings.text settings "version")) :=
  ⟨husable, hsettings, .empty _ _, rfl, rfl, .inl ⟨habsent, rfl⟩⟩

/-- However many commands there were, the next one simulates an edit of the sheet in memory on which
the edits of those that did not fail were replayed. -/
theorem Session.simulates (husable : Usable l file d₀)
    (habsent : d₀.node? (l ++ [nameOf file]) = none)
    (hsettings : Settings.load d₀ (projectOf d₀ file) = .ok settings)
    (hnaming : Workspace.namingOf settings = .ok naming)
    (hsession : Session file d₀ (.empty naming (Settings.text settings "version")) d s)
    (hread : read d args = .run (.set file name contents none)) :
    Simulates file name contents clock room s d (run d clock room args) := by
  have hstart : Mirrors l file settings naming d₀
      (.empty naming (Settings.text settings "version")) := .empty husable habsent hsettings
  exact ((hsession.mirrors hnaming hstart).run hnaming hread).1

/-- The sheet in memory after an edit of a blank one. -/
def linked : Sheet :=
  ((Sheet.empty .free "default").setContents (.text "a") (.text "=b")).2

lemma order_linked :
    ((Sheet.empty .free "default").setContents (.text "a") (.text "=b")).1 = .ok ["a"] := by
  cbv

lemma fault?_linked : linked.stored.fault? = none := by
  cbv

theorem simulates_second_command : ∃ d,
    Session "s.sprd" (.blank "home") (.empty .free "default") d linked ∧
      Simulates "s.sprd" "b" "x" "" 0 linked d (run d "" 0 ["set", "s.sprd", "b", "x"]) := by
  have husable : Usable ["home"] "s.sprd" (.blank "home") :=
    ⟨isOpen_blank "home", by cbv, ⟨by cbv, by cbv, .inl ⟨by cbv, rfl⟩⟩, by decide, by cbv, by cbv,
      by cbv⟩
  have habsent : (Disk.blank "home").node? (["home"] ++ [nameOf "s.sprd"]) = none := by cbv
  have hsettings : Settings.load (.blank "home") (projectOf (.blank "home") "s.sprd") =
      .ok Settings.defaults := by cbv
  have hnaming : Workspace.namingOf Settings.defaults = .ok .free := by cbv
  have hempty : Mirrors ["home"] "s.sprd" Settings.defaults .free (.blank "home")
      (.empty .free (Settings.text Settings.defaults "version")) :=
    Mirrors.empty husable habsent hsettings
  have hread : read (.blank "home") ["set", "s.sprd", "a", "=b"] =
      .run (.set "s.sprd" "a" "=b" none) := hempty.read_set (by decide)
  -- The first command succeeds.
  have hfirst : Simulates "s.sprd" "a" "=b" "" 0 (.empty .free "default") (.blank "home")
      (run (.blank "home") "" 0 ["set", "s.sprd", "a", "=b"]) :=
    Session.simulates husable habsent hsettings hnaming .start hread
  have hexit := hfirst.exit_iff.mpr
    ⟨⟨_, order_linked⟩, StoredSheet.fault?_eq_none_iff_holds.mp fault?_linked⟩
  have hsession : Session "s.sprd" (.blank "home") (.empty .free "default")
      (run (.blank "home") "" 0 ["set", "s.sprd", "a", "=b"]).2 linked := by
    have hreplayed : replayed (.empty .free "default") "a" "=b"
        (run (.blank "home") "" 0 ["set", "s.sprd", "a", "=b"]).1 = linked := if_pos hexit
    rw [← hreplayed]
    exact Session.start.command hread
  have hread' : read (run (.blank "home") "" 0 ["set", "s.sprd", "a", "=b"]).2
      ["set", "s.sprd", "b", "x"] = .run (.set "s.sprd" "b" "x" none) :=
    (hsession.mirrors hnaming hempty).read_set (by decide)
  exact ⟨_, hsession, Session.simulates husable habsent hsettings hnaming hsession hread'⟩

/-! ### Files that cannot be saved -/

/-- An edit reaches the command, and nothing is where the sheet goes, yet it is not edited. -/
structure Obstructed (file : String) (d : Disk) : Prop where
  name_not_mem : nameOf file ∉ ["", "..", Settings.fileName]
  locate_project : d.locate (projectOf d file) = .ok ["home"]
  isOpen : d.IsOpen ["home"]
  locate_file : d.locate (.ofText file) = .ok ["home", nameOf file]
  absent : d.node? ["home", nameOf file] = none
  free : d.node? ["home", interimNameOf file] = none
  load_settings : Settings.load d (projectOf d file) = .ok Settings.defaults
  read_eq : read d ["set", file, "a", "=b"] = .run (.set file "a" "=b" none)
  not_simulates : ¬Simulates file "a" "=b" "" 0 (.empty .free "default") d
    (run d "" 0 ["set", file, "a", "=b"])

/-- An edit that succeeds in memory and fails as a command. -/
lemma not_simulates_of_exit {result : Outcome × Disk} (hexit : result.1.exit ≠ 0) :
    ¬Simulates file "a" "=b" "" 0 (.empty .free "default") d result := fun h =>
  hexit (h.exit_iff.mpr ⟨⟨_, order_linked⟩, StoredSheet.fault?_eq_none_iff_holds.mp fault?_linked⟩)

/-- The sheet would lie where its log goes. -/
lemma obstructed_log : Obstructed "logs" (.blank "home") := by
  refine ⟨by decide, by cbv, isOpen_blank "home", by cbv, by cbv, by cbv, by cbv, ?_, ?_⟩
  · exact read_set (by decide) (by cbv)
  · exact not_simulates_of_exit (by decide +kernel)

/-- There is a file where the log of the sheet goes. -/
lemma obstructed_beside_file :
    Obstructed "s.sprd" ((Disk.blank "home").put ["home", "logs"] (.file [])) := by
  refine ⟨by decide, by cbv, ⟨by cbv, rfl, fun _ => rfl⟩, by cbv, by cbv, by cbv, by cbv, ?_, ?_⟩
  · exact read_set (by decide) (by cbv)
  · exact not_simulates_of_exit (by decide +kernel)

/-- A name that is not too long itself, but is with the end of the names of interim files. -/
structure IsLong (name : String) : Prop where
  isPart : Path.IsPart name
  not_mem : name ∉ ["..", Settings.fileName, EventLog.directoryName]
  ascii : ∀ c ∈ name.toList, c ≠ '\x00' ∧ c.toNat < 0x80
  head : name.toList.head? ≠ some '-'
  le : name.length ≤ nameLimit
  lt : nameLimit < (name ++ ".tmp").length

lemma IsLong.ne (h : IsLong name) :
    name ≠ ".." ∧ name ≠ Settings.fileName ∧ name ≠ EventLog.directoryName := by
  simpa using h.not_mem

lemma IsLong.fileName_eq (h : IsLong name) : (CodePoints.ofString name).fileName = name :=
  CodePoints.fileName_ofString fun c hc => (h.ascii c hc).2

lemma IsLong.nameOf_eq (h : IsLong name) : nameOf name = name := by
  rw [nameOf, h.isPart.ofText_eq]
  exact h.fileName_eq

lemma IsLong.slash (h : IsLong name) : '/' ∉ name.toList :=
  mt CodePoints.mem_ofString_iff.mpr h.isPart.slash

lemma IsLong.ne_empty (h : IsLong name) : name ≠ "" := by
  rintro rfl
  exact h.isPart.ne_nil rfl

lemma IsLong.projectOf_eq (h : IsLong name) :
    projectOf (.blank "home") name = ⟨true, ["home"]⟩ := by
  have hhome : CodePoints.ofFileName "home" = CodePoints.ofString "home" := by decide
  rw [projectOf, h.isPart.ofText_eq]
  simp [resolve, blank, Path.parent, hhome, h.ne.1]

/-- The file can be found, and the interim file cannot. -/
lemma IsLong.locate (h : IsLong name) (hdisk : AlikeBeside l names (.blank "home") d) :
    d.locate (.ofText name) = .ok ["home", name] ∧
      d.locate (StoredSheet.interimPath (.ofText name)) = .error .nameTooLong := by
  have hwd : d.workingDirectory = ["home"] := hdisk.workingDirectory_eq
  have hdir : d.node? d.workingDirectory = some .directory := by
    rw [hwd]
    exact hdisk.directory _ (by cbv)
  have hsearch : d.refusal? .search d.workingDirectory = none := by rw [hdisk.refusal?_eq]; rfl
  have hascii : ∀ c ∈ (name ++ ".tmp").toList, c ≠ '\x00' ∧ c.toNat < 0x80 := by
    rw [String.toList_append, List.forall_mem_append]
    exact ⟨h.ascii, by simp⟩
  have hlocate {name : String} (hascii : ∀ c ∈ name.toList, c ≠ '\x00' ∧ c.toNat < 0x80)
      (hup : name ≠ "..") (hle : name.length ≤ pathLimit) :
      d.locate ⟨false, [CodePoints.ofString name]⟩ =
        if name.length > nameLimit then .error .nameTooLong else .ok ["home", name] := by
    have hkept := CodePoints.fileName_ofString fun c hc => (hascii c hc).2
    have hfault : Path.fault? ⟨false, [CodePoints.ofString name]⟩ = none := by
      rw [Path.fault?_eq_none_iff, Path.text_singleton, CodePoints.mem_ofString_iff]
      exact ⟨fun _ => CodePoints.isNameable_of_mem_ofString, fun hnul => (hascii _ hnul).1 rfl⟩
    rw [locate_name hdir hsearch (by rwa [hkept]) hfault (by rwa [hkept]), hkept, hwd]
    rfl
  have hinterim : StoredSheet.interimPath (.ofText name) =
      ⟨false, [CodePoints.ofString (name ++ ".tmp")]⟩ := by
    rw [h.isPart.ofText_eq, CodePoints.ofString_append]
    rfl
  have hsize : (name ++ ".tmp").length = name.length + 4 := String.length_append _ _
  have hle : name.length ≤ 255 := h.le
  have hlt := h.lt
  have hup : name ++ ".tmp" ≠ ".." := by
    intro heq
    rw [heq] at hlt
    exact absurd hlt (by decide)
  rw [hinterim, h.isPart.ofText_eq, hlocate h.ascii h.ne.1 (by unfold pathLimit; omega),
    hlocate hascii hup (by unfold pathLimit; omega), if_neg (Nat.not_lt.mpr h.le), if_pos hlt]
  exact ⟨rfl, rfl⟩

lemma IsLong.load_settings (h : IsLong name) :
    Settings.load (.blank "home") (projectOf (.blank "home") name) = .ok Settings.defaults := by
  rw [h.projectOf_eq]
  cbv

/-- An empty sheet is opened. -/
lemma IsLong.exists_openFile (h : IsLong name) (clock : String) (room : Nat) : ∃ w,
    openFile (.blank (.blank "home") clock room) name none =
      (.ok (.ofText name, .empty .free "default"), w) ∧
      AlikeBeside ["home"] [EventLog.directoryName] (.blank "home") w.disk ∧ w.LogsIn ["home"] := by
  have hlogOpens : LogOpens ["home"] (projectOf (.blank "home") name) (.blank "home") := by
    rw [h.projectOf_eq]
    exact ⟨by cbv, by cbv, .inl ⟨by cbv, rfl⟩⟩
  obtain ⟨w, hlogTo, hdisk, hlogs⟩ :=
    Workspace.exists_logTo (w := .blank (.blank "home") clock room) hlogOpens
  have hnode : w.disk.node? ["home", name] = none :=
    (hdisk.node?_eq name h.slash (by simpa using h.ne.2.2)).trans node?_blank_child
  have hhas : w.disk.has (.ofText name) = .ok false := by
    rw [has_eq (h.locate hdisk).1 (.inl hnode), hnode]
    rfl
  have hnaming : Workspace.namingOf Settings.defaults = .ok .free := by cbv
  have hversion : Settings.text Settings.defaults "version" = "default" := by cbv
  have hopen : w.openSheet (.ofText name) Settings.defaults =
      (.ok (.empty .free "default"), w) := by
    simp only [Workspace.openSheet, hnaming, hhas, hversion]
  have hname : nameOf name ≠ ".." ∧ nameOf name ≠ "" := by
    rw [h.nameOf_eq]
    exact ⟨h.ne.1, h.ne_empty⟩
  have hproject : (Disk.blank "home").locate (projectOf (.blank "home") name) = .ok ["home"] := by
    rw [h.projectOf_eq]
    cbv
  have hloop := isLoop_resolve hproject (by cbv) hname.1 hname.2 (by
    rw [List.singleton_append, node?_blank_child]
    simp)
  exact ⟨w, openFile_eq hloop h.load_settings hlogTo hopen, hdisk, hlogs⟩

lemma IsLong.read_eq (h : IsLong name) :
    read (.blank "home") ["set", name, "a", "=b"] = .run (.set name "a" "=b" none) := by
  have hargs : ∀ arg ∈ [name, "a", "=b"], arg.toList.head? ≠ some '-' := by
    simp only [List.forall_mem_cons]
    exact ⟨h.head, by decide, by decide, nofun⟩
  exact read_set hargs (checkPath_of_locate (h.locate (.refl [] [] _)).1 (.inl node?_blank_child))

/-- There is no room for the file that the sheet is first written to. -/
lemma IsLong.exit_ne_zero (h : IsLong name) (clock : String) (room : Nat) :
    (run (.blank "home") clock room ["set", name, "a", "=b"]).1.exit ≠ 0 := by
  obtain ⟨w, hopen, hdisk, hlogs⟩ := h.exists_openFile clock room
  have hlinked : (Sheet.empty .free "default").setContents (.text "a") (.text "=b") =
      (.ok ["a"], linked) := Prod.ext order_linked rfl
  have hsave (event? : Option Event) :
      ∃ e, linked.save (Path.ofText name).text (w.emitAll event?).disk =
        (.error e, linked, (w.emitAll event?).disk) := by
    have hlocate := (h.locate (hdisk.trans (hlogs.emitAll event?).1)).2
    rw [← Path.ofText_text] at hlocate
    obtain ⟨e, hwrite⟩ := exists_write_of_locate fault?_linked hlocate
    rw [Sheet.save, hwrite]
    exact ⟨_, rfl⟩
  obtain ⟨told, f, event?, event?', hset⟩ := exists_setCell_of_save_error hlinked hsave
  rw [run_eq h.read_eq hopen hset, exit_failed]
  exact Nat.one_ne_zero

lemma IsLong.obstructed (h : IsLong name) : Obstructed name (.blank "home") := by
  constructor
  · rw [h.nameOf_eq]
    simpa using ⟨h.ne_empty, h.ne.1, h.ne.2.1⟩
  · rw [h.projectOf_eq]
    cbv
  · exact isOpen_blank "home"
  · rw [h.nameOf_eq]
    exact (h.locate (.refl [] [] _)).1
  · exact node?_blank_child
  · exact node?_blank_child
  · exact h.load_settings
  · exact h.read_eq
  · exact not_simulates_of_exit (h.exit_ne_zero "" 0)

lemma isLong_replicate {n : Nat} (hlt : 251 < n) (hle : n ≤ 255) :
    IsLong (String.ofList (List.replicate n 'a')) := by
  have hchars : (String.ofList (List.replicate n 'a')).toList = List.replicate n 'a' :=
    String.toList_ofList
  have hmem {c : Char} (h : c ∈ (String.ofList (List.replicate n 'a')).toList) : c = 'a' := by
    rw [hchars] at h
    exact List.eq_of_mem_replicate h
  have hne {name : String} (hlength : name.length < 251) :
      String.ofList (List.replicate n 'a') ≠ name := by
    rintro rfl
    rw [String.length_ofList, List.length_replicate] at hlength
    omega
  have hsize : (String.ofList (List.replicate n 'a')).length = n := by
    rw [String.length_ofList, List.length_replicate]
  have hpart {name : String} (hlength : name.length < 251) :
      CodePoints.ofString (String.ofList (List.replicate n 'a')) ≠ CodePoints.ofString name :=
    fun heq => hne hlength (CodePoints.ofString_injective heq)
  have hslash := mt CodePoints.mem_ofString_iff.mp fun h => absurd (hmem h) (by decide : '/' ≠ 'a')
  refine ⟨⟨hslash, hpart (by decide : "".length < 251), hpart (by decide : ".".length < 251)⟩,
    ?_, ?_, ?_, ?_, ?_⟩
  · simp only [List.mem_cons, List.not_mem_nil, or_false, not_or]
    exact ⟨hne (by decide), hne (by decide), hne (by decide)⟩
  · intro c hc
    rw [hmem hc]
    decide
  · exact fun h => absurd (hmem (List.mem_of_mem_head? h)) (by decide)
  · rw [hsize]
    exact hle
  · rw [String.length_append, hsize]
    exact Nat.add_lt_add_right hlt 4

/-- A sheet cannot be edited in the place of its log, beside a file in that place, or under a name
to which nothing can be added. -/
theorem obstructed_places :
    Workspace.namingOf Settings.defaults = .ok .free ∧
      Settings.text Settings.defaults "version" = "default" ∧
      Obstructed "logs" (.blank "home") ∧
      Obstructed "s.sprd" ((Disk.blank "home").put ["home", "logs"] (.file [])) ∧
      Obstructed (String.ofList (List.replicate 253 'a')) (.blank "home") :=
  ⟨by cbv, by cbv, obstructed_log, obstructed_beside_file,
    (isLong_replicate (by decide) (by decide)).obstructed⟩

end Recalc.CommandLine
