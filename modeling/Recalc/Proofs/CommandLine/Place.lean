import Recalc.CommandLine.Run
import Recalc.Proofs.Sheet.Stored
import Recalc.Proofs.Storage.Faults
import Recalc.Proofs.Workspace.Logged

/-!
# The place of a sheet

A sheet file lies in the directory of its project, together with the settings, the directory of the
log and the file that a sheet is first written to. Logging and saving leave the settings alone, and
the place can be used again.
-/

namespace Recalc

open Disk

/-! ### Settings beside a sheet -/

lemma isEntry_settings : IsEntry Settings.fileName :=
  ⟨by decide, by decide, by decide, by decide⟩

/-- Settings depend on nothing but what is found at their place. -/
lemma Settings.load_congr {d d' : Disk} {directory : Path}
    (h : d'.find (directory.child fileName) = d.find (directory.child fileName)) :
    load d' directory = load d directory := by
  simp only [load, read, Disk.has, Disk.read, h]

namespace CommandLine

variable {l : Location} {file : String} {d d' : Disk} {names : List String}
  {stored : StoredSheet}

/-! ### The place of a sheet -/

/-- The last name in the path of a file, as the system keeps it. -/
def nameOf (file : String) : String :=
  (Path.ofText file).name.fileName

/-- The name of the file that a sheet is first written to. -/
def interimNameOf (file : String) : String :=
  nameOf file ++ ".tmp"

/-- The directory of the project of a file. -/
def projectOf (d : Disk) (file : String) : Path :=
  (d.resolve (.ofText file)).parent

/-- The file and the one that it is first written to are in the directory, which can be changed, the
latter is not there, and the log can be opened. The file is neither the settings nor the directory
of the log. -/
structure Usable (l : Location) (file : String) (d : Disk) : Prop where
  isOpen : d.IsOpen l
  locate_project : d.locate (projectOf d file) = .ok l
  logOpens : LogOpens l (projectOf d file) d
  name_not_mem : nameOf file ∉ ["", "..", Settings.fileName, EventLog.directoryName]
  locate_file : d.locate (.ofText file) = .ok (l ++ [nameOf file])
  locate_interim :
    d.locate (StoredSheet.interimPath (.ofText file)) = .ok (l ++ [interimNameOf file])
  free : d.node? (l ++ [interimNameOf file]) = none

lemma slash_nameOf (file : String) : '/' ∉ (nameOf file).toList :=
  CodePoints.slash_fileName (Path.slash_name file)

lemma slash_interimNameOf (file : String) : '/' ∉ (interimNameOf file).toList := by
  rw [interimNameOf, String.toList_append, List.mem_append, not_or]
  exact ⟨slash_nameOf file, by decide⟩

/-- No other file of a project has a name that ends like that of an interim file. -/
lemma interimNameOf_ne {name : String} (h : name.toList.getLast? ≠ some 'p') :
    interimNameOf file ≠ name := by
  rintro rfl
  rw [interimNameOf, String.toList_append] at h
  exact h (List.getLast?_append_of_ne_nil _ (by decide))

lemma interimNameOf_ne_nameOf : interimNameOf file ≠ nameOf file := by
  intro h
  have hlength := congrArg String.length h
  rw [interimNameOf, String.length_append] at hlength
  exact absurd hlength (Nat.ne_of_gt (Nat.lt_add_of_pos_right (by decide)))

/-- The last name in the path is one if it is kept as one. -/
lemma name_ofText_ne (hname : nameOf file ≠ "") (hup : nameOf file ≠ "..") :
    (Path.ofText file).name ≠ [] ∧ (Path.ofText file).name ≠ ".." :=
  ⟨fun heq => hname (congrArg CodePoints.fileName heq),
    fun heq => hup ((congrArg CodePoints.fileName heq).trans (by decide))⟩

lemma Usable.name_ne (h : Usable l file d) : nameOf file ≠ "" ∧ nameOf file ≠ ".." ∧
    nameOf file ≠ Settings.fileName ∧ nameOf file ≠ EventLog.directoryName := by
  have hname := h.name_not_mem
  simp only [List.mem_cons, List.not_mem_nil, or_false, not_or] at hname
  exact hname

/-- Commands may change these in the directory. -/
def changing (file : String) : List String :=
  [EventLog.directoryName, nameOf file, interimNameOf file]

lemma projectOf_eq (h : AlikeBeside l names d d') : projectOf d' file = projectOf d file := by
  rw [projectOf, projectOf, resolve, resolve, h.workingDirectory_eq]

/-- The place of a sheet stays usable. -/
lemma Usable.of_alikeBeside (h : Usable l file d) (hdisk : AlikeBeside l names d d')
    (hlog : d'.node? (l ++ [EventLog.directoryName]) = some .directory)
    (hfree : d'.node? (l ++ [interimNameOf file]) = none) : Usable l file d' := by
  have hproject : projectOf d' file = projectOf d file := projectOf_eq hdisk
  constructor
  · exact hdisk.isOpen h.isOpen
  · rw [hproject]
    exact hdisk.locate h.locate_project
  · rw [hproject]
    exact ⟨hdisk.directory l h.logOpens.isDirectory, hdisk.locate h.logOpens.locate, .inr hlog⟩
  · exact h.name_not_mem
  · exact hdisk.locate h.locate_file
  · exact hdisk.locate h.locate_interim
  · exact hfree

/-- No path leads in a circle that has another last name than the way up, in a directory where no
link is. -/
lemma isLoop_resolve (hproject : d.locate (projectOf d file) = .ok l)
    (hl : d.node? l = some .directory) (hup : nameOf file ≠ "..")
    (hname : nameOf file ≠ "") (hfile : d.node? (l ++ [nameOf file]) ≠ some .loop) :
    d.isLoop (d.resolve (.ofText file)) = false := by
  obtain ⟨hname', hup'⟩ := name_ofText_ne hname hup
  obtain ⟨init, hinit⟩ := List.getLast?_eq_some_iff.mp (Path.getLast?_parts hname')
  have hresolve : d.resolve (.ofText file) =
      ⟨(projectOf d file).absolute, (projectOf d file).parts ++ [(Path.ofText file).name]⟩ := by
    rw [projectOf, resolve, hinit, List.foldl_append, List.foldl_cons, List.foldl_nil,
      if_neg hup', Path.parent, List.dropLast_concat]
  have hfind : d.find (d.resolve (.ofText file)) ≠ .error .linkLoop := by
    rw [find, locate_concat hresolve hproject]
    split
    next fault hfault =>
      intro h
      cases h
      cases Path.isUnasked_of_fault? hfault
    split
    next =>
      intro h
      cases h
    cases hstep : d.step l (nameOf file) with
    | error fault =>
      intro h
      rw [← nameOf, hstep] at h
      cases h
      exact ne_linkLoop_of_step hl hstep rfl
    | ok m =>
      obtain rfl := (eq_of_step hstep).trans (if_neg hup)
      rw [← nameOf, hstep]
      simp only [Bind.bind, Except.bind]
      split
      next hloop => exact absurd hloop hfile
      next =>
        intro h
        cases h
      next =>
        intro h
        cases h
  rw [isLoop]
  split
  next h => exact absurd h hfind
  next => rfl

lemma Usable.load_settings (h : Usable l file d) (hdisk : AlikeBeside l (changing file) d d') :
    Settings.load d' (projectOf d' file) = Settings.load d (projectOf d file) := by
  rw [projectOf_eq hdisk]
  refine Settings.load_congr
    (hdisk.find_child isEntry_settings ?_ h.locate_project h.logOpens.isDirectory)
  simp only [changing, List.mem_cons, List.not_mem_nil, or_false, not_or]
  exact ⟨by decide, Ne.symm h.name_ne.2.2.1, Ne.symm (interimNameOf_ne (by decide))⟩

/-! ### Writing the sheet -/

/-- A sheet is not written where the interim file cannot be. -/
lemma exists_write_of_locate {path : CodePoints} {fault : DiskFault} (hfault : stored.fault? = none)
    (hlocate : d.locate (StoredSheet.interimPath (.ofText path)) = .error fault) :
    ∃ e, stored.write path d = (.error e, d) := by
  have hwrite : d.write (StoredSheet.interimPath (.ofText path)) stored.octets =
      .error ⟨fault, some (StoredSheet.interimPath (.ofText path)).text⟩ := by
    rw [Disk.write, openForWriting, hlocate]
    rfl
  have hremove : d.remove (StoredSheet.interimPath (.ofText path)) =
      .error ⟨fault, some (StoredSheet.interimPath (.ofText path)).text⟩ := by
    rw [Disk.remove, hlocate]
    rfl
  rw [StoredSheet.write, hfault]
  simp only [hwrite]
  split
  next => exact ⟨_, rfl⟩
  split
  next => exact ⟨_, rfl⟩
  next =>
    rw [StoredSheet.cleanUp, hremove]
    exact ⟨_, rfl⟩

/-- A stored sheet without a fault takes the place of what the file held before. -/
lemma Usable.exists_write (h : Usable l file d) (hfault : stored.fault? = none)
    (hfile : d.IsFree (l ++ [nameOf file])) :
    ∃ d', stored.write (Path.ofText file).text d = (.ok (), d') ∧
      AlikeBeside l [nameOf file, interimNameOf file] d d' ∧
      d'.node? (l ++ [nameOf file]) = some (.file stored.octets) ∧
      d'.node? (l ++ [interimNameOf file]) = none := by
  obtain ⟨hname, hup, -, -⟩ := h.name_ne
  obtain ⟨hname', hup'⟩ := name_ofText_ne hname hup
  have hinterim : d.IsFree (l ++ [interimNameOf file]) := .inl h.free
  have hwrite := StoredSheet.write_of_isOpen hfault hname' hup' h.isOpen h.locate_file
    h.locate_interim hfile hinterim (slash_nameOf file) interimNameOf_ne_nameOf
  have hplace : (d.drop (l ++ [interimNameOf file])).node? (l ++ [nameOf file]) ≠
      some .directory := node?_drop_ne_directory hfile.ne_directory
  have halike : AlikeBeside l [nameOf file, interimNameOf file] d
      (d.drop (l ++ [interimNameOf file])) := .drop (by simp) hinterim.ne_directory
  refine ⟨_, (StoredSheet.write_text _).trans hwrite, halike.trans (.put (by simp) hplace),
    node?_put_self (by simp), ?_⟩
  rw [node?_put_of_ne (by simp)
    (locationText_ne_of_ne (slash_interimNameOf file) interimNameOf_ne_nameOf)]
  exact node?_drop_self (by simp)

end CommandLine

end Recalc
