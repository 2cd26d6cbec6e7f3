import Recalc.Proofs.Storage.Frame
import Recalc.Sheet.File

/-!
# What changes elsewhere

A file that is written, moved or removed leaves every directory, and every other file keeps what it
holds. So the paths lead where they led before, and a file that could be opened for writing still
can. To save a sheet changes nothing but its file and the one that it is first written to.
-/

namespace Recalc

namespace Disk

variable {d d' d'' : Disk} {k l : Location} {p q : Path} {octets before : Octets} {n : DiskNode}
  {name name' : String} {part : CodePoints}

/-! ### Last names -/

lemma exists_toList_locationText (l : Location) (name : String) :
    ∃ cs, (locationText (l ++ [name])).toList = cs ++ '/' :: name.toList := by
  cases l with
  | nil => exact ⟨[], String.toList_append⟩
  | cons first l =>
    refine ⟨("/" ++ "/".intercalate (first :: l)).toList, ?_⟩
    rw [locationText, String.intercalate_append_of_ne_nil (List.cons_ne_nil _ _)
      (List.cons_ne_nil _ _), String.intercalate_singleton]
    simp only [String.toList_append, List.append_assoc]
    rfl

/-- Where the last names differ, so do the texts of locations. -/
lemma locationText_ne_of_last (hname : '/' ∉ name.toList) (hname' : '/' ∉ name'.toList)
    (hne : name ≠ name') : locationText (k ++ [name]) ≠ locationText (l ++ [name']) := by
  have hlast (l : Location) {name : String} (h : '/' ∉ name.toList) :
      (locationText (l ++ [name])).toList.reverse.takeWhile (· ≠ '/') = name.toList.reverse := by
    obtain ⟨cs, hcs⟩ := exists_toList_locationText l name
    have hall : ∀ c ∈ name.toList.reverse, decide (c ≠ '/') = true := fun c hc =>
      decide_eq_true fun heq => h (heq ▸ List.mem_reverse.mp hc)
    rw [hcs, List.reverse_append, List.reverse_cons, List.append_assoc,
      List.takeWhile_append_of_pos hall]
    simp
  intro heq
  have hreverse := hlast l hname'
  rw [← heq, hlast k hname, List.reverse_inj, String.toList_inj] at hreverse
  exact hne hreverse

/-- The last step to a location. -/
lemma exists_step_of_locate (hlast : p.parts.getLast? = some part) (h : d.locate p = .ok l) :
    ∃ k, p.parent.fileNames.foldlM d.step (if p.absolute then [] else d.workingDirectory) = .ok k ∧
      d.step k part.fileName = .ok l := by
  obtain ⟨init, hparts⟩ := List.getLast?_eq_some_iff.mp hlast
  obtain ⟨-, -, h⟩ := locate_eq_ok_iff.mp h
  have hnames : p.fileNames = p.parent.fileNames ++ [part.fileName] := by
    rw [Path.fileNames, Path.fileNames, Path.parent, hparts, List.dropLast_concat, List.map_append]
    rfl
  rw [hnames, List.foldlM_append] at h
  obtain ⟨k, hk, hrest⟩ := exists_of_bind h
  obtain ⟨l', hstep, hl⟩ := exists_of_bind hrest
  cases hl
  exact ⟨k, hk, hstep⟩

/-- The last name of a path is the last one of its location. -/
lemma exists_eq_of_locate (hlast : p.parts.getLast? = some part) (hne : part.fileName ≠ "..")
    (h : d.locate p = .ok l) : ∃ k, l = k ++ [part.fileName] := by
  obtain ⟨k, -, hstep⟩ := exists_step_of_locate hlast h
  exact ⟨k, by rw [eq_of_step hstep, if_neg hne]⟩

/-! ### Disks with the same directories -/

/-- The same directories are there. -/
structure SameDirectories (d d' : Disk) : Prop where
  workingDirectory_eq : d'.workingDirectory = d.workingDirectory
  refusal?_eq : d'.refusal? = d.refusal?
  directory_iff : ∀ k, d'.node? k = some .directory ↔ d.node? k = some .directory

namespace SameDirectories

lemma refl (d : Disk) : SameDirectories d d :=
  ⟨rfl, rfl, fun _ => Iff.rfl⟩

lemma trans (h : SameDirectories d d') (h' : SameDirectories d' d'') : SameDirectories d d'' :=
  ⟨h'.workingDirectory_eq.trans h.workingDirectory_eq, h'.refusal?_eq.trans h.refusal?_eq,
    fun k => (h'.directory_iff k).trans (h.directory_iff k)⟩

lemma put (hn : n ≠ .directory) (hfree : d.node? k ≠ some .directory) :
    SameDirectories d (d.put k n) := by
  refine ⟨rfl, rfl, fun m => ⟨fun hm => ?_, node?_put_of_directory hfree⟩⟩
  by_cases hne : m = []
  · rw [hne]
    rfl
  · rw [node?_of_ne_nil hne] at hm ⊢
    rw [Disk.put, Std.ExtTreeMap.getElem?_insert] at hm
    split at hm
    next => exact absurd (Option.some.inj hm) hn
    next => exact hm

lemma drop (hfree : d.node? k ≠ some .directory) : SameDirectories d (d.drop k) := by
  refine ⟨rfl, rfl, fun m => ⟨fun hm => ?_, node?_drop_of_directory hfree⟩⟩
  by_contra hnot
  exact node?_drop_ne_directory hnot hm

lemma append (h : d.append p octets = .ok d') : SameDirectories d d' := by
  obtain ⟨⟨k, before⟩, hopen, hput⟩ := exists_of_bind (exists_of_about h)
  cases hput
  exact .put nofun (openForWriting_ok hopen).2

/-- Paths lead to the same locations. -/
lemma locate_iff (h : SameDirectories d d') : d'.locate p = .ok k ↔ d.locate p = .ok k :=
  ⟨locate_of_directories (fun k => (h.directory_iff k).mp) h.refusal?_eq.symm
      h.workingDirectory_eq.symm,
    locate_of_directories (fun k => (h.directory_iff k).mpr) h.refusal?_eq h.workingDirectory_eq⟩

end SameDirectories

/-! ### Disks that are alike at a location -/

/-- The same directories are there, and the same is found at the location. -/
structure AlikeAt (l : Location) (d d' : Disk) : Prop extends SameDirectories d d' where
  node?_eq : d'.node? l = d.node? l

/-- The path does not lead to the location. -/
def LeadsElsewhere (d : Disk) (p : Path) (l : Location) : Prop :=
  ∀ k, d.locate p = .ok k → locationText k ≠ locationText l

lemma SameDirectories.leadsElsewhere (h : SameDirectories d d') (hp : d.LeadsElsewhere p l) :
    d'.LeadsElsewhere p l :=
  fun k hk => hp k (h.locate_iff.mp hk)

namespace AlikeAt

lemma refl (l : Location) (d : Disk) : AlikeAt l d d :=
  ⟨.refl d, rfl⟩

lemma trans (h : AlikeAt l d d') (h' : AlikeAt l d' d'') : AlikeAt l d d'' :=
  ⟨h.toSameDirectories.trans h'.toSameDirectories, h'.node?_eq.trans h.node?_eq⟩

lemma put (hn : n ≠ .directory) (hfree : d.node? k ≠ some .directory)
    (hne : locationText k ≠ locationText l) : AlikeAt l d (d.put k n) := by
  refine ⟨.put hn hfree, ?_⟩
  by_cases hl : l = []
  · rw [hl]
    rfl
  · exact node?_put_of_ne hl hne

lemma drop (hfree : d.node? k ≠ some .directory) (hne : locationText k ≠ locationText l) :
    AlikeAt l d (d.drop k) := by
  refine ⟨.drop hfree, ?_⟩
  by_cases hl : l = []
  · rw [hl]
    rfl
  · exact node?_drop_of_ne hl hne

/-- A file that can be opened for writing is opened as before. -/
lemma openForWriting_eq (h : AlikeAt l d d') (hopen : d.openForWriting p = .ok (l, before)) :
    d'.openForWriting p = .ok (l, before) := by
  rw [openForWriting_eq_ok_iff, canAdd_eq_ok_iff] at hopen ⊢
  rw [h.locate_iff, h.node?_eq, h.directory_iff, h.refusal?_eq]
  exact hopen

/-! ### Operations elsewhere -/

lemma append (hp : d.LeadsElsewhere p l) (h : d.append p octets = .ok d') : AlikeAt l d d' := by
  obtain ⟨⟨k, before⟩, hopen, hput⟩ := exists_of_bind (exists_of_about h)
  cases hput
  obtain ⟨hk, hfree⟩ := openForWriting_ok hopen
  exact .put nofun hfree (hp k hk)

lemma write (hp : d.LeadsElsewhere p l) (h : d.write p octets = .ok d') : AlikeAt l d d' := by
  obtain ⟨k, before, hopen, rfl⟩ := exists_put_of_write h
  obtain ⟨hk, hfree⟩ := openForWriting_ok hopen
  exact .put nofun hfree (hp k hk)

lemma remove (hp : d.LeadsElsewhere p l) (h : d.remove p = .ok d') : AlikeAt l d d' := by
  obtain ⟨k, hk, hfree, rfl⟩ := exists_of_remove h
  exact .drop hfree (hp k hk)

lemma move (hp : d.LeadsElsewhere p l) (hq : d.LeadsElsewhere q l) (h : d.move p q = .ok d') :
    AlikeAt l d d' := by
  obtain ⟨k, target, n, hk, hn, hfile, htarget, hfree, rfl⟩ := exists_of_move h
  exact (drop (by simpa [hn] using hfile) (hp k hk)).trans
    (.put hfile (node?_drop_ne_directory hfree) (hq target htarget))

end AlikeAt

end Disk

/-! ### Saving elsewhere -/

open Disk

namespace StoredSheet

variable {s : StoredSheet} {d : Disk} {l k : Location} {p : Path} {path : CodePoints}
  {name : String} {fault : DiskFault}

/-- The name of an interim file as the system keeps it. -/
lemma fileName_interim (part : CodePoints) :
    CodePoints.fileName (part ++ ".tmp") = part.fileName ++ ".tmp" := by
  have hend : CodePoints.fileName ".tmp" = ".tmp" := by decide
  rw [CodePoints.fileName_append, hend]

/-- No file whose name ends otherwise is taken for an interim file. -/
lemma leadsElsewhere_interimPath (hslash : '/' ∉ name.toList)
    (hname : name.toList.getLast? ≠ some 'p') :
    d.LeadsElsewhere (interimPath (.ofText path)) (k ++ [name]) := by
  intro l hl
  have hlast : (interimPath (.ofText path)).parts.getLast? =
      some ((Path.ofText path).name ++ ".tmp") := List.getLast?_concat
  have hend : ((Path.ofText path).name.fileName ++ ".tmp").toList.getLast? = some 'p' := by
    rw [String.toList_append]
    exact List.getLast?_append_of_ne_nil _ (by decide)
  have hup : (Path.ofText path).name.fileName ++ ".tmp" ≠ ".." := by
    intro heq
    rw [heq] at hend
    exact absurd hend (by decide)
  obtain ⟨m, rfl⟩ := exists_eq_of_locate hlast (by rwa [fileName_interim]) hl
  rw [fileName_interim]
  refine locationText_ne_of_last ?_ hslash ?_
  · rw [String.toList_append, List.mem_append, not_or]
    exact ⟨CodePoints.slash_fileName (Path.slash_name path), by decide⟩
  · rintro rfl
    exact hname hend

lemma alikeAt_cleanUp (hinterim : d.LeadsElsewhere (interimPath p) l) :
    AlikeAt l d (cleanUp d p fault).2 := by
  unfold cleanUp
  split
  next hremove => exact .remove hinterim hremove
  next => exact .refl l d

lemma alikeAt_write (hpath : d.LeadsElsewhere (.ofText path) l)
    (hinterim : (Path.ofText path).name ≠ [] → d.LeadsElsewhere (interimPath (.ofText path)) l) :
    AlikeAt l d (s.write path d).2 := by
  simp only [write]
  split
  next => exact .refl l d
  split
  next => exact .refl l d
  next hname =>
    split
    next =>
      split
      next => exact .refl l d
      next => exact alikeAt_cleanUp (hinterim hname)
    next written hwrite =>
      have hwritten : AlikeAt l d written := .write (hinterim hname) hwrite
      have hinterim' := hwritten.leadsElsewhere (hinterim hname)
      split
      next hmove => exact hwritten.trans (.move hinterim' (hwritten.leadsElsewhere hpath) hmove)
      next => exact hwritten.trans (alikeAt_cleanUp hinterim')

end StoredSheet

lemma Sheet.disk_save (s : Sheet) (path : CodePoints) (d : Disk) :
    (s.save path d).2.2 = (s.stored.write path d).2 := by
  unfold save
  split
  next h => rw [h]
  next h => rw [h]

end Recalc
