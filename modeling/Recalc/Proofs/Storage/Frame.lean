import Recalc.Proofs.Storage.Disk
import Recalc.Proofs.Storage.FileName
import Recalc.Proofs.Storage.Path

/-!
# What changes beside a file

What lies directly in a directory is told apart by its names. Operations on a file, or on anything
below a directory beside it, leave the rest as it is, and the paths lead where they led before.
-/

namespace Recalc.Disk

variable {d d' d'' : Disk} {l k m rest : List String} {p q : Path} {n : DiskNode}
  {names names' : List String} {name x : String} {octets : Octets}

/-! ### Locations -/

/-- Below a directory, the texts of locations begin alike. -/
lemma exists_locationText (l : Location) : ∃ before : String, ∀ x rest,
    locationText (l ++ x :: rest) = before ++ "/".intercalate (x :: rest) := by
  cases l with
  | nil => exact ⟨"/", fun x rest => rfl⟩
  | cons first l =>
    refine ⟨"/" ++ "/".intercalate (first :: l) ++ "/", fun x rest => ?_⟩
    rw [locationText, String.intercalate_append_of_ne_nil (List.cons_ne_nil _ _)
      (List.cons_ne_nil _ _)]
    simp only [String.append_assoc]

/-- What is found in or below a directory under different names is not the same. -/
lemma locationText_ne_of_ne (hname : '/' ∉ name.toList) (hne : name ≠ x) :
    locationText (l ++ x :: rest) ≠ locationText (l ++ [name]) := by
  obtain ⟨before, hbefore⟩ := exists_locationText l
  intro heq
  rw [hbefore, hbefore, String.intercalate_singleton, String.append_right_inj] at heq
  cases rest with
  | nil =>
    rw [String.intercalate_singleton] at heq
    exact hne heq.symm
  | cons second rest =>
    rw [String.intercalate_cons_cons] at heq
    apply hname
    rw [← heq]
    simp

lemma node?_put_of_ne (hk : k ≠ []) (h : locationText l ≠ locationText k) :
    (d.put l n).node? k = d.node? k := by
  rw [node?_of_ne_nil hk, node?_of_ne_nil hk, put, Std.ExtTreeMap.getElem?_insert,
    if_neg (by simpa using h)]

lemma node?_drop_of_ne (hk : k ≠ []) (h : locationText l ≠ locationText k) :
    (d.drop l).node? k = d.node? k := by
  rw [node?_of_ne_nil hk, node?_of_ne_nil hk, drop, Std.ExtTreeMap.getElem?_erase,
    if_neg (by simpa using h)]

lemma node?_drop_self (hk : k ≠ []) : (d.drop k).node? k = none := by
  rw [node?_of_ne_nil hk, drop, Std.ExtTreeMap.getElem?_erase_self]

/-- There is nothing in the working directory of a blank disk. -/
lemma node?_blank_child {home : String} : (blank home).node? [home, name] = none := by
  have hne : locationText [home] ≠ locationText [home, name] := by
    intro heq
    have hlength := congrArg String.length heq
    have hslash : "/".length = 1 := rfl
    simp [locationText, String.length_append] at hlength
    omega
  rw [node?_of_ne_nil (by simp), blank]
  simp [Std.ExtTreeMap.ofList_singleton, hne]

/-! ### Disks that are alike beside some names -/

/-- No directory is gone, and what lies directly in the one at `l` is the same but for what has one
of the names. -/
structure AlikeBeside (l : Location) (names : List String) (d d' : Disk) : Prop where
  workingDirectory_eq : d'.workingDirectory = d.workingDirectory
  refusal?_eq : d'.refusal? = d.refusal?
  directory : ∀ k, d.node? k = some .directory → d'.node? k = some .directory
  node?_eq : ∀ name, '/' ∉ name.toList → name ∉ names →
    d'.node? (l ++ [name]) = d.node? (l ++ [name])

namespace AlikeBeside

lemma refl (l : Location) (names : List String) (d : Disk) : AlikeBeside l names d d :=
  ⟨rfl, rfl, fun _ h => h, fun _ _ _ => rfl⟩

lemma trans (h : AlikeBeside l names d d') (h' : AlikeBeside l names d' d'') :
    AlikeBeside l names d d'' where
  workingDirectory_eq := h'.workingDirectory_eq.trans h.workingDirectory_eq
  refusal?_eq := h'.refusal?_eq.trans h.refusal?_eq
  directory k hk := h'.directory k (h.directory k hk)
  node?_eq name hslash hname := (h'.node?_eq name hslash hname).trans (h.node?_eq name hslash hname)

lemma mono (h : AlikeBeside l names d d') (hsub : names ⊆ names') : AlikeBeside l names' d d' :=
  ⟨h.workingDirectory_eq, h.refusal?_eq, h.directory,
    fun name hslash hname => h.node?_eq name hslash fun hmem => hname (hsub hmem)⟩

lemma put (hx : x ∈ names) (hfree : d.node? (l ++ x :: rest) ≠ some .directory) :
    AlikeBeside l names d (d.put (l ++ x :: rest) n) := by
  refine ⟨rfl, rfl, fun k hk => node?_put_of_directory hfree hk, fun name hslash hname => ?_⟩
  exact node?_put_of_ne (by simp) (locationText_ne_of_ne hslash fun heq => hname (heq ▸ hx))

lemma drop (hx : x ∈ names) (hfree : d.node? (l ++ x :: rest) ≠ some .directory) :
    AlikeBeside l names d (d.drop (l ++ x :: rest)) := by
  refine ⟨rfl, rfl, fun k hk => node?_drop_of_directory hfree hk, fun name hslash hname => ?_⟩
  exact node?_drop_of_ne (by simp) (locationText_ne_of_ne hslash fun heq => hname (heq ▸ hx))

lemma locate (h : AlikeBeside l names d d') (hp : d.locate p = .ok k) : d'.locate p = .ok k :=
  locate_of_directories h.directory h.refusal?_eq h.workingDirectory_eq hp

end AlikeBeside

/-! ### Names in a directory -/

/-- A name that leads from a directory to what lies directly in it, and is kept as it is. -/
structure IsEntry (name : String) : Prop where
  ofText_eq : Path.ofText name = ⟨false, [CodePoints.ofString name]⟩
  fileName_eq : (CodePoints.ofString name).fileName = name
  slash : '/' ∉ name.toList
  ne_up : name ≠ ".."

lemma locate_concat {part : CodePoints} (hp : p = ⟨q.absolute, q.parts ++ [part]⟩)
    (hq : d.locate q = .ok l) :
    d.locate p =
      match p.fault? with
      | some fault => .error fault
      | none =>
        if p.text.fileName.length > pathLimit then .error .nameTooLong
        else d.step l part.fileName := by
  obtain ⟨-, -, hfold⟩ := locate_eq_ok_iff.mp hq
  have hlast : p.fileNames.foldlM d.step (if p.absolute then [] else d.workingDirectory) =
      d.step l part.fileName := by
    subst hp
    rw [Path.fileNames, List.map_append, List.foldlM_append, ← Path.fileNames, hfold]
    change (d.step l part.fileName >>= pure) = d.step l part.fileName
    exact bind_pure _
  cases hfault : p.fault? with
  | none => simp only [locate, hfault, hlast]
  | some fault => simp only [locate, hfault]

lemma child_eq (hname : IsEntry name) :
    q.child name = ⟨q.absolute, q.parts ++ [CodePoints.ofString name]⟩ := by
  rw [Path.child, hname.ofText_eq]
  rfl

lemma locate_child_eq (hname : IsEntry name) (hq : d.locate q = .ok l) :
    d.locate (q.child name) =
      match (q.child name).fault? with
      | some fault => .error fault
      | none =>
        if (q.child name).text.fileName.length > pathLimit then .error .nameTooLong
        else d.step l name := by
  rw [locate_concat (child_eq hname) hq, hname.fileName_eq]

lemma eq_of_step (h : d.step k name = .ok l) :
    l = if name = ".." then k.dropLast else k ++ [name] := by
  obtain ⟨hk, hsearch⟩ := isDirectory_of_step h
  rw [step_of_directory hk hsearch] at h
  split at h
  next hup =>
    cases h
    rw [if_pos hup]
  next hup =>
    split at h
    next => cases h
    next =>
      cases h
      rw [if_neg hup]

lemma ne_linkLoop_of_step {fault : DiskFault} (hk : d.node? k = some .directory)
    (h : d.step k name = .error fault) : fault ≠ .linkLoop := by
  rintro rfl
  cases hsearch : d.refusal? .search k with
  | some r =>
    rw [step, hk, hsearch] at h
    cases h
  | none =>
    rw [step_of_directory hk hsearch] at h
    split_ifs at h
    all_goals cases h

/-- In a directory, a name leads to what has that name. -/
lemma eq_of_locate_child (hname : IsEntry name) (hq : d.locate q = .ok l)
    (h : d.locate (q.child name) = .ok m) : m = l ++ [name] := by
  rw [locate_child_eq hname hq] at h
  split at h
  next => cases h
  split at h
  next => cases h
  next => rw [eq_of_step h, if_neg hname.ne_up]

/-- What is found under a name is the same when the disks are alike beside other names. -/
lemma AlikeBeside.find_child (h : AlikeBeside l names d d') (hname : IsEntry name)
    (hother : name ∉ names) (hq : d.locate q = .ok l) (hl : d.node? l = some .directory) :
    d'.find (q.child name) = d.find (q.child name) := by
  have hlocate : d'.locate (q.child name) = d.locate (q.child name) := by
    rw [locate_child_eq hname hq, locate_child_eq hname (h.locate hq), step, step, hl,
      h.directory l hl, h.refusal?_eq]
  rw [find, find, hlocate]
  cases hm : d.locate (q.child name) with
  | error fault => rfl
  | ok m =>
    obtain rfl := eq_of_locate_child hname hq hm
    simp only [Bind.bind, Except.bind, h.node?_eq name hname.slash hother]

/-- Where a name alone leads. -/
lemma locate_name {part : CodePoints} (hdir : d.node? d.workingDirectory = some .directory)
    (hsearch : d.refusal? .search d.workingDirectory = none) (hup : part.fileName ≠ "..")
    (hfault : Path.fault? ⟨false, [part]⟩ = none) (hle : part.fileName.length ≤ pathLimit) :
    d.locate ⟨false, [part]⟩ =
      if part.fileName.length > nameLimit then .error .nameTooLong
      else .ok (d.workingDirectory ++ [part.fileName]) := by
  rw [Disk.locate, hfault, Path.text_singleton]
  simp only [if_neg (Nat.not_lt.mpr hle)]
  change d.step d.workingDirectory part.fileName >>= pure = _
  rw [bind_pure, step_of_directory hdir hsearch]
  exact if_neg hup

/-! ### Operations in a directory -/

/-- There is a file or nothing at the location. -/
def IsFree (d : Disk) (l : Location) : Prop :=
  d.node? l = none ∨ ∃ octets, d.node? l = some (.file octets)

lemma IsFree.ne_directory (h : d.IsFree l) : d.node? l ≠ some .directory := by
  obtain h | ⟨octets, h⟩ := h <;> simp [h]

lemma IsFree.ne_loop (h : d.IsFree l) : d.node? l ≠ some .loop := by
  obtain h | ⟨octets, h⟩ := h <;> simp [h]

/-- Something can be added to the directory at the location, and be removed from it again. -/
structure IsOpen (d : Disk) (l : Location) : Prop where
  isDirectory : d.node? l = some .directory
  add : d.refusal? .add l = none
  remove : ∀ name, d.refusal? .remove (l ++ [name]) = none

lemma IsOpen.canAdd (h : d.IsOpen l) : d.canAdd (l ++ [name]) = .ok () := by
  rw [canAdd_eq_ok_iff, List.dropLast_concat]
  exact ⟨h.isDirectory, h.add⟩

lemma isOpen_blank (home : String) : (blank home).IsOpen [home] := by
  refine ⟨?_, rfl, fun _ => rfl⟩
  rw [node?_of_ne_nil (by simp), blank]
  simp [Std.ExtTreeMap.ofList_singleton]

lemma AlikeBeside.isOpen (h : AlikeBeside l names d d') (hl : d.IsOpen l) : d'.IsOpen l := by
  refine ⟨h.directory l hl.isDirectory, ?_, ?_⟩
  · rw [h.refusal?_eq]
    exact hl.add
  · rw [h.refusal?_eq]
    exact hl.remove

lemma openForWriting_eq (hp : d.locate p = .ok (l ++ [name])) (hl : d.IsOpen l)
    (hfree : d.IsFree (l ++ [name])) :
    ∃ before, d.openForWriting p = .ok (l ++ [name], before) := by
  obtain hnone | ⟨octets, hfile⟩ := hfree
  · exact ⟨[], openForWriting_eq_ok_iff.mpr ⟨hp, .inr ⟨hnone, rfl, hl.canAdd⟩⟩⟩
  · exact ⟨octets, openForWriting_eq_ok_iff.mpr ⟨hp, .inl hfile⟩⟩

lemma write_eq (hp : d.locate p = .ok (l ++ [name])) (hl : d.IsOpen l)
    (hfree : d.IsFree (l ++ [name])) :
    d.write p octets = .ok (d.put (l ++ [name]) (.file octets)) := by
  obtain ⟨before, hopen⟩ := openForWriting_eq hp hl hfree
  rw [write, hopen]
  rfl

lemma move_eq (hlast : q.parts.getLast? ≠ some "..") (hp : d.locate p = .ok (l ++ [x]))
    (hk : d.node? (l ++ [x]) = some (.file octets)) (hq : d.locate q = .ok (l ++ [name]))
    (hl : d.IsOpen l) (hfree : d.IsFree (l ++ [name])) :
    d.move p q = .ok ((d.drop (l ++ [x])).put (l ++ [name]) (.file octets)) := by
  have hpermit (name : String) : d.permit .remove (l ++ [name]) = .ok () := by
    rw [permit, hl.remove]
  have hchange : d.changeable (l ++ [x]) = .ok () := by
    rw [changeable, hl.remove]
    rfl
  have hput : d.canPut (l ++ [name]) = .ok () := by
    obtain hnone | ⟨octets, hfile⟩ := hfree
    · rw [canPut, hnone]
      exact hl.canAdd
    · rw [canPut, hfile]
      simp only [hpermit]
      rfl
  rw [move, if_neg hlast, hp, hq]
  simp only [Bind.bind, Except.bind, hchange, hk, hpermit, hput]
  rfl

/-- What an append changes lies where the path leads. -/
lemma AlikeBeside.append (h : d.append p octets = .ok d') (hp : d.locate p = .ok (l ++ x :: rest))
    (hx : x ∈ names) : AlikeBeside l names d d' := by
  obtain ⟨⟨k, before⟩, hopen, hput⟩ := exists_of_bind (exists_of_about h)
  cases hput
  obtain ⟨hk, hfree⟩ := openForWriting_ok hopen
  rw [hp, Except.ok.injEq] at hk
  subst hk
  exact .put hx hfree

end Recalc.Disk
