import Mathlib
import Recalc.Storage.Disk

/-!
# Files read back

What is written to a file is read from it, and what is moved is read from its new place. Neither
operation touches a directory, so the path leads to the same location before and after.
-/

namespace Recalc.Disk

variable {d d' : Disk} {p q : Path} {k l : Location} {octets before : Octets} {n : DiskNode}

/-! ### Following paths -/

lemma exists_of_bind {ε α β : Type} {x : Except ε α} {f : α → Except ε β} {b : β}
    (h : x >>= f = .ok b) : ∃ a, x = .ok a ∧ f a = .ok b := by
  cases x with
  | error e => cases h
  | ok a => exact ⟨a, rfl, h⟩

/-- One step of a path goes through a directory. -/
lemma isDirectory_of_step {name : String} (h : d.step k name = .ok l) :
    d.node? k = some .directory ∧ d.refusal? .search k = none := by
  unfold step at h
  split at h
  next hk hsearch => exact ⟨hk, hsearch⟩
  all_goals cases h

lemma step_of_directory {name : String} (hk : d.node? k = some .directory)
    (hsearch : d.refusal? .search k = none) : d.step k name =
      if name = ".." then .ok k.dropLast
      else if name.length > nameLimit then .error .nameTooLong
      else .ok (k ++ [name]) := by
  rw [step, hk, hsearch]

lemma step_of_directories {name : String}
    (hdir : ∀ k, d.node? k = some .directory → d'.node? k = some .directory)
    (hrefusal : d'.refusal? = d.refusal?) (h : d.step k name = .ok l) :
    d'.step k name = .ok l := by
  obtain ⟨hk, hsearch⟩ := isDirectory_of_step h
  rw [step_of_directory hk hsearch] at h
  rw [step_of_directory (hdir k hk) (hrefusal ▸ hsearch)]
  exact h

/-- A path leads to a location if the system has such a path and its names can be followed. -/
lemma locate_eq_ok_iff : d.locate p = .ok l ↔
    p.fault? = none ∧ p.text.fileName.length ≤ pathLimit ∧
      p.fileNames.foldlM d.step (if p.absolute then [] else d.workingDirectory) = .ok l := by
  unfold locate
  cases p.fault? with
  | some fault => simp
  | none =>
    simp only [true_and]
    split
    next hlong => simp [Nat.not_le.mpr hlong]
    next hshort => simp [Nat.not_lt.mp hshort]

/-- A path leads to the same location as long as there are the same directories. -/
lemma locate_of_directories
    (hdir : ∀ k, d.node? k = some .directory → d'.node? k = some .directory)
    (hrefusal : d'.refusal? = d.refusal?) (hwork : d'.workingDirectory = d.workingDirectory)
    (h : d.locate p = .ok l) :
    d'.locate p = .ok l := by
  have hfold (names : List String) (k : Location) (h : names.foldlM d.step k = .ok l) :
      names.foldlM d'.step k = .ok l := by
    induction names generalizing k with
    | nil => exact h
    | cons name names ih =>
      rw [List.foldlM_cons] at h ⊢
      obtain ⟨k', hstep, hrest⟩ := exists_of_bind h
      rw [step_of_directories hdir hrefusal hstep]
      exact ih k' hrest
  obtain ⟨hfault, hlong, hnames⟩ := locate_eq_ok_iff.mp h
  refine locate_eq_ok_iff.mpr ⟨hfault, hlong, ?_⟩
  rw [hwork]
  exact hfold _ _ hnames

/-! ### Reading -/

lemma read_of_locate (h : d.locate p = .ok l) (hl : d.node? l = some (.file octets)) :
    d.read p = .ok octets := by
  simp only [read, find, h, Bind.bind, Except.bind, hl]
  rfl

lemma exists_of_about {α : Type} {r : Except DiskFault α} {a : α} (h : about p r = .ok a) :
    r = .ok a := by
  cases r with
  | error e => cases h
  | ok b =>
    cases h
    rfl

/-! ### Nodes -/

lemma node?_of_ne_nil (hl : l ≠ []) : d.node? l = d.nodes[locationText l]? :=
  if_neg hl

lemma ne_nil_of_node? (h : d.node? l ≠ some .directory) : l ≠ [] := by
  rintro rfl
  exact h rfl

lemma node?_put_self (hl : l ≠ []) : (d.put l n).node? l = some n := by
  rw [node?_of_ne_nil hl, put, Std.ExtTreeMap.getElem?_insert_self]

lemma locationText_ne (hl : d.node? l ≠ some .directory) (hk : d.node? k = some .directory)
    (hne : k ≠ []) : locationText l ≠ locationText k := by
  intro heq
  rw [node?_of_ne_nil (ne_nil_of_node? hl), heq, ← node?_of_ne_nil hne] at hl
  exact hl hk

/-- A directory stays when only another place changes. -/
lemma node?_of_directory (hl : d.node? l ≠ some .directory) (hk : d.node? k = some .directory)
    (hother : ∀ key, locationText l ≠ key → d'.nodes[key]? = d.nodes[key]?) :
    d'.node? k = some .directory := by
  by_cases hne : k = []
  · rw [hne]
    rfl
  · rw [node?_of_ne_nil hne] at hk ⊢
    rw [hother _ (locationText_ne hl (by rwa [node?_of_ne_nil hne]) hne), hk]

lemma node?_put_of_directory (hl : d.node? l ≠ some .directory)
    (hk : d.node? k = some .directory) : (d.put l n).node? k = some .directory := by
  refine node?_of_directory hl hk fun key hkey => ?_
  rw [put, Std.ExtTreeMap.getElem?_insert, if_neg (by simpa using hkey)]

lemma node?_drop_of_directory (hl : d.node? l ≠ some .directory)
    (hk : d.node? k = some .directory) : (d.drop l).node? k = some .directory := by
  refine node?_of_directory hl hk fun key hkey => ?_
  rw [drop, Std.ExtTreeMap.getElem?_erase, if_neg (by simpa using hkey)]

/-- To drop what was put is to drop what was there before. -/
lemma drop_put (d : Disk) (k : Location) (n : DiskNode) : (d.put k n).drop k = d.drop k := by
  have hnodes : (d.nodes.insert (locationText k) n).erase (locationText k) =
      d.nodes.erase (locationText k) := by
    apply Std.ExtTreeMap.ext_getElem?
    intro key
    rw [Std.ExtTreeMap.getElem?_erase, Std.ExtTreeMap.getElem?_erase]
    by_cases hkey : compare (locationText k) key = .eq
    · rw [if_pos hkey, if_pos hkey]
    · rw [if_neg hkey, if_neg hkey, Std.ExtTreeMap.getElem?_insert, if_neg hkey]
  rw [put, drop, drop, hnodes]

lemma node?_drop_ne_directory (hk : d.node? k ≠ some .directory) :
    (d.drop l).node? k ≠ some .directory := by
  have hne := ne_nil_of_node? hk
  rw [node?_of_ne_nil hne] at hk ⊢
  rw [drop, Std.ExtTreeMap.getElem?_erase]
  split
  · simp
  · exact hk

/-! ### Operations -/

lemma read_eq_ok_iff : d.read p = .ok octets ↔ ∃ l, d.locate p = .ok l ∧
    (d.node? l = some (.file octets) ∨ ∃ r, d.node? l = some (.locked r none octets)) := by
  simp only [read, find, about]
  cases d.locate p with
  | error fault => simp [Bind.bind, Except.bind, Except.mapError]
  | ok l =>
    simp only [Bind.bind, Except.bind, Except.ok.injEq, exists_eq_left']
    rcases d.node? l with _ | _ | _ | ⟨r, _ | r', octets'⟩ | _ <;>
      simp [Except.mapError, pure, Except.pure, throw, throwThe, MonadExceptOf.throw]

lemma canAdd_eq_ok_iff : d.canAdd l = .ok () ↔
    d.node? l.dropLast = some .directory ∧ d.refusal? .add l.dropLast = none := by
  unfold canAdd permit
  rcases d.node? l.dropLast with _ | _ | _ | _ | _ <;> simp
  cases d.refusal? .add l.dropLast <;> simp

/-- A file is opened for writing where there is one, or where one can be added. -/
lemma openForWriting_eq_ok_iff : d.openForWriting p = .ok (l, before) ↔ d.locate p = .ok l ∧
    (d.node? l = some (.file before) ∨ d.node? l = none ∧ before = [] ∧ d.canAdd l = .ok ()) := by
  unfold openForWriting
  cases d.locate p with
  | error fault => simp [Bind.bind, Except.bind]
  | ok k =>
    simp only [Bind.bind, Except.bind, Except.ok.injEq]
    constructor
    · intro h
      split at h
      next octets hnode =>
        cases h
        exact ⟨rfl, .inl hnode⟩
      next => cases h
      next => cases h
      next => cases h
      next hnode =>
        split at h
        next => cases h
        next hadd =>
          cases h
          exact ⟨rfl, .inr ⟨hnode, rfl, hadd⟩⟩
    · rintro ⟨rfl, hnode | ⟨hnode, rfl, hadd⟩⟩
      · simp only [hnode]
        rfl
      · simp only [hnode, hadd]
        rfl

lemma openForWriting_ok (h : d.openForWriting p = .ok (l, before)) :
    d.locate p = .ok l ∧ d.node? l ≠ some .directory := by
  obtain ⟨hl, hnode | ⟨hnode, -⟩⟩ := openForWriting_eq_ok_iff.mp h
  · exact ⟨hl, by simp [hnode]⟩
  · exact ⟨hl, by simp [hnode]⟩

lemma exists_put_of_write (h : d.write p octets = .ok d') :
    ∃ k before, d.openForWriting p = .ok (k, before) ∧ d' = d.put k (.file octets) := by
  obtain ⟨⟨k, before⟩, hopen, hput⟩ := exists_of_bind (exists_of_about h)
  cases hput
  exact ⟨k, before, hopen, rfl⟩

/-- What is written is read. -/
theorem read_write (h : d.write p octets = .ok d') : d'.read p = .ok octets := by
  obtain ⟨l, before, hopen, rfl⟩ := exists_put_of_write h
  obtain ⟨hl, hnode⟩ := openForWriting_ok hopen
  have hlocate : (d.put l (.file octets)).locate p = .ok l :=
    locate_of_directories (fun k hk => node?_put_of_directory hnode hk) rfl rfl hl
  exact read_of_locate hlocate (node?_put_self (ne_nil_of_node? hnode))

/-- The octets of a file; a file that is missing has none. -/
def octetsAt (d : Disk) (p : Path) : Octets :=
  (d.read p).toOption.getD []

lemma octetsAt_of_read (h : d.read p = .ok octets) : d.octetsAt p = octets := by
  rw [octetsAt, h]
  rfl

/-- A file that is opened for writing has its octets at first. -/
lemma octetsAt_of_openForWriting (h : d.openForWriting p = .ok (l, before)) :
    d.octetsAt p = before := by
  obtain ⟨hl, hnode | ⟨hnode, rfl, -⟩⟩ := openForWriting_eq_ok_iff.mp h
  · exact octetsAt_of_read (read_of_locate hl hnode)
  · have hread : d.read p = .error ⟨.notFound, some p.text⟩ := by
      simp only [read, find, hl, Bind.bind, Except.bind, hnode]
      rfl
    rw [octetsAt, hread]
    rfl

/-- A file that was written is opened with what was written. -/
lemma openForWriting_put (h : d.openForWriting p = .ok (l, before)) :
    (d.put l (.file octets)).openForWriting p = .ok (l, octets) := by
  obtain ⟨hl, hnode⟩ := openForWriting_ok h
  have hlocate : (d.put l (.file octets)).locate p = .ok l :=
    locate_of_directories (fun k hk => node?_put_of_directory hnode hk) rfl rfl hl
  simp only [openForWriting, hlocate, Bind.bind, Except.bind,
    node?_put_self (ne_nil_of_node? hnode)]
  rfl

lemma append_of_openForWriting (h : d.openForWriting p = .ok (l, before)) :
    d.append p octets = .ok (d.put l (.file (before ++ octets))) := by
  rw [append, h]
  rfl

/-- What is appended is read after the former octets. -/
theorem read_append (h : d.append p octets = .ok d') :
    d'.read p = .ok (d.octetsAt p ++ octets) := by
  obtain ⟨⟨l, before⟩, hopen, hput⟩ := exists_of_bind (exists_of_about h)
  cases hput
  have hopen' : (d.put l (.file (before ++ octets))).openForWriting p =
      .ok (l, before ++ octets) := openForWriting_put hopen
  obtain ⟨hl, hnode⟩ := openForWriting_ok hopen'
  rw [octetsAt_of_openForWriting hopen]
  exact read_of_locate hl (node?_put_self (ne_nil_of_node? (openForWriting_ok hopen).2))

/-- What is removed is no directory. -/
lemma exists_of_remove (h : d.remove p = .ok d') :
    ∃ k, d.locate p = .ok k ∧ d.node? k ≠ some .directory ∧ d' = d.drop k := by
  obtain ⟨k, hk, h⟩ := exists_of_bind (exists_of_about h)
  obtain ⟨_, -, h⟩ := exists_of_bind h
  split at h
  next => cases h
  next n hn =>
    obtain ⟨_, -, h⟩ := exists_of_bind h
    split at h
    next => cases h
    next hne =>
      cases h
      exact ⟨k, hk, by simpa [hn] using hne, rfl⟩

/-- What is moved goes from its place to the other one. -/
lemma exists_of_move (h : d.move p q = .ok d') : ∃ k l n, d.locate p = .ok k ∧
    d.node? k = some n ∧ n ≠ .directory ∧ d.locate q = .ok l ∧ d.node? l ≠ some .directory ∧
      d' = (d.drop k).put l n := by
  unfold move at h
  split at h
  next => cases h
  obtain ⟨k, hk, h⟩ := exists_of_bind h
  obtain ⟨l, hl, h⟩ := exists_of_bind h
  obtain ⟨_, -, h⟩ := exists_of_bind h
  split at h
  next => cases h
  next => cases h
  next n hne hn =>
    obtain ⟨_, -, h⟩ := exists_of_bind h
    obtain ⟨_, hput, h⟩ := exists_of_bind h
    cases h
    refine ⟨k, l, n, hk, hn, hne, hl, fun hdir => ?_, rfl⟩
    rw [canPut, hdir] at hput
    obtain ⟨_, -, hput⟩ := exists_of_bind hput
    cases hput

/-- What is moved is read from its new place. -/
theorem read_move (h : d.move p q = .ok d') (hread : d.read p = .ok octets) :
    d'.read q = .ok octets := by
  obtain ⟨k, l, n, hk, hn, hfile, hl, hfree, rfl⟩ := exists_of_move h
  have hlocate : ((d.drop k).put l n).locate q = .ok l := by
    refine locate_of_directories (d := d) (fun k hk => ?_) rfl rfl hl
    exact node?_put_of_directory (node?_drop_ne_directory hfree)
      (node?_drop_of_directory (by simpa [hn] using hfile) hk)
  have hself := node?_put_self (d := d.drop k) (n := n) (ne_nil_of_node? hfree)
  obtain ⟨k', hk', hnode⟩ := read_eq_ok_iff.mp hread
  obtain rfl := Except.ok.inj (hk.symm.trans hk')
  rw [hn] at hnode
  exact read_eq_ok_iff.mpr ⟨l, hlocate, hself.symm ▸ hnode⟩

end Recalc.Disk
