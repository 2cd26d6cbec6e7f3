import Recalc.Proofs.Storage.Disk
import Recalc.Proofs.Storage.FileName
import Recalc.Proofs.Storage.Path

/-!
# Faults of paths

What hinders a file from being removed is that its path leads nowhere, that it is a directory, or
that the system refuses it. The last may show only when the file is there, so that a file can be
written that cannot be removed again.
-/

namespace Recalc

namespace Path

variable {s : CodePoints} {p : Path}

lemma fault?_eq_none_iff : p.fault? = none ↔
    (∀ c ∈ p.text, c.isNameable = true) ∧ .char '\x00' ∉ p.text := by
  rw [← CodePoints.nameError?_eq_none_iff, fault?]
  cases p.text.nameError? <;> simp

/-- The system is asked about the path of a text unless it has a code point that no path has. -/
lemma fault?_ofText_eq_none_iff : (ofText s).fault? = none ↔
    (∀ c ∈ s, c.isNameable = true) ∧ .char '\x00' ∉ s := by
  rw [fault?_eq_none_iff, mem_text_ofText_iff (by decide) (by decide)]
  refine and_congr_left' (forall_congr' fun c => ?_)
  by_cases hc : c = .char '/' ∨ c = .char '.'
  · rcases hc with rfl | rfl <;> simp [CodePoint.isNameable_char]
  · rw [not_or] at hc
    rw [mem_text_ofText_iff hc.1 hc.2]

lemma isUnasked_of_fault? {fault : DiskFault} (h : p.fault? = some fault) :
    fault.isUnasked = true := by
  unfold fault? at h
  split at h
  next =>
    cases h
    rfl
  split at h
  next =>
    cases h
    rfl
  next => cases h

end Path

namespace Disk

variable {d d' : Disk} {p q : Path} {l : Location} {octets before : Octets} {fault : DiskFault}
  {r : Refusal} {n : DiskNode} {e : DiskError}

/-! ### Paths that the system has -/

lemma isUnasked_of_step {name : String} (h : d.step l name = .error fault) :
    fault.isUnasked = false := by
  unfold step at h
  split at h
  next =>
    split at h
    next => cases h
    split at h
    next =>
      cases h
      rfl
    next => cases h
  all_goals
    cases h
    rfl

/-- The only faults of a path itself are those of its text. -/
lemma isUnasked_of_locate (h : d.locate p = .error fault) :
    fault.isUnasked = true ↔ p.fault? ≠ none := by
  have hfold (names : List String) (k : Location) (h : names.foldlM d.step k = .error fault) :
      fault.isUnasked = false := by
    induction names generalizing k with
    | nil => cases h
    | cons name names ih =>
      rw [List.foldlM_cons] at h
      cases hstep : d.step k name with
      | error fault' =>
        rw [hstep] at h
        cases h
        exact isUnasked_of_step hstep
      | ok k' =>
        rw [hstep] at h
        exact ih k' h
  unfold locate at h
  split at h
  next fault' hfault =>
    cases h
    simp [hfault, Path.isUnasked_of_fault? hfault]
  next hfault =>
    split at h
    next =>
      cases h
      simp [hfault, DiskFault.isUnasked]
    next => simp [hfault, hfold _ _ h]

lemma locate_of_fault? (h : p.fault? = some fault) : d.locate p = .error fault := by
  rw [locate, h]

lemma isUnasked_of_read (h : d.read p = .error e) :
    e.fault.isUnasked = true ↔ p.fault? ≠ none := by
  rw [read, find] at h
  cases hl : d.locate p with
  | error fault =>
    rw [hl] at h
    cases h
    exact isUnasked_of_locate hl
  | ok l =>
    rw [hl] at h
    simp only [Bind.bind, Except.bind] at h
    rw [(locate_eq_ok_iff.mp hl).1]
    generalize d.node? l = n? at h
    rcases n? with _ | _ | _ | ⟨_, _ | _, _⟩ | _ <;> cases h <;> simp [DiskFault.isUnasked]

lemma isUnasked_of_canAdd (h : d.canAdd l = .error fault) : fault.isUnasked = false := by
  unfold canAdd permit at h
  split at h
  next =>
    split at h
    next =>
      cases h
      rfl
    next => cases h
  all_goals
    cases h
    rfl

lemma isUnasked_of_write (h : d.write p octets = .error e) :
    e.fault.isUnasked = true ↔ p.fault? ≠ none := by
  rw [write, openForWriting] at h
  cases hl : d.locate p with
  | error fault =>
    rw [hl] at h
    cases h
    exact isUnasked_of_locate hl
  | ok l =>
    rw [hl] at h
    simp only [Bind.bind, Except.bind] at h
    rw [(locate_eq_ok_iff.mp hl).1]
    generalize d.node? l = n? at h
    rcases n? with _ | _ | _ | _ | _
    · cases hadd : d.canAdd l with
      | error fault =>
        simp only [hadd] at h
        cases h
        simp [isUnasked_of_canAdd hadd]
      | ok =>
        simp only [hadd] at h
        cases h
    all_goals
      cases h
      try simp [DiskFault.isUnasked]

/-! ### Removing -/

/-- What hinders a file at the path from being removed, other than that it is missing. -/
inductive Held (d : Disk) (p : Path) : Prop where
  /-- The path goes through a file or in a circle, a name or the whole path is too long, it is
  refused to follow the path, or the system has no such path. -/
  | unreachable {fault : DiskFault} (h : d.locate p = .error fault) (hne : fault ≠ .notFound)
  | directory {l : Location} (hl : d.locate p = .ok l) (h : d.node? l = some .directory)
  /-- It is refused to remove what is there. That the system is read-only is told even if there is
  nothing to remove. -/
  | refused {l : Location} {r : Refusal} (hl : d.locate p = .ok l)
      (h : d.refusal? .remove l = some r) (hthere : r = .readOnly ∨ d.node? l ≠ none)

lemma held_of_fault? (h : p.fault? = some fault) : d.Held p := by
  refine .unreachable (locate_of_fault? h) ?_
  rintro rfl
  cases Path.isUnasked_of_fault? h

lemma remove_of_locate_error (h : d.locate p = .error fault) :
    d.remove p = .error ⟨fault, some p.text⟩ := by
  rw [remove, h]
  rfl

lemma remove_of_locate (hl : d.locate p = .ok l) : d.remove p = about p
    (match d.refusal? .remove l, d.node? l with
    | some .readOnly, _ => .error (.refused .readOnly)
    | _, none => .error .notFound
    | some r, some _ => .error (.refused r)
    | none, some .directory => .error .isADirectory
    | none, some _ => .ok (d.drop l)) := by
  rw [remove, hl]
  simp only [Bind.bind, Except.bind, changeable, permit]
  rcases d.refusal? .remove l with _ | _ | _ | _ | _ <;>
    rcases d.node? l with _ | _ | _ | _ | _ <;> rfl

/-- Beside a missing file, what keeps a file from being removed is that it is held. -/
theorem remove_error_iff :
    (∃ e, d.remove p = .error e ∧ e.fault ≠ .notFound) ↔ d.Held p := by
  cases hl : d.locate p with
  | error fault =>
    rw [remove_of_locate_error hl]
    constructor
    · rintro ⟨e, he, hne⟩
      cases he
      exact .unreachable hl hne
    · intro h
      cases h with
      | unreachable h hne =>
        obtain rfl := Except.error.inj (hl.symm.trans h)
        exact ⟨_, rfl, hne⟩
      | directory h => cases hl.symm.trans h
      | refused h => cases hl.symm.trans h
  | ok l =>
    rw [remove_of_locate hl]
    constructor
    · rintro ⟨e, he, hne⟩
      split at he
      next h => exact .refused hl h (.inl rfl)
      next =>
        cases he
        exact absurd rfl hne
      next h hn => exact .refused hl h (.inr (by simp [hn]))
      next hn => exact .directory hl hn
      next => cases he
    · intro h
      cases h with
      | unreachable h => cases hl.symm.trans h
      | directory h hn =>
        obtain rfl := Except.ok.inj (hl.symm.trans h)
        rw [hn]
        rcases d.refusal? .remove l with _ | _ | _ | _ | _ <;> exact ⟨_, rfl, nofun⟩
      | @refused _ r h hr hthere =>
        obtain rfl := Except.ok.inj (hl.symm.trans h)
        rw [hr]
        rcases hthere with rfl | hthere
        · exact ⟨_, rfl, nofun⟩
        · obtain ⟨n, hn⟩ := Option.ne_none_iff_exists'.mp hthere
          rw [hn]
          cases r <;> exact ⟨_, rfl, nofun⟩

/-! ### Writing and removing again -/

/-- A file at the path is held, or it would be once it is written. -/
inductive Blocked (d : Disk) (p : Path) : Prop where
  | held (h : d.Held p)
  | kept {l : Location} {before : Octets} {r : Refusal} (h : d.openForWriting p = .ok (l, before))
      (hr : d.refusal? .remove l = some r)

/-- Where a file was written, it is held if it is refused to remove it. -/
lemma held_put_iff (h : d.openForWriting p = .ok (l, before)) :
    (d.put l (.file octets)).Held p ↔ ∃ r, d.refusal? .remove l = some r := by
  obtain ⟨hl, hnode⟩ := openForWriting_ok h
  have hl' : (d.put l (.file octets)).locate p = .ok l :=
    locate_of_directories (fun k hk => node?_put_of_directory hnode hk) rfl rfl hl
  have hfile : (d.put l (.file octets)).node? l = some (.file octets) :=
    node?_put_self (ne_nil_of_node? hnode)
  constructor
  · intro hheld
    cases hheld with
    | unreachable h => cases hl'.symm.trans h
    | directory h hdir =>
      obtain rfl := Except.ok.inj (hl'.symm.trans h)
      cases hfile.symm.trans hdir
    | refused h hr =>
      obtain rfl := Except.ok.inj (hl'.symm.trans h)
      exact ⟨_, hr⟩
  · rintro ⟨r, hr⟩
    exact .refused hl' hr (.inr (by simp [hfile]))

/-- Where a file can be written although the path is blocked, it is refused to remove the file. -/
lemma Blocked.exists_refusal (hblocked : d.Blocked p)
    (h : d.openForWriting p = .ok (l, before)) : ∃ r, d.refusal? .remove l = some r := by
  obtain ⟨hl, hnode⟩ := openForWriting_ok h
  cases hblocked with
  | kept h' hr =>
    cases h.symm.trans h'
    exact ⟨_, hr⟩
  | held hheld =>
    cases hheld with
    | unreachable h => cases hl.symm.trans h
    | directory h hdir =>
      obtain rfl := Except.ok.inj (hl.symm.trans h)
      exact absurd hdir hnode
    | refused h hr =>
      obtain rfl := Except.ok.inj (hl.symm.trans h)
      exact ⟨_, hr⟩

/-- A file is not moved from where it is refused to remove it. -/
lemma exists_move_error (hl : d.locate p = .ok l) (hr : d.refusal? .remove l = some r) :
    ∃ fault, d.move p q = .error fault := by
  cases hmove : d.move p q with
  | error fault => exact ⟨fault, rfl⟩
  | ok moved =>
    unfold move at hmove
    split at hmove
    next => cases hmove
    obtain ⟨k, hk, hmove⟩ := exists_of_bind hmove
    obtain rfl := Except.ok.inj (hl.symm.trans hk)
    obtain ⟨target, -, hmove⟩ := exists_of_bind hmove
    obtain ⟨_, -, hmove⟩ := exists_of_bind hmove
    split at hmove
    next => cases hmove
    next => cases hmove
    next =>
      obtain ⟨_, hpermit, -⟩ := exists_of_bind hmove
      rw [permit, hr] at hpermit
      cases hpermit

end Disk

end Recalc
