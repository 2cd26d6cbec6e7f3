import Recalc.Proofs.Storage.Elsewhere
import Recalc.Proofs.Storage.Faults

/-!
# What is at a path

What is at a path is told by where it leads. Two paths that differ in their last name lead to
different places, also when one of them goes up. A file that was written and is removed leaves no
trace but that it is missing.
-/

namespace Recalc.Disk

variable {d d' : Disk} {k l : Location} {p q : Path} {n : DiskNode}
  {octets : Octets} {e : DiskError}

/-! ### What is at a path -/

/-- What is at the end of a path, if anything is. -/
def found? (d : Disk) (p : Path) : Option DiskNode :=
  (d.locate p).toOption.bind d.node?

lemma found?_of_locate (h : d.locate p = .ok l) : d.found? p = d.node? l := by
  rw [found?, h]
  rfl

lemma found?_of_locate_error {fault : DiskFault} (h : d.locate p = .error fault) :
    d.found? p = none := by
  rw [found?, h]
  rfl

lemma exists_of_found? (h : d.found? p = some n) :
    ∃ l, d.locate p = .ok l ∧ d.node? l = some n := by
  cases hl : d.locate p with
  | error fault =>
    rw [found?_of_locate_error hl] at h
    cases h
  | ok l =>
    rw [found?_of_locate hl] at h
    exact ⟨l, rfl, h⟩

lemma read_of_found? {octets : Octets} (h : d.found? p = some (.file octets)) :
    d.read p = .ok octets := by
  obtain ⟨l, hl, hnode⟩ := exists_of_found? h
  exact read_of_locate hl hnode

lemma octetsAt_of_found?_none (h : d.found? p = none) : d.octetsAt p = [] := by
  rw [octetsAt]
  cases hread : d.read p with
  | error e => rfl
  | ok octets =>
    obtain ⟨l, hl, hnode⟩ := read_eq_ok_iff.mp hread
    rw [found?_of_locate hl] at h
    simp [h] at hnode

/-- The same is at a path if the same is where it leads. -/
lemma SameDirectories.found?_eq (h : SameDirectories d d')
    (hnode : ∀ l, d.locate p = .ok l → d'.node? l = d.node? l) : d'.found? p = d.found? p := by
  cases hl : d.locate p with
  | ok l => rw [found?_of_locate hl, found?_of_locate (h.locate_iff.mpr hl), hnode l hl]
  | error fault =>
    rw [found?_of_locate_error hl]
    cases hl' : d'.locate p with
    | error fault' => exact found?_of_locate_error hl'
    | ok l =>
      rw [h.locate_iff.mp hl'] at hl
      cases hl

/-! ### A path and another one beside it -/

lemma length_locationText_add (l : Location) (name : String) :
    (locationText l).length + name.length ≤ (locationText (l ++ [name])).length := by
  cases l with
  | nil =>
    rw [List.nil_append, locationText, locationText, String.intercalate_singleton,
      String.length_append, String.length_append]
    exact Nat.le_refl _
  | cons first l =>
    have happend : locationText ((first :: l) ++ [name]) =
        locationText (first :: l) ++ "/" ++ name := by
      rw [locationText, String.intercalate_append_of_ne_nil (List.cons_ne_nil _ _)
        (List.cons_ne_nil _ _), String.intercalate_singleton, locationText]
      simp only [String.append_assoc]
    rw [happend, String.length_append, String.length_append]
    exact Nat.add_le_add_right (Nat.le_add_right _ _) _

lemma length_locationText_dropLast (l : Location) :
    (locationText l.dropLast).length ≤ (locationText l).length := by
  rcases List.eq_nil_or_concat' l with rfl | ⟨l, name, rfl⟩
  · exact Nat.le_refl _
  · rw [List.dropLast_concat]
    exact (Nat.le_add_right _ _).trans (length_locationText_add l name)

/-- A path with another last name leads elsewhere. -/
lemma locationText_withName_ne {part part' : CodePoints} (hlast : p.parts.getLast? = some part)
    (hslash : '/' ∉ part.fileName.toList) (hne : part'.fileName ≠ part.fileName)
    (hup : part'.fileName ≠ "..") (hempty : part'.fileName ≠ "")
    (hk : d.locate (p.withName part') = .ok k) (hl : d.locate p = .ok l) :
    locationText k ≠ locationText l := by
  have hlast' : (p.withName part').parts.getLast? = some part' := List.getLast?_concat
  obtain ⟨m, hm, hstep⟩ := exists_step_of_locate hlast hl
  obtain ⟨m', hm', hstep'⟩ := exists_step_of_locate hlast' hk
  have hsame : m' = m := by
    have hinit : (p.withName part').parent = p.parent := by
      rw [Path.parent, Path.withName, List.dropLast_concat, Path.parent]
    rw [hinit] at hm'
    exact Except.ok.inj (hm'.symm.trans hm)
  subst hsame
  have hk' := eq_of_step hstep'
  have hl' := eq_of_step hstep
  rw [if_neg hup] at hk'
  subst hk'
  by_cases hname : part.fileName = ".."
  · rw [if_pos hname] at hl'
    subst hl'
    have hshort := length_locationText_dropLast m'
    have hlong := length_locationText_add m' part'.fileName
    have hpositive : 0 < part'.fileName.length :=
      Nat.pos_of_ne_zero fun hzero => hempty (String.length_eq_zero_iff.mp hzero)
    intro heq
    rw [heq] at hlong
    omega
  · rw [if_neg hname] at hl'
    subst hl'
    exact locationText_ne_of_ne hslash hne.symm

/-! ### Removing -/

/-- A file that is not removed is one that the system refuses to remove. -/
lemma exists_refusal_of_remove_error (hl : d.locate p = .ok l) (hn : d.node? l = some n)
    (hfile : n ≠ .directory) (h : d.remove p = .error e) :
    ∃ r, d.refusal? .remove l = some r := by
  rw [remove_of_locate hl, hn] at h
  cases hr : d.refusal? .remove l with
  | some r => exact ⟨r, rfl⟩
  | none =>
    rw [hr] at h
    cases n with
    | directory => exact absurd rfl hfile
    | file | locked | loop => cases h

/-- What can be added at the path can be removed again. -/
def TakesBack (d : Disk) (p : Path) : Prop :=
  ∀ l, d.locate p = .ok l → d.refusal? .add l.dropLast = none → d.refusal? .remove l = none

/-- Whatever can be opened there and not be removed again was there before. -/
lemma TakesBack.found?_ne_none {before : Octets} {r : Refusal} (h : d.TakesBack p)
    (hopen : d.openForWriting p = .ok (l, before)) (hr : d.refusal? .remove l = some r) :
    d.found? p ≠ none := by
  obtain ⟨hl, hnode | ⟨-, -, hadd⟩⟩ := openForWriting_eq_ok_iff.mp hopen
  · simp [found?_of_locate hl, hnode]
  · cases (h l hl (canAdd_eq_ok_iff.mp hadd).2).symm.trans hr

end Recalc.Disk
