import Recalc.Proofs.Xml.Pieces

/-!
# Documents under the guard

The guard against amplification refuses documents, and changes nothing in those that it lets pass. A
document that declares no entities passes.
-/

namespace Recalc.Xml

variable {α : Type} {P : α → Prop} {s : Source} {standalone : Bool} {r : Except Fault α} {a : α}
  {left : Nat} {octets : List UInt8} {root : Element}

/-! ### Faults of the guard -/

lemma guarded_of_passing (h : s.breach? standalone = none) : s.guarded standalone r = r := by
  simp only [Source.guarded, h]

/-- A document that is read otherwise is refused at the place of the guard. -/
lemma guarded_of_breach (h : s.breach? standalone = some left) :
    s.guarded standalone (.ok a : Except Fault α) = .error ⟨.amplified, left⟩ := by
  simp only [Source.guarded, h]

lemma guarded_eq_ok_iff :
    s.guarded standalone r = .ok a ↔ s.breach? standalone = none ∧ r = .ok a := by
  cases h : s.breach? standalone with
  | none => simp [guarded_of_passing h]
  | some left =>
    cases r with
    | ok b => simp [guarded_of_breach h]
    | error f => simp [Source.guarded, h]

lemma Yields.guarded (h : Yields P r) : Yields P (s.guarded standalone r) :=
  fun a ha => h a (guarded_eq_ok_iff.mp ha).2

/-- Without entities the guard lets everything pass. -/
lemma guarded_of_entities {d : Doctype} {rest : List Char}
    (h : readProlog standalone s.text = .ok (d, rest)) (hentities : d.entities = []) :
    s.guarded standalone r = r := by
  obtain ⟨entities, attributes, incomplete, _⟩ := d
  subst hentities
  exact guarded_of_passing (by rw [Source.breach?, h])

/-! ### Counting -/

/-- When nothing is refused, what has been read is tolerated at each token of the document. -/
lemma isTolerated_of_breach? {i : Intake} {before after : List (Nat × Charge)} {octets : Nat}
    (h : i.breach? (before ++ (left, .direct octets) :: after) = none) :
    (((before.map Prod.snd).foldl Intake.add i).add (.direct octets)).isTolerated = true := by
  induction before generalizing i with
  | nil =>
    by_contra hno
    rw [List.nil_append, Intake.breach?, if_neg (by exact hno)] at h
    cases h
  | cons p before ih =>
    obtain ⟨left, c⟩ := p
    rw [List.cons_append, Intake.breach?] at h
    split at h
    next => exact ih h
    next => cases h

/-- The charges count so many octets of entities, and nothing of the document. -/
def Amounts (charges : List Charge) (octets : Nat) : Prop :=
  ∀ i : Intake, charges.foldl Intake.add i = ⟨i.direct, i.indirect + octets⟩

lemma Amounts.nil : Amounts [] 0 :=
  fun _ => rfl

lemma Amounts.indirect {octets n : Nat} {charges : List Charge} (h : Amounts charges n) :
    Amounts (.indirect octets :: charges) (octets + n) := by
  intro i
  rw [List.foldl_cons, h]
  simp only [Intake.add, Nat.add_assoc]

lemma Amounts.append {m n : Nat} {charges charges' : List Charge} (h : Amounts charges m)
    (h' : Amounts charges' n) : Amounts (charges ++ charges') (m + n) := by
  intro i
  rw [List.foldl_append, h, h', Nat.add_assoc]

/-! ### Documents -/

/-- The entities of the document stand for more than the guard lets pass. -/
def Amplifies (octets : List UInt8) : Prop :=
  ∃ opening left, readOpening octets = .ok opening ∧
    opening.source.breach? opening.standalone = some left

lemma placed_eq_ok_iff {text : List Char} : placed text r = .ok a ↔ r = .ok a := by
  cases r <;> simp [placed, Except.mapError]

/-- What is read is what the document writes, unless its entities stand for too much. -/
lemma read_eq_ok_iff : read octets = .ok root ↔ parse octets = .ok root ∧ ¬Amplifies octets := by
  unfold read parse Amplifies
  cases readOpening octets with
  | error error => simp [Bind.bind, Except.bind]
  | ok opening =>
    simp only [Bind.bind, Except.bind, placed_eq_ok_iff, guarded_eq_ok_iff, Except.ok.injEq,
      exists_and_left, exists_eq_left']
    cases opening.source.breach? opening.standalone with
    | none => simp
    | some left => simp

/-- A document that is refused by the guard alone. -/
lemma read_of_amplifies (hparse : parse octets = .ok root) (h : Amplifies octets) :
    ∃ line column, read octets = .error (.malformed .amplified line column) := by
  obtain ⟨opening, left, hopening, hbreach⟩ := h
  rw [parse, hopening] at hparse
  rw [read, hopening]
  have hbody := placed_eq_ok_iff.mp hparse
  simp only [Bind.bind, Except.bind, hbody, guarded_of_breach hbreach]
  exact ⟨_, _, rfl⟩

end Recalc.Xml
