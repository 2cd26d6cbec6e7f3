import Recalc.Proofs.Formula.Spelling
import Recalc.Proofs.Sheet.History
import Recalc.Proofs.Sheet.Reentered
import Recalc.Proofs.Text.Case
import Recalc.Sheet.Calls

/-!
# Names with one normal form

A sheet does not tell names apart that have the same normal form. Calls that differ in nothing but
the spelling of names, as arguments or within formulas, are answered alike and leave the same sheet.
Only a refusal shows how the name was spelled.
-/

namespace Recalc

open Recalc.Text

variable {naming : Naming} {s : Sheet}

/-! ### Spellings -/

/-- A name in its normal form. What is no text stays as it is. -/
def Datum.normalName (naming : Naming) (d : Datum) : Datum :=
  match d.text? with
  | some name => .text (naming.normalize name)
  | none => d

def InvalidName.normal (naming : Naming) (e : InvalidName) : InvalidName :=
  ⟨e.name.normalName naming⟩

/-- The query with its names in their normal form. -/
def Query.normal (naming : Naming) : Query → Query
  | .contents name => .contents (name.normalName naming)
  | .value name => .value (name.normalName naming)
  | .directDependents name => .directDependents (name.normalName naming)
  | .recalculationOrder names => .recalculationOrder (names.map (Datum.normalName naming))

/-- The call with its names in their normal form. What is entered stays as it is. -/
def Call.normal (naming : Naming) : Call → Call
  | .setContents name contents => .setContents (name.normalName naming) contents
  | .query q => .query (q.normal naming)

/-- The calls differ in the spelling of names at most. These may also be in the formula that is
entered, beside blanks. -/
inductive Call.Respelled (naming : Naming) : Call → Call → Prop where
  | named {c c' : Call} (h : c.normal naming = c'.normal naming) : Respelled naming c c'
  | formula {name name' : Datum} {text text' : String}
      (hname : name.normalName naming = name'.normalName naming)
      (htext : Formula.Respelled naming text text') :
      Respelled naming (.setContents name (.text ("=" ++ text)))
        (.setContents name' (.text ("=" ++ text')))

namespace EditError

/-- The error with the refused name in its normal form. -/
def unnamed (naming : Naming) : EditError → EditError
  | .invalidName e => .invalidName (e.normal naming)
  | e => e

/-- The error with the refused name, and the names in the refused formula, in their normal form. -/
def unspelled (naming : Naming) : EditError → EditError
  | .format e => .format (e.unspelled naming)
  | e => e.unnamed naming

lemma unspelled_eq_of_unnamed_eq {e e' : EditError} (h : e.unnamed naming = e'.unnamed naming) :
    e.unspelled naming = e'.unspelled naming := by
  cases e <;> cases e' <;> simp_all [unnamed, unspelled]

end EditError

lemma Datum.eq_text_of_text? {d : Datum} {text : String} (h : d.text? = some text) :
    d = .text text := by
  cases d <;> cases h
  rfl

/-- Names with one normal form are texts that have it, unless they are the same anyway. -/
lemma Datum.cases_of_normalName_eq {d d' : Datum}
    (h : d.normalName naming = d'.normalName naming) :
    d = d' ∨ ∃ name name', d = .text name ∧ d' = .text name' ∧
      naming.normalize name = naming.normalize name' := by
  unfold normalName at h
  cases hd : d.text? with
  | none =>
    cases hd' : d'.text? with
    | none =>
      rw [hd, hd'] at h
      exact .inl h
    | some name' =>
      rw [hd, hd'] at h
      obtain rfl : d = .text (naming.normalize name') := h
      cases hd
  | some name =>
    cases hd' : d'.text? with
    | none =>
      rw [hd, hd'] at h
      obtain rfl : .text (naming.normalize name) = d' := h
      cases hd'
    | some name' =>
      rw [hd, hd', Datum.text.injEq] at h
      exact .inr ⟨name, name', eq_text_of_text? hd, eq_text_of_text? hd', h⟩

/-! ### One call -/

namespace Sheet

variable {name name' : Datum} {names names' : List Datum} {text text' : String}

lemma sameUpTo_checkName (h : name.normalName s.naming = name'.normalName s.naming) :
    SameUpTo (InvalidName.normal s.naming) (s.checkName name) (s.checkName name') := by
  rcases Datum.cases_of_normalName_eq h with rfl | ⟨a, a', rfl, rfl, hnormal⟩
  · exact SameUpTo.refl _
  · have hcanonical : s.naming.canonical? a = s.naming.canonical? a' := by
      rw [Naming.canonical?, hnormal, Naming.canonical?]
    simp only [checkName, Datum.text?, hcanonical]
    split
    · exact SameUpTo.refl _
    · exact SameUpTo.error (congrArg InvalidName.mk h)

lemma sameUpTo_checkNames
    (h : names.map (Datum.normalName s.naming) = names'.map (Datum.normalName s.naming)) :
    SameUpTo (InvalidName.normal s.naming) (names.mapM s.checkName) (names'.mapM s.checkName) := by
  induction names generalizing names' with
  | nil =>
    obtain rfl : names' = [] := List.map_eq_nil_iff.mp h.symm
    exact SameUpTo.refl _
  | cons name names ih =>
    obtain ⟨name', names', rfl, hname, hnames⟩ := List.map_eq_cons_iff.mp h.symm
    rw [List.mapM_cons, List.mapM_cons]
    refine (sameUpTo_checkName hname.symm).bind fun normal => ?_
    exact (ih hnames.symm).bind fun normals => SameUpTo.refl _

/-- A refused name is told alike when its normal form is the same. -/
lemma sameUpTo_mapError_invalidName {α : Type} {x y : Except InvalidName α}
    (h : SameUpTo (InvalidName.normal s.naming) x y) : SameUpTo (EditError.unnamed s.naming)
      (x.mapError EditError.invalidName) (y.mapError EditError.invalidName) :=
  h.mapError fun _ _ he => congrArg EditError.invalidName he

lemma sameUpTo_recalculationOrder
    (h : names.map (Datum.normalName s.naming) = names'.map (Datum.normalName s.naming)) :
    SameUpTo (EditError.unnamed s.naming) (s.recalculationOrder names)
      (s.recalculationOrder names') := by
  have hbind (names : List Datum) : s.recalculationOrder names =
      (names.mapM s.checkName).mapError EditError.invalidName >>= fun roots =>
        (s.graph.recalculationOrder roots).mapError .circular := by
    unfold recalculationOrder
    cases names.mapM s.checkName <;> rfl
  rw [hbind, hbind]
  exact (sameUpTo_mapError_invalidName (sameUpTo_checkNames h)).bind fun roots => SameUpTo.refl _

/-- What is looked up under another spelling of the name. -/
lemma sameUpTo_lookUp {α : Type} (h : name.normalName s.naming = name'.normalName s.naming)
    (k : String → α) (answer : α → CallAnswer) :
    SameUpTo (EditError.unnamed s.naming)
      ((((s.checkName name).map k).mapError EditError.invalidName).map answer)
      ((((s.checkName name').map k).mapError EditError.invalidName).map answer) :=
  (sameUpTo_mapError_invalidName ((sameUpTo_checkName h).map k)).map answer

lemma sameUpTo_query {q q' : Query} (h : q.normal s.naming = q'.normal s.naming) :
    SameUpTo (EditError.unnamed s.naming) (s.query q) (s.query q') := by
  cases q with
  | contents name =>
    cases q' with
    | contents name' => exact sameUpTo_lookUp (Query.contents.inj h) _ _
    | _ => cases h
  | value name =>
    cases q' with
    | value name' => exact sameUpTo_lookUp (Query.value.inj h) _ _
    | _ => cases h
  | directDependents name =>
    cases q' with
    | directDependents name' => exact sameUpTo_lookUp (Query.directDependents.inj h) _ _
    | _ => cases h
  | recalculationOrder names =>
    cases q' with
    | recalculationOrder names' =>
      exact (sameUpTo_recalculationOrder (Query.recalculationOrder.inj h)).map CallAnswer.order
    | _ => cases h

/-- The answers are alike, and the sheet that is left is the same. -/
structure EndsAlike {α : Type} (f : EditError → EditError)
    (done done' : Except EditError α × Sheet) : Prop where
  answer : SameUpTo f done.1 done'.1
  sheet_eq : done.2 = done'.2

/-- An edit under another spelling of the name. -/
lemma endsAlike_setContents_of_name (h : name.normalName s.naming = name'.normalName s.naming)
    (contents : Datum) : EndsAlike (EditError.unnamed s.naming) (s.setContents name contents)
      (s.setContents name' contents) := by
  unfold setContents
  cases contents.text? with
  | none => exact ⟨SameUpTo.refl _, rfl⟩
  | some text =>
    dsimp only
    rcases (sameUpTo_checkName h).cases with ⟨normal, hx, hy⟩ | ⟨e, e', hx, hy, he⟩
    · rw [hx, hy]
      exact ⟨SameUpTo.refl _, rfl⟩
    · rw [hx, hy]
      exact ⟨SameUpTo.error (congrArg EditError.invalidName he), rfl⟩

/-- An edit with another spelling of the formula. -/
lemma endsAlike_setContents_of_formula (h : Formula.Respelled s.naming text text') (name : Datum) :
    EndsAlike (EditError.unspelled s.naming) (s.setContents name (.text ("=" ++ text)))
      (s.setContents name (.text ("=" ++ text'))) := by
  simp only [setContents, Datum.text?, Contents.ofText_equals]
  cases s.checkName name with
  | error e => exact ⟨SameUpTo.refl _, rfl⟩
  | ok normal =>
    rcases h.sameUpTo_parse.cases with ⟨f, hx, hy⟩ | ⟨e, e', hx, hy, he⟩
    · rw [hx, hy]
      exact ⟨SameUpTo.refl _, rfl⟩
    · rw [hx, hy]
      exact ⟨SameUpTo.error (congrArg EditError.format he), rfl⟩

lemma EndsAlike.weaken {α : Type} {done done' : Except EditError α × Sheet}
    (h : EndsAlike (EditError.unnamed naming) done done') :
    EndsAlike (EditError.unspelled naming) done done' :=
  ⟨h.answer.weaken fun _ _ => EditError.unspelled_eq_of_unnamed_eq, h.sheet_eq⟩

lemma EndsAlike.call {f : EditError → EditError} {contents contents' : Datum}
    (h : EndsAlike f (s.setContents name contents) (s.setContents name' contents')) :
    EndsAlike f (s.call (.setContents name contents)) (s.call (.setContents name' contents')) :=
  ⟨h.answer.map CallAnswer.order, h.sheet_eq⟩

lemma endsAlike_call_of_normal {c c' : Call} (h : c.normal s.naming = c'.normal s.naming) :
    EndsAlike (EditError.unnamed s.naming) (s.call c) (s.call c') := by
  cases c with
  | setContents name contents =>
    cases c' with
    | setContents name' contents' =>
      obtain ⟨hname, rfl⟩ := Call.setContents.inj h
      exact (endsAlike_setContents_of_name hname contents).call
    | query q' => cases h
  | query q =>
    cases c' with
    | setContents name' contents' => cases h
    | query q' => exact ⟨sameUpTo_query (Call.query.inj h), rfl⟩

lemma endsAlike_call_of_respelled {c c' : Call} (h : Call.Respelled s.naming c c') :
    EndsAlike (EditError.unspelled s.naming) (s.call c) (s.call c') := by
  cases h with
  | named h => exact (endsAlike_call_of_normal h).weaken
  | @formula name name' text text' hname htext =>
    have hnamed := (endsAlike_setContents_of_name hname (.text ("=" ++ text))).call.weaken
    have hspelled := (endsAlike_setContents_of_formula htext name').call
    exact ⟨hnamed.answer.trans hspelled.answer, hnamed.sheet_eq.trans hspelled.sheet_eq⟩

/-! ### Calls one after another -/

lemma naming_call (s : Sheet) (c : Call) : (s.call c).2.naming = s.naming := by
  cases c with
  | setContents name contents => exact naming_setContents s name contents
  | query q => rfl

/-- What holds of each call holds of a run: the answers are alike one by one, and the sheet that is
left is the same. -/
lemma sameUpTo_calls {f : Naming → EditError → EditError} {R : Naming → Call → Call → Prop}
    {cs cs' : List Call} (hstep : ∀ (s : Sheet) (c c' : Call), R s.naming c c' →
      EndsAlike (f s.naming) (s.call c) (s.call c'))
    (h : List.Forall₂ (R naming) cs cs') (hs : s.naming = naming) :
    List.Forall₂ (SameUpTo (f naming)) (s.calls cs).1 (s.calls cs').1 ∧
      (s.calls cs).2 = (s.calls cs').2 := by
  induction h generalizing s with
  | nil => exact ⟨.nil, rfl⟩
  | @cons c c' cs cs' hc _ ih =>
    subst hs
    have hends := hstep s c c' hc
    obtain ⟨hanswers, hsheet⟩ := ih (naming_call s c)
    rw [calls, calls, ← hends.sheet_eq]
    exact ⟨.cons hends.answer hanswers, hsheet⟩

/-- How a sheet takes names that are spelled in different ways. -/
structure IgnoresSpelling (s : Sheet) : Prop where
  /-- Calls that differ in the spelling of their names are answered alike, up to the name that is
  refused, and leave the same sheet. -/
  named : ∀ cs cs', cs.map (Call.normal s.naming) = cs'.map (Call.normal s.naming) →
    List.Forall₂ (SameUpTo (EditError.unnamed s.naming)) (s.calls cs).1 (s.calls cs').1 ∧
      (s.calls cs).2 = (s.calls cs').2
  /-- So are those that also differ in the spelling of formulas, up to the column and the names
  that a refusal of a formula tells. -/
  respelled : ∀ cs cs', List.Forall₂ (Call.Respelled s.naming) cs cs' →
    List.Forall₂ (SameUpTo (EditError.unspelled s.naming)) (s.calls cs).1 (s.calls cs').1 ∧
      (s.calls cs).2 = (s.calls cs').2
  /-- In upper or lower case, ASCII names that differ in case have one normal form. -/
  cased : s.naming.normalize = upper ∨ s.naming.normalize = lower →
    ∀ a b, SameButCase a b → s.naming.normalize a = s.naming.normalize b

/-- Names with one normal form are interchangeable everywhere. -/
theorem ignoresSpelling (s : Sheet) : s.IgnoresSpelling := by
  refine ⟨fun cs cs' h => ?_, fun cs cs' h => ?_, fun hcase a b h => ?_⟩
  · rw [← List.forall₂_eq_eq_eq, List.forall₂_map_left_iff, List.forall₂_map_right_iff] at h
    exact sameUpTo_calls (R := fun naming c c' => c.normal naming = c'.normal naming)
      (fun s c c' => endsAlike_call_of_normal) h rfl
  · exact sameUpTo_calls (fun s c c' => endsAlike_call_of_respelled) h rfl
  · rcases hcase with hcase | hcase
    · rw [hcase, h.upper_eq]
    · rw [hcase, h.lower_eq]

/-- An edit, what it led to, and a name that is refused, all in small letters. -/
def whispered : List Call :=
  [.setContents (.text "a1") (.text "=b1+(c*2)"),
    .setContents (.text "b1") (.text "=1e"),
    .query (.value (.text "a1")), .query (.recalculationOrder [.text "c", .text "1a"])]

/-- The same with capital letters and blanks. -/
def shouted : List Call :=
  [.setContents (.text "A1") (.text "= B1 + (C * 2)"),
    .setContents (.text "B1") (.text "=1 E"),
    .query (.value (.text "A1")), .query (.recalculationOrder [.text "C", .text "1A"])]

theorem ignoresSpelling_capitals :
    List.Forall₂ (Call.Respelled Formula.capitals) whispered shouted ∧
    List.Forall₂ (SameUpTo (EditError.unspelled Formula.capitals))
      ((empty Formula.capitals defaultVersion).calls whispered).1
      ((empty Formula.capitals defaultVersion).calls shouted).1 ∧
    ((empty Formula.capitals defaultVersion).calls whispered).2 =
      ((empty Formula.capitals defaultVersion).calls shouted).2 ∧
    SameButCase "sum_a" "Sum_A" ∧
    Formula.capitals.normalize "sum_a" = Formula.capitals.normalize "Sum_A" := by
  have hproduct : Formula.Respelled Formula.capitals "b1+(c*2)" " B1 + (C * 2)" := by
    constructor <;> cbv
  have hrefused : Formula.Respelled Formula.capitals "1e" "1 E" := by
    constructor <;> cbv
  have hcalls : List.Forall₂ (Call.Respelled Formula.capitals) whispered shouted := by
    refine .cons (.formula ?_ hproduct) (.cons (.formula ?_ hrefused)
      (.cons (.named ?_) (.cons (.named ?_) .nil)))
    all_goals cbv
  have hcase : SameButCase "sum_a" "Sum_A" := by constructor <;> simp
  have hsheet := ignoresSpelling (empty Formula.capitals defaultVersion)
  obtain ⟨hanswers, hsame⟩ := hsheet.respelled whispered shouted hcalls
  exact ⟨hcalls, hanswers, hsame, hcase, hsheet.cased (.inl rfl) _ _ hcase⟩

end Sheet

end Recalc
