import Recalc.Proofs.Sheet.Reachable

/-!
# Entered cells

What a reachable sheet stores was entered as a text, under a name that is the normal form of one.
Whatever holds of the empty sheets and is kept by edits holds of every reachable sheet.
-/

namespace Recalc

variable {naming : Naming} {text : String} {contents : Contents} {f : Formula} {x : Float}

lemma Contents.ofOtherText_cases (h : ofOtherText naming text = .ok contents) :
    contents = .text text ∨
      ∃ f rest, contents = .formula f ∧ Formula.parse rest naming = .ok f := by
  unfold ofOtherText at h
  split at h
  next rest _ =>
    split at h
    next f hf =>
      cases h
      exact .inr ⟨f, _, rfl, hf⟩
    next => cases h
  next =>
    cases h
    exact .inl rfl

/-- Entered contents are the text itself, a finite number or a formula. -/
lemma Contents.ofText_cases (h : ofText naming text = .ok contents) :
    contents = .text text ∨ (∃ x, contents = .number x ∧ Number.isFinite x = true) ∨
      ∃ f rest, contents = .formula f ∧ Formula.parse rest naming = .ok f := by
  have hother (h : ofOtherText naming text = .ok contents) := ofOtherText_cases h
  unfold ofText at h
  split at h
  next x _ =>
    split at h
    next => cases h
    split at h
    next hfinite =>
      cases h
      exact .inr (.inl ⟨x, rfl, hfinite⟩)
    next => exact (hother h).imp_right .inr
  next => exact (hother h).imp_right .inr

/-- A formula that was entered was read from a text. -/
lemma Contents.exists_parse (h : ofText naming text = .ok (.formula f)) :
    ∃ rest, Formula.parse rest naming = .ok f := by
  rcases ofText_cases h with heq | ⟨x, heq, -⟩ | ⟨f', rest, heq, hparse⟩
  · cases heq
  · cases heq
  · cases heq
    exact ⟨rest, hparse⟩

namespace Sheet

variable {s s' : Sheet} {P : Sheet → Prop}

/-! ### Reachable sheets -/

/-- A sheet is loaded by entering the cells that a file stores. -/
lemma exists_enterAll_of_load {disk : Disk} {path : CodePoints} {version : CodePoints}
    (h : load disk path naming version = .ok s) :
    ∃ stored s', StoredSheet.read disk path = .ok stored ∧ stored.version = version ∧
      (empty naming version).enterAll stored.cells = .ok s' ∧ s = { s' with changed := false } := by
  unfold load at h
  cases hread : StoredSheet.read disk path with
  | error e =>
    rw [hread] at h
    cases h
  | ok stored =>
    rw [hread] at h
    simp only [bind, Except.bind] at h
    split at h
    next => cases h
    next hversion =>
      simp only [pure, Except.pure] at h
      split at h
      next s' hentered =>
        cases h
        exact ⟨stored, s', rfl, not_not.mp hversion, hentered, rfl⟩
      next => cases h
      next => cases h

lemma of_enterAll (hset : ∀ (s : Sheet) name contents, P s → P (s.setContents name contents).2)
    {stored : List (String × String)} (hs : P s) (h : s.enterAll stored = .ok s') : P s' := by
  induction stored generalizing s with
  | nil =>
    cases h
    exact hs
  | cons entry rest ih =>
    obtain ⟨name, text⟩ := entry
    have hnext := hset s (.text name) (.text text) hs
    rw [Sheet.enterAll] at h
    split at h
    next hdone =>
      rw [hdone] at hnext
      exact ih hnext h
    next => cases h

/-- What edits keep and the mark of changes has no part in holds of every reachable sheet. -/
theorem Reachable.of_edits (hempty : ∀ naming version, P (Sheet.empty naming version))
    (hset : ∀ (s : Sheet) name contents, P s → P (s.setContents name contents).2)
    (hmark : ∀ (s : Sheet) changed, P s → P { s with changed := changed }) (hs : s.Reachable) :
    P s := by
  induction hs with
  | empty naming version => exact hempty naming version
  | setContents _ name contents ih => exact hset _ name contents ih
  | load h =>
    obtain ⟨stored, s', -, -, hentered, rfl⟩ := exists_enterAll_of_load h
    exact hmark s' false (of_enterAll hset (hempty _ _) hentered)
  | save _ path disk ih =>
    obtain ⟨changed, hsaved⟩ := exists_save_eq_mark _ path disk
    rw [hsaved]
    exact hmark _ changed ih

/-! ### What is stored -/

/-- The cells hold what texts enter, under names in normal form. -/
structure Entered (s : Sheet) : Prop where
  contents : ∀ (k : String) (cell : Cell), s.cells[k]? = some cell →
    ∃ text, Contents.ofText s.naming text = .ok cell.contents
  name : ∀ k ∈ s.cells, ∃ given, s.naming.canonical? given = some k

lemma Entered.commit {n : String} (hs : s.Entered)
    (hn : ∃ given, s.naming.canonical? given = some n)
    (hc : Contents.ofText s.naming text = .ok contents) : (s.commit n contents).2.Entered := by
  rcases s.commit_cases n contents with ⟨cycle, -, hrefused⟩ | ⟨order, -, hdone⟩
  · rw [hrefused]
    exact ⟨hs.contents, hs.name⟩
  · rw [hdone]
    constructor
    · intro k cell hcell
      obtain ⟨before, hbefore, hsame⟩ := Cells.exists_of_foldl hcell
      rw [← hsame]
      by_cases hk : k = n
      · subst hk
        have hstored :
            (if contents.isEmpty then none else some contents) = some before.contents := by
          rw [← Cells.map_contents_store_self, hbefore, Option.map_some]
        split at hstored
        next => cases hstored
        next =>
          cases hstored
          exact ⟨text, hc⟩
      · rw [Cells.getElem?_store_of_ne hk] at hbefore
        exact hs.contents k before hbefore
    · intro k hk
      rcases Cells.mem_store (Cells.mem_of_foldl hk) with rfl | hk
      · exact hn
      · exact hs.name k hk

lemma exists_canonical_of_checkName {name : Datum} {n : String} (h : s.checkName name = .ok n) :
    ∃ given, name.text? = some given ∧ s.naming.canonical? given = some n := by
  unfold checkName at h
  split at h
  next => cases h
  next given hgiven =>
    split at h
    next hnormal =>
      cases h
      exact ⟨given, hgiven, hnormal⟩
    next => cases h

theorem Reachable.entered (hs : s.Reachable) : s.Entered := by
  refine hs.of_edits (fun naming version => ⟨?_, ?_⟩) ?_ fun s changed hs => ⟨hs.contents, hs.name⟩
  · intro k cell h
    simp [Sheet.empty] at h
  · intro k h
    exact absurd h Std.ExtTreeMap.not_mem_empty
  · intro s name entered hs
    rcases s.setContents_cases name entered with ⟨e, hrefused⟩ | ⟨text, n, c, hn, hc, hcommit⟩
    · rw [hrefused]
      exact hs
    · obtain ⟨given, -, hnormal⟩ := exists_canonical_of_checkName hn
      rw [hcommit]
      exact hs.commit ⟨given, hnormal⟩ hc

end Sheet

end Recalc
