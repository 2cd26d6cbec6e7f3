import Recalc.Proofs.Sheet.Extent
import Recalc.Proofs.Sheet.History

/-!
# Entries in any order

Cells are entered one after another into an empty sheet. When no two entries are for one cell, this
succeeds exactly when every name and every text can be entered and no cell would reference itself,
directly or through others. The order of the entries plays no part: whatever references are still
to come, the entries up to now hold a part of the references of all.
-/

namespace Recalc.Sheet

open Relation

variable {naming : Naming} {done rest entries other : List (String × String)} {s s' t t' : Sheet}
  {name text k u : String} {version : CodePoints} {c : Contents} {order : List String}

/-- Some entry puts the contents into the cell. -/
def Puts (naming : Naming) (entries : List (String × String)) (k : String) (c : Contents) : Prop :=
  ∃ entry ∈ entries, naming.canonical? entry.1 = some k ∧ Contents.ofText naming entry.2 = .ok c

/-- The formula that some entry puts into the cell `t` mentions `u`. -/
def Mentions (naming : Naming) (entries : List (String × String)) (t u : String) : Prop :=
  ∃ f, Puts naming entries t (.formula f) ∧ u ∈ f.variableSet

/-- Every name and every text can be entered, and no cell would reference itself. -/
structure Enterable (naming : Naming) (entries : List (String × String)) : Prop where
  name : ∀ entry ∈ entries, ∃ k, naming.canonical? entry.1 = some k
  text : ∀ entry ∈ entries, ∃ c, Contents.ofText naming entry.2 = .ok c
  acyclic : ∀ k, ¬TransGen (Mentions naming entries) k k

/-- No two names have the same normal form. -/
def Distinct (naming : Naming) (entries : List (String × String)) : Prop :=
  (entries.map fun entry => naming.normalize entry.1).Nodup

/-- The sheet has the cells that the entries put into it, and no others. -/
structure Filled (naming : Naming) (entries : List (String × String)) (t : Sheet) : Prop where
  consistent : t.Consistent
  naming_eq : t.naming = naming
  contents_iff : ∀ (k : String) c, t.cells[k]?.map Cell.contents = some c ↔
    Puts naming entries k c ∧ c.isEmpty = false

/-! ### Entries and their references -/

lemma Puts.mono (h : Puts naming done k c) (hsub : done ⊆ entries) : Puts naming entries k c := by
  obtain ⟨entry, hentry, hputs⟩ := h
  exact ⟨entry, hsub hentry, hputs⟩

lemma Mentions.mono (h : Mentions naming done k u) (hsub : done ⊆ entries) :
    Mentions naming entries k u := by
  obtain ⟨f, hputs, hu⟩ := h
  exact ⟨f, hputs.mono hsub, hu⟩

lemma puts_concat : Puts naming (done ++ [(name, text)]) k c ↔
    Puts naming done k c ∨
      naming.canonical? name = some k ∧ Contents.ofText naming text = .ok c := by
  simp only [Puts, List.mem_append, List.mem_singleton, or_and_right, exists_or, exists_eq_left]

/-- Before it is entered, a cell has no contents. -/
lemma Distinct.not_puts (hd : Distinct naming (done ++ (name, text) :: rest))
    (hn : naming.canonical? name = some k) : ¬Puts naming done k c := by
  rintro ⟨entry, hentry, hk, -⟩
  have hsame : naming.normalize entry.1 = naming.normalize name := by
    rw [(Formula.canonical?_eq_some_iff.mp hk).1, (Formula.canonical?_eq_some_iff.mp hn).1]
  rw [Distinct, List.map_append, List.map_cons, List.nodup_append] at hd
  exact hd.2.2 _ (List.mem_map_of_mem hentry) _ List.mem_cons_self hsame

lemma Filled.references_iff (h : Filled naming entries t) :
    t.cells.References k u ↔ Mentions naming entries k u := by
  constructor
  · rintro ⟨f, hf, hu⟩
    exact ⟨f, ((h.contents_iff k _).mp hf).1, hu⟩
  · rintro ⟨f, hf, hu⟩
    exact ⟨f, (h.contents_iff k _).mpr ⟨hf, rfl⟩, hu⟩

lemma Filled.mentions_of_store (h : Filled naming done t) (hn : naming.canonical? name = some k)
    (hc : Contents.ofText naming text = .ok c) {v : String}
    (href : (t.cells.store k c).References v u) :
    Mentions naming (done ++ [(name, text)]) v u := by
  rcases Cells.references_store.mp href with ⟨rfl, hu⟩ | ⟨-, hold⟩
  · obtain ⟨f, rfl, hu⟩ := Contents.mem_variableSet_iff.mp hu
    exact ⟨f, puts_concat.mpr (.inr ⟨hn, hc⟩), hu⟩
  · exact (h.references_iff.mp hold).mono (List.subset_append_left done _)

/-! ### One entry -/

lemma checkName_text_iff :
    s.checkName (.text name) = .ok k ↔ s.naming.canonical? name = some k := by
  simp only [checkName, Datum.text?]
  split
  next heq => rw [heq, Except.ok.injEq, Option.some.injEq]
  next heq => simp [heq]

/-- An entry that is accepted adds its cell. -/
lemma Filled.setContents (h : Filled naming done t)
    (hd : Distinct naming (done ++ (name, text) :: rest))
    (hset : t.setContents (.text name) (.text text) = (.ok order, t')) :
    Filled naming (done ++ [(name, text)]) t' ∧ (∃ k, naming.canonical? name = some k) ∧
      ∃ c, Contents.ofText naming text = .ok c := by
  have hconsistent := h.consistent.setContents (.text name) (.text text)
  obtain ⟨text', n, c, htext, hn, hc, htouches⟩ := h.consistent.touches (congrArg Prod.fst hset)
  cases htext
  rw [hset] at hconsistent htouches
  rw [checkName_text_iff, h.naming_eq] at hn
  rw [h.naming_eq] at hc
  refine ⟨⟨hconsistent, htouches.naming_eq.trans h.naming_eq, fun k c' => ?_⟩, ⟨n, hn⟩, c, hc⟩
  rw [puts_concat]
  by_cases hk : k = n
  · subst hk
    have hnew : ¬Puts naming done k c' := hd.not_puts hn
    rw [htouches.contents_self, hn, hc]
    have hempty := Contents.isEmpty_iff_of_ofText hc
    grind
  · have hother : ¬(naming.canonical? name = some k ∧ Contents.ofText naming text = .ok c') := by
      rintro ⟨hname, -⟩
      rw [hn, Option.some.injEq] at hname
      exact hk hname.symm
    rw [htouches.contents_of_ne k hk, h.contents_iff, or_iff_left hother]

/-- An entry that closes no cycle is accepted. -/
lemma Filled.exists_setContents (h : Filled naming done t) (hn : naming.canonical? name = some k)
    (hc : Contents.ofText naming text = .ok c)
    (hacyclic : ∀ j, ¬TransGen (Mentions naming (done ++ [(name, text)])) j j) :
    ∃ order t', t.setContents (.text name) (.text text) = (.ok order, t') := by
  have hset : t.setContents (.text name) (.text text) = t.commit k c := by
    refine setContents_eq_commit (checkName_text_iff.mpr ?_) ?_
    · rwa [h.naming_eq]
    · rwa [h.naming_eq]
  obtain ⟨order, hdone⟩ := h.consistent.exists_commit fun j hloop =>
    hacyclic j (TransGen.mono (fun v u href => h.mentions_of_store hn hc href) _ _ hloop)
  exact ⟨order, _, hset.trans hdone⟩

/-! ### All entries -/

lemma filled_empty (naming : Naming) (version : CodePoints) :
    Filled naming [] (empty naming version) :=
  ⟨consistent_empty naming version, rfl, fun k c => by simp [empty, Puts]⟩

lemma Filled.of_enterAll (h : Filled naming done t) (hd : Distinct naming (done ++ rest))
    (henter : t.enterAll rest = .ok s) :
    Filled naming (done ++ rest) s ∧ ∀ entry ∈ rest,
      (∃ k, naming.canonical? entry.1 = some k) ∧ ∃ c, Contents.ofText naming entry.2 = .ok c := by
  induction rest generalizing done t with
  | nil =>
    cases henter
    rw [List.append_nil]
    exact ⟨h, by simp⟩
  | cons entry rest ih =>
    obtain ⟨name, text⟩ := entry
    rw [enterAll] at henter
    split at henter
    next order t' hset =>
      obtain ⟨hnext, hentry⟩ := h.setContents hd hset
      rw [List.append_cons] at hd ⊢
      obtain ⟨hfilled, hrest⟩ := ih hnext hd henter
      exact ⟨hfilled, List.forall_mem_cons.mpr ⟨hentry, hrest⟩⟩
    next => cases henter

lemma Filled.exists_enterAll (h : Filled naming done t) (hd : Distinct naming (done ++ rest))
    (hall : Enterable naming (done ++ rest)) : ∃ s, t.enterAll rest = .ok s := by
  induction rest generalizing done t with
  | nil => exact ⟨t, rfl⟩
  | cons entry rest ih =>
    obtain ⟨name, text⟩ := entry
    have hmem : (name, text) ∈ done ++ (name, text) :: rest := by simp
    obtain ⟨k, hk⟩ := hall.name _ hmem
    obtain ⟨c, hc⟩ := hall.text _ hmem
    have hsub : done ++ [(name, text)] ⊆ done ++ (name, text) :: rest := by
      rw [List.append_cons done (name, text) rest]
      exact List.subset_append_left _ rest
    obtain ⟨order, t', hset⟩ := h.exists_setContents hk hc fun j hloop =>
      hall.acyclic j (TransGen.mono (fun v u hmentions => hmentions.mono hsub) _ _ hloop)
    obtain ⟨hnext, -⟩ := h.setContents hd hset
    rw [List.append_cons] at hd hall
    rw [enterAll, hset]
    exact ih hnext hd hall

/-- Entries can be entered one after another exactly when nothing stands against all of them. -/
lemma exists_enterAll_iff (hd : Distinct naming entries) :
    (∃ s, (empty naming version).enterAll entries = .ok s) ↔ Enterable naming entries := by
  constructor
  · rintro ⟨s, henter⟩
    obtain ⟨hfilled, hentries⟩ := (filled_empty naming version).of_enterAll hd henter
    refine ⟨fun entry h => (hentries entry h).1, fun entry h => (hentries entry h).2, fun k => ?_⟩
    have hrefs : Mentions naming entries = s.cells.References := by
      funext t u
      exact propext hfilled.references_iff.symm
    rw [hrefs]
    exact hfilled.consistent.not_transGen_references k
  · intro hall
    exact (filled_empty naming version).exists_enterAll hd hall

/-! ### Other orders of the entries -/

lemma puts_perm (h : entries.Perm other) : Puts naming entries = Puts naming other := by
  funext k c
  simp only [Puts, h.mem_iff]

lemma enterable_perm (h : entries.Perm other) :
    Enterable naming entries ↔ Enterable naming other := by
  have hmentions : Mentions naming entries = Mentions naming other := by
    funext t u
    rw [Mentions, Mentions, puts_perm h]
  constructor
  · rintro ⟨hname, htext, hacyclic⟩
    exact ⟨fun entry he => hname entry (h.mem_iff.mpr he),
      fun entry he => htext entry (h.mem_iff.mpr he), hmentions ▸ hacyclic⟩
  · rintro ⟨hname, htext, hacyclic⟩
    exact ⟨fun entry he => hname entry (h.mem_iff.mp he),
      fun entry he => htext entry (h.mem_iff.mp he), hmentions ▸ hacyclic⟩

lemma Distinct.perm (hd : Distinct naming entries) (h : entries.Perm other) :
    Distinct naming other :=
  (h.map _).nodup_iff.mp hd

/-- The entries alone determine the cells and the dependencies. -/
lemma Filled.eq_of_perm (hs : Filled naming entries s) (hs' : Filled naming other s')
    (h : entries.Perm other) : s'.cells = s.cells ∧ s'.graph.Alike s.graph := by
  have hcells : s'.cells = s.cells := by
    refine hs'.consistent.cells_eq hs.consistent fun k => Option.ext fun c => ?_
    rw [hs'.contents_iff, hs.contents_iff, puts_perm h]
  exact ⟨hcells, hs'.consistent.alike hs.consistent hcells⟩

/-- Entries for different cells can be entered exactly when all names and texts can be and no cell
would reference itself. In every other order the same happens, and the same sheet is the result. -/
theorem enterAll_of_distinct (naming : Naming) (version : CodePoints)
    {entries : List (String × String)} (hd : Distinct naming entries) :
    ((∃ s, (empty naming version).enterAll entries = .ok s) ↔ Enterable naming entries) ∧
    ∀ other, entries.Perm other →
      (∀ s, (empty naming version).enterAll entries = .ok s →
        ∃ s', (empty naming version).enterAll other = .ok s' ∧
          s'.cells = s.cells ∧ s'.graph.Alike s.graph) ∧
      ∀ e, (empty naming version).enterAll entries = .error e →
        ∃ e', (empty naming version).enterAll other = .error e' := by
  refine ⟨exists_enterAll_iff hd, fun other hperm => ⟨fun s henter => ?_, fun e henter => ?_⟩⟩
  · have hother := (enterable_perm hperm).mp ((exists_enterAll_iff hd).mp ⟨s, henter⟩)
    obtain ⟨s', henter'⟩ := (exists_enterAll_iff (hd.perm hperm)).mpr hother
    obtain ⟨hs, -⟩ := (filled_empty naming version).of_enterAll hd henter
    obtain ⟨hs', -⟩ := (filled_empty naming version).of_enterAll (hd.perm hperm) henter'
    exact ⟨s', henter', hs.eq_of_perm hs' hperm⟩
  · cases henter' : (empty naming version).enterAll other with
    | error e' => exact ⟨e', rfl⟩
    | ok s' =>
      have hother := (exists_enterAll_iff (hd.perm hperm)).mp ⟨s', henter'⟩
      obtain ⟨s, hs⟩ : ∃ s, (empty naming version).enterAll entries = .ok s :=
        (exists_enterAll_iff hd).mpr ((enterable_perm hperm).mpr hother)
      rw [henter] at hs
      cases hs

/-- The first cell mentions the two that are entered after it. -/
def forwardEntries : List (String × String) :=
  [("a", "=b*c"), ("c", "=b"), ("b", "x")]

theorem enterAll_forwardEntries : Distinct .free forwardEntries ∧
    (∃ s, (empty .free defaultVersion).enterAll forwardEntries = .ok s) ∧
    Enterable .free forwardEntries ∧
    ∃ s, (empty .free defaultVersion).enterAll forwardEntries.reverse = .ok s := by
  have hd : Distinct .free forwardEntries := by
    rw [Distinct]
    decide
  obtain ⟨hiff, horders⟩ := enterAll_of_distinct .free defaultVersion hd
  obtain ⟨s, hs⟩ : ∃ s, (empty .free defaultVersion).enterAll forwardEntries = .ok s :=
    ⟨_, by cbv⟩
  obtain ⟨s', hs', -⟩ := (horders _ (List.reverse_perm _).symm).1 s hs
  exact ⟨hd, ⟨s, hs⟩, hiff.mp ⟨s, hs⟩, s', hs'⟩

end Recalc.Sheet
