import Mathlib.Tactic.Common
import Recalc.Log.Clipping

/-!
# Clipped contexts

Clipping does the same thing at every part of a datum, however deep it is: a text of more than 256
characters is cut there and marked, and keys, lengths and all other data stay as they are. No other
datum comes from the first one in this way. So what was clipped is its own clipped form, and whether
an event says what it is about can be told before or after its context is clipped.
-/

namespace Recalc

variable {s : CodePoints}

/-! ### Clipped texts -/

lemma clipText_of_length_le (h : s.length ≤ 256) : clipText s = s := if_pos h

lemma clipText_of_lt (h : 256 < s.length) : clipText s = s.take 256 ++ "...[truncated]" :=
  if_neg (Nat.not_le.mpr h)

lemma length_take_of_lt (h : 256 < s.length) : (s.take 256).length = 256 := by
  rw [List.length_take, Nat.min_eq_left (Nat.le_of_lt h)]

lemma length_clipText_of_lt (h : 256 < s.length) : (clipText s).length = 270 := by
  have hmark : (CodePoints.ofString "...[truncated]").length = 14 := by decide
  rw [clipText_of_lt h, List.length_append, length_take_of_lt h, hmark]

lemma length_clipText_le (s : CodePoints) : (clipText s).length ≤ 270 := by
  by_cases h : s.length ≤ 256
  · rw [clipText_of_length_le h]
    omega
  · exact Nat.le_of_eq (length_clipText_of_lt (Nat.not_le.mp h))

/-- A text that was cut is still too long, but it is cut and marked at the same place again. -/
lemma clipText_clipText (s : CodePoints) : clipText (clipText s) = clipText s := by
  by_cases h : s.length ≤ 256
  · rw [clipText_of_length_le h, clipText_of_length_le h]
  · have hlong : 256 < s.length := Nat.not_le.mp h
    have hagain : 256 < (clipText s).length := by
      rw [length_clipText_of_lt hlong]
      omega
    rw [clipText_of_lt hagain, clipText_of_lt hlong, List.take_left' (length_take_of_lt hlong)]

/-! ### Clipped lists and entries -/

lemma clipItems_eq_map (items : List (Datum CodePoints)) :
    clipItems items = items.map Datum.clip := by
  induction items with
  | nil => rfl
  | cons d rest ih => rw [clipItems, ih, List.map_cons]

lemma clipEntries_cons (entry : Datum CodePoints × Datum CodePoints) (rest : Datum.Entries) :
    clipEntries (entry :: rest) = (entry.1, entry.2.clip) :: clipEntries rest := rfl

lemma clipEntries_eq_map (entries : Datum.Entries) :
    clipEntries entries = entries.map fun entry => (entry.1, entry.2.clip) := by
  induction entries with
  | nil => rfl
  | cons entry rest ih => rw [clipEntries_cons, ih, List.map_cons]

lemma find?_clipEntries (entries : Datum.Entries) (key : CodePoints) :
    Datum.Entries.find? (clipEntries entries) key = (entries.find? key).map Datum.clip := by
  induction entries with
  | nil => rfl
  | cons entry rest ih =>
    rw [clipEntries_cons, Datum.Entries.find?, Datum.Entries.find?, ih]
    split <;> rfl

lemma clipEntries_insert (entries : Datum.Entries) (key value : Datum CodePoints) :
    clipEntries (entries.insert key value) =
      Datum.Entries.insert (clipEntries entries) key value.clip := by
  induction entries with
  | nil => rfl
  | cons entry rest ih =>
    rw [clipEntries_cons, Datum.Entries.insert, Datum.Entries.insert, apply_ite clipEntries,
      clipEntries_cons, clipEntries_cons, ih]

namespace Datum

/-! ### Parts of data -/

/-- One step into a datum: to an item of a list or to the value of an entry of a mapping. -/
inductive Step where
  | item (i : Nat)
  | value (i : Nat)

def step? : Datum CodePoints → Step → Option (Datum CodePoints)
  | .list items, .item i => items[i]?
  | .map entries, .value i => entries[i]?.map Prod.snd
  | _, _ => none

/-- The part of a datum to which the steps of a path lead, at any depth. -/
def part? (d : Datum CodePoints) : List Step → Option (Datum CodePoints)
  | [] => some d
  | step :: path => (d.step? step).bind (part? · path)

/-- Neither a text nor made of parts. -/
def IsLeaf : Datum CodePoints → Prop
  | .text _ | .list _ | .map _ => False
  | _ => True

/-- One datum is another one whose long texts are cut short, at any depth. -/
structure Shortened (before after : Datum CodePoints) : Prop where
  keys_eq : ∀ path entries, before.part? path = some (.map entries) →
    ∃ entries', after.part? path = some (.map entries') ∧
      entries'.map Prod.fst = entries.map Prod.fst
  length_eq : ∀ path items, before.part? path = some (.list items) →
    ∃ items', after.part? path = some (.list items') ∧ items'.length = items.length
  leaf_eq : ∀ path leaf, before.part? path = some leaf → leaf.IsLeaf →
    after.part? path = some leaf
  short_eq : ∀ path s, before.part? path = some (.text s) → s.length ≤ 256 →
    after.part? path = some (.text s)
  /-- Of a longer text the first 256 code points are left, and the mark. -/
  long_eq : ∀ path s, before.part? path = some (.text s) → 256 < s.length →
    after.part? path = some (.text (s.take 256 ++ "...[truncated]"))

variable {d e before after : Datum CodePoints} {items : List (Datum CodePoints)} {entries : Entries}
  {entry : Datum CodePoints × Datum CodePoints} {step : Step} {path : List Step}

@[simp]
lemma part?_nil (d : Datum CodePoints) : d.part? [] = some d := rfl

@[simp]
lemma part?_cons (d : Datum CodePoints) (step : Step) (path : List Step) :
    d.part? (step :: path) = (d.step? step).bind (part? · path) := rfl

lemma step?_item {i : Nat} (hi : i < items.length) :
    (list items).step? (.item i) = some items[i] :=
  List.getElem?_eq_getElem hi

lemma step?_value {i : Nat} (hi : i < entries.length) :
    (map entries).step? (.value i) = some entries[i].2 := by
  rw [step?, List.getElem?_eq_getElem hi, Option.map_some]

lemma sizeOf_lt_of_mem_items (h : d ∈ items) : sizeOf d < sizeOf (list items) := by
  have hlt := List.sizeOf_lt_of_mem h
  rw [list.sizeOf_spec]
  omega

lemma sizeOf_lt_of_mem_entries (h : entry ∈ entries) : sizeOf entry.2 < sizeOf (map entries) := by
  obtain ⟨key, value⟩ := entry
  change sizeOf value < _
  have hlt := List.sizeOf_lt_of_mem h
  rw [Prod.mk.sizeOf_spec] at hlt
  rw [map.sizeOf_spec]
  omega

/-! ### Clipping part by part -/

lemma clip_of_isLeaf (h : d.IsLeaf) : d.clip = d := by
  cases d with
  | text | list | map => exact h.elim
  | null | bool | integer | real | moment | bytes | tuple | set => rfl

/-- What is a text when it is clipped was one before. -/
lemma exists_text_of_clip (h : d.clip = .text s) : ∃ t, d = .text t ∧ clipText t = s := by
  cases d with
  | text t => exact ⟨t, rfl, text.inj h⟩
  | null | bool | integer | real | moment | bytes | list | tuple | set | map => cases h

lemma step?_clip (d : Datum CodePoints) (step : Step) :
    d.clip.step? step = (d.step? step).map clip := by
  cases d with
  | list items =>
    cases step with
    | item i => simp [clip, step?, clipItems_eq_map]
    | value i => rfl
  | map entries =>
    cases step with
    | item i => rfl
    | value i => simp [clip, step?, clipEntries_eq_map, Function.comp_def]
  | null | bool | integer | real | text | moment | bytes | tuple | set => rfl

/-- The parts of a clipped datum are the clipped parts. -/
lemma part?_clip (d : Datum CodePoints) (path : List Step) :
    d.clip.part? path = (d.part? path).map clip := by
  induction path generalizing d with
  | nil => rfl
  | cons step rest ih =>
    rw [part?_cons, part?_cons, step?_clip]
    cases d.step? step with
    | none => rfl
    | some e => exact ih e

lemma part?_clip_of_part? (h : d.part? path = some e) : d.clip.part? path = some e.clip := by
  rw [part?_clip, h, Option.map_some]

lemma exists_text_of_part?_clip (h : d.clip.part? path = some (.text s)) :
    ∃ t, clipText t = s := by
  rw [part?_clip] at h
  obtain ⟨e, -, he⟩ := Option.map_eq_some_iff.mp h
  obtain ⟨t, -, ht⟩ := exists_text_of_clip he
  exact ⟨t, ht⟩

lemma shortened_clip (d : Datum CodePoints) : d.Shortened d.clip := by
  constructor
  · intro path entries h
    exact ⟨_, part?_clip_of_part? h, by simp [clipEntries_eq_map]⟩
  · intro path items h
    exact ⟨_, part?_clip_of_part? h, by simp [clipItems_eq_map]⟩
  · intro path leaf h hleaf
    rw [part?_clip_of_part? h, clip_of_isLeaf hleaf]
  · intro path s h hshort
    rw [part?_clip_of_part? h, clip, clipText_of_length_le hshort]
  · intro path s h hlong
    rw [part?_clip_of_part? h, clip, clipText_of_lt hlong]

/-- A clipped datum has no text that would become another one. -/
lemma shortened_clip_clip (d : Datum CodePoints) : d.clip.Shortened d.clip := by
  constructor
  · intro path entries h
    exact ⟨entries, h, rfl⟩
  · intro path items h
    exact ⟨items, h, rfl⟩
  · intro path leaf h _
    exact h
  · intro path s h _
    exact h
  · intro path s h hlong
    obtain ⟨t, rfl⟩ := exists_text_of_part?_clip h
    rw [← clipText_of_lt hlong, clipText_clipText]
    exact h

/-! ### The only way to shorten -/

lemma Shortened.of_step (h : Shortened before after) (hbefore : before.step? step = some d)
    (hafter : after.step? step = some e) : Shortened d e := by
  have hd : ∀ path, before.part? (step :: path) = d.part? path := by simp [hbefore]
  have he : ∀ path, after.part? (step :: path) = e.part? path := by simp [hafter]
  constructor
  · intro path entries hpart
    simpa only [he] using h.keys_eq (step :: path) entries (by rwa [hd])
  · intro path items hpart
    simpa only [he] using h.length_eq (step :: path) items (by rwa [hd])
  · intro path leaf hpart
    simpa only [he] using h.leaf_eq (step :: path) leaf (by rwa [hd])
  · intro path s hpart
    simpa only [he] using h.short_eq (step :: path) s (by rwa [hd])
  · intro path s hpart
    simpa only [he] using h.long_eq (step :: path) s (by rwa [hd])

lemma Shortened.eq_of_text (h : Shortened (.text s) after) : after = .text (clipText s) := by
  by_cases hshort : s.length ≤ 256
  · rw [clipText_of_length_le hshort]
    exact Option.some.inj (h.short_eq [] s rfl hshort)
  · have hlong : 256 < s.length := Nat.not_le.mp hshort
    rw [clipText_of_lt hlong]
    exact Option.some.inj (h.long_eq [] s rfl hlong)

lemma Shortened.eq_of_list (h : Shortened (.list items) after)
    (ih : ∀ d ∈ items, ∀ e, Shortened d e → e = d.clip) : after = .list (clipItems items) := by
  obtain ⟨items', hafter, hlength⟩ := h.length_eq [] items rfl
  cases hafter
  rw [clipItems_eq_map]
  congr 1
  refine List.ext_getElem (by rw [hlength, List.length_map]) fun i hi' _ => ?_
  have hi : i < items.length := hlength ▸ hi'
  have hitem : Shortened items[i] items'[i] := h.of_step (step?_item hi) (step?_item hi')
  rw [List.getElem_map]
  exact ih _ (List.getElem_mem hi) _ hitem

lemma Shortened.eq_of_map (h : Shortened (.map entries) after)
    (ih : ∀ entry ∈ entries, ∀ e, Shortened entry.2 e → e = entry.2.clip) :
    after = .map (clipEntries entries) := by
  obtain ⟨entries', hafter, hkeys⟩ := h.keys_eq [] entries rfl
  cases hafter
  have hlength : entries'.length = entries.length := by simpa using congrArg List.length hkeys
  rw [clipEntries_eq_map]
  congr 1
  refine List.ext_getElem (by rw [hlength, List.length_map]) fun i hi' _ => ?_
  have hi : i < entries.length := hlength ▸ hi'
  have hkey : entries'[i].1 = entries[i].1 := by
    have hfst : i < (entries'.map Prod.fst).length := by rwa [List.length_map]
    have heq := List.getElem_of_eq hkeys hfst
    rwa [List.getElem_map, List.getElem_map] at heq
  have hvalue : Shortened entries[i].2 entries'[i].2 := h.of_step (step?_value hi) (step?_value hi')
  rw [List.getElem_map]
  exact Prod.ext hkey (ih _ (List.getElem_mem hi) _ hvalue)

/-- Nothing but the clipped datum is the datum with its long texts cut short. -/
lemma Shortened.eq_clip {before after : Datum CodePoints} (h : Shortened before after) :
    after = before.clip := by
  match before with
  | .text s => exact h.eq_of_text
  | .list items => exact h.eq_of_list fun d hd e hde => hde.eq_clip
  | .map entries => exact h.eq_of_map fun entry hentry e hde => hde.eq_clip
  | .null | .bool _ | .integer _ | .real _ | .moment _ | .bytes _ | .tuple _ | .set _ =>
    exact Option.some.inj (h.leaf_eq [] _ rfl trivial)
termination_by sizeOf before
decreasing_by
  · exact sizeOf_lt_of_mem_items hd
  · exact sizeOf_lt_of_mem_entries hentry

/-- To clip once more changes nothing. -/
lemma clip_clip (d : Datum CodePoints) : d.clip.clip = d.clip :=
  (shortened_clip_clip d).eq_clip.symm

end Datum

/-! ### Attribution -/

namespace Event

lemma missingKey?_clipped (e : Event) : e.clipped.missingKey? = e.missingKey? := by
  have hkind : e.clipped.kind = e.kind := rfl
  have hcontext : e.clipped.context = clipEntries e.context := rfl
  simp only [missingKey?, hkind, hcontext, find?_clipEntries, Option.isNone_map]

lemma length_of_missingKey? {e : Event} {key : String} (h : e.missingKey? = some key) :
    (CodePoints.ofString key).length ≤ 256 := by
  have hrequired := (Option.filter_eq_some_iff.mp h).1
  cases hkind : e.kind with
  | cellUpdated | circularRejected | formulaRejected | sheetSaved | sheetLoaded | sheetFailed =>
    rw [hkind, EventKind.requiredKey?] at hrequired
    cases hrequired <;> decide

/-- The key that is missing is named in the same way before and after clipping. -/
lemma attributed_clipped (e : Event) : e.clipped.attributed = e.attributed.clipped := by
  rw [attributed, attributed, missingKey?_clipped]
  cases hkey : e.missingKey? with
  | none => rfl
  | some key =>
    have hnamed : (Datum.list [.text (CodePoints.ofString key)]).clip = .list [.text key] := by
      rw [Datum.clip, clipItems, Datum.clip, clipText_of_length_le (length_of_missingKey? hkey)]
      rfl
    have hcontext := clipEntries_insert e.context (.text "_missing_attribution")
      (.list [.text key])
    rw [hnamed] at hcontext
    simp only [clipped, hcontext]

end Event

/-! ### Contexts -/

/-- How a context is clipped. -/
structure ClipsContext (context : Datum.Entries) : Prop where
  clipEntries_eq : clipEntries (clipEntries context) = clipEntries context
  shortened : Datum.Shortened (.map context) (.map (clipEntries context))
  /-- That keys, lengths, leaves and texts are as they should be leaves nothing open. -/
  eq_of_shortened : ∀ after, Datum.Shortened (.map context) after →
    after = .map (clipEntries context)
  /-- Cut texts are longer than what is kept whole, but by the mark only. -/
  length_le : ∀ path s, (Datum.map (clipEntries context)).part? path = some (.text s) →
    s.length ≤ 270
  missingKey?_eq : ∀ e : Event, e.context = context → e.clipped.missingKey? = e.missingKey?
  attributed_eq : ∀ e : Event, e.context = context → e.clipped.attributed = e.attributed.clipped

end Recalc
