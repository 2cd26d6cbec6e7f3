import Recalc.Proofs.Json.Values

/-!
# Sorted keys

Sorting the keys of all objects changes neither the value of a key nor the limits that the data
keep. The data before and after are the same, whatever the order of entries.
-/

namespace Recalc

namespace Datum

/-! ### Data that are the same -/

mutual
/-- The data are the same: lists item by item, mappings key by key, whatever the order of their
entries. -/
def Same : Datum CodePoints → Datum CodePoints → Prop
  | .list items, .list items' => SameItems items items'
  | .map entries, .map entries' => entries.length = entries'.length ∧ SameEntries entries entries'
  | d, d' => d = d'

def SameItems : List (Datum CodePoints) → List (Datum CodePoints) → Prop
  | [], [] => True
  | d :: rest, d' :: rest' => Same d d' ∧ SameItems rest rest'
  | _, _ => False

/-- Every entry has one with the same key and value among the others. -/
def SameEntries : Entries → Entries → Prop
  | [], _ => True
  | (k, v) :: rest, entries' => (∃ v', (k, v') ∈ entries' ∧ Same v v') ∧ SameEntries rest entries'
end

variable {items items' : List (Datum CodePoints)} {fields fields' : Fields} {entries : Entries}
  {k : CodePoints} {d v : Datum CodePoints}

lemma sameEntries_iff {entries' : Entries} : SameEntries entries entries' ↔
    ∀ entry ∈ entries, ∃ v', (entry.1, v') ∈ entries' ∧ Same entry.2 v' := by
  induction entries with
  | nil => simp [SameEntries]
  | cons entry rest ih => rw [SameEntries, ih, List.forall_mem_cons]

lemma same_record (hlength : fields.length = fields'.length)
    (h : ∀ field ∈ fields, ∃ v', (field.1, v') ∈ fields' ∧ Same field.2 v') :
    Same (.record fields) (.record fields') := by
  rw [record, record, Same, List.length_map, List.length_map, sameEntries_iff]
  refine ⟨hlength, List.forall_mem_map.mpr fun field hf => ?_⟩
  obtain ⟨v', hmem, hsame⟩ := h field hf
  exact ⟨v', List.mem_map.mpr ⟨(field.1, v'), hmem, rfl⟩, hsame⟩

/-! ### The value of a key -/

lemma find?_cons (k' : CodePoints) (v : Datum CodePoints) (rest : Entries) (key : CodePoints) :
    Entries.find? ((.text k', v) :: rest) key = if k' = key then some v else rest.find? key := by
  simp only [Entries.find?, text?, Option.some.injEq]

/-- With distinct keys, the value of a key does not depend on the order. -/
lemma find?_eq_some_iff (h : (fields.map Prod.fst).Nodup) :
    Entries.find? (Json.entriesOf fields) k = some v ↔ (k, v) ∈ fields := by
  induction fields with
  | nil => simp [Entries.find?]
  | cons field rest ih =>
    obtain ⟨k', v'⟩ := field
    rw [List.map_cons, List.nodup_cons] at h
    have hfind : Entries.find? (Json.entriesOf ((k', v') :: rest)) k =
        if k' = k then some v' else Entries.find? (Json.entriesOf rest) k := find?_cons k' v' _ k
    rw [hfind, List.mem_cons, Prod.mk.injEq]
    split
    next heq =>
      subst heq
      have hnot : (k', v) ∉ rest := fun hmem => h.1 (List.mem_map.mpr ⟨_, hmem, rfl⟩)
      simp [hnot, eq_comm]
    next hne =>
      rw [ih h.2, or_iff_right]
      exact fun heq => hne heq.1.symm

end Datum

namespace Json

open Datum

variable {items : List (Datum CodePoints)} {fields : Fields} {d v : Datum CodePoints}
  {k : CodePoints} {limit depth : Nat}

/-! ### Sorting -/

/-- The fields of a record with sorted keys. -/
def sortFields (fields : Fields) : Fields :=
  (fields.map fun (k, v) => (k, sortKeys v)).mergeSort fun a b => a.1 ≤ b.1

lemma sortItems_eq_map (items : List (Datum CodePoints)) :
    sortItems items = items.map sortKeys := by
  induction items with
  | nil => rfl
  | cons d rest ih => rw [sortItems, ih, List.map_cons]

lemma sortEntries_entriesOf (fields : Fields) :
    sortEntries (entriesOf fields) = entriesOf (fields.map fun (k, v) => (k, sortKeys v)) := by
  induction fields with
  | nil => rfl
  | cons field rest ih =>
    change (_, _) :: sortEntries (entriesOf rest) = _
    rw [ih]
    rfl

lemma sortKeys_record (fields : Fields) :
    sortKeys (.record fields) = .record (sortFields fields) := by
  have hsort := List.map_mergeSort
    (f := fun field : CodePoints × Datum CodePoints => (Datum.text field.1, field.2))
    (l := fields.map fun (k, v) => (k, sortKeys v)) (r := fun a b => decide (a.1 ≤ b.1))
    (s := fun a b => decide (a.1.shown ≤ b.1.shown)) fun _ _ _ _ => rfl
  rw [record, sortKeys, sortEntries_entriesOf]
  exact congrArg Datum.map hsort.symm

lemma sortFields_perm (fields : Fields) :
    (sortFields fields).Perm (fields.map fun (k, v) => (k, sortKeys v)) :=
  List.mergeSort_perm _ _

lemma mem_sortFields_iff {field : CodePoints × Datum CodePoints} :
    field ∈ sortFields fields ↔ ∃ v, (field.1, v) ∈ fields ∧ sortKeys v = field.2 := by
  rw [(sortFields_perm fields).mem_iff, List.mem_map]
  constructor
  · rintro ⟨⟨k, v⟩, hmem, rfl⟩
    exact ⟨v, hmem, rfl⟩
  · rintro ⟨v, hmem, hv⟩
    exact ⟨_, hmem, Prod.ext rfl hv⟩

lemma nodup_sortFields (h : (fields.map Prod.fst).Nodup) :
    ((sortFields fields).map Prod.fst).Nodup := by
  have hkeys := (sortFields_perm fields).map Prod.fst
  rw [List.map_map] at hkeys
  exact hkeys.nodup_iff.mpr h

/-- A key has the same value when the keys are sorted. -/
lemma find?_sortFields (h : (fields.map Prod.fst).Nodup) (k : CodePoints) :
    Entries.find? (entriesOf (sortFields fields)) k =
      (Entries.find? (entriesOf fields) k).map sortKeys := by
  ext v
  rw [find?_eq_some_iff (nodup_sortFields h), mem_sortFields_iff, Option.map_eq_some_iff]
  simp only [find?_eq_some_iff h]

lemma get?_sortKeys (h : d.IsJson) (k : CodePoints) :
    (sortKeys d).get? k = (d.get? k).map sortKeys := by
  cases h with
  | record hkeys _ _ =>
    rw [sortKeys_record]
    exact find?_sortFields hkeys k
  | null | bool | integer | real | text | list => rfl

/-! ### What sorting keeps -/

lemma isJson_sortKeys (h : d.IsJson) : (sortKeys d).IsJson := by
  induction h with
  | null => exact .null
  | bool b => exact .bool b
  | integer n => exact .integer n
  | real hx => exact .real hx
  | text h => exact .text h
  | list _ ih =>
    rw [sortKeys, sortItems_eq_map]
    exact .list (List.forall_mem_map.mpr ih)
  | record hkeys hunpaired _ ih =>
    rw [sortKeys_record]
    refine .record (nodup_sortFields hkeys) (fun field hf => ?_) fun field hf => ?_
    · obtain ⟨v, hmem, -⟩ := mem_sortFields_iff.mp hf
      exact hunpaired (field.1, v) hmem
    · obtain ⟨v, hmem, hv⟩ := mem_sortFields_iff.mp hf
      exact hv ▸ ih _ hmem

mutual
/-- The limits are kept in every order of the entries. -/
theorem fault?_sortKeys (depth : Nat) (d : Datum CodePoints) (h : fault? limit depth d = none) :
    fault? limit depth (sortKeys d) = none := by
  match d with
  | .list items | .tuple items =>
    rw [fault?] at h
    rw [sortKeys, fault?]
    split at h
    next => cases h
    next hdepth => rw [if_neg hdepth, itemsFault?_sortItems _ items h]
  | .map entries =>
    obtain ⟨hdepth, hentries⟩ := fault?_map_eq_none_iff.mp h
    have hsorted := entriesFault?_sortEntries _ entries
      (entriesFault?_eq_none_iff.mpr hentries)
    rw [sortKeys]
    refine fault?_map_eq_none_iff.mpr ⟨hdepth, fun entry hentry => ?_⟩
    exact entriesFault?_eq_none_iff.mp hsorted entry (List.mem_mergeSort.mp hentry)
  | .null | .bool _ | .integer _ | .real _ | .text _ | .moment _ | .bytes _ | .set _ => exact h

lemma itemsFault?_sortItems (depth : Nat) (items : List (Datum CodePoints))
    (h : itemsFault? limit depth items = none) :
    itemsFault? limit depth (sortItems items) = none := by
  match items with
  | [] => rfl
  | d :: rest =>
    rw [itemsFault?, Option.or_eq_none_iff] at h
    rw [sortItems, itemsFault?, fault?_sortKeys _ d h.1, itemsFault?_sortItems _ rest h.2]
    rfl

lemma entriesFault?_sortEntries (depth : Nat) (entries : Entries)
    (h : entriesFault? limit depth entries = none) :
    entriesFault? limit depth (sortEntries entries) = none := by
  match entries with
  | [] => rfl
  | (k, v) :: rest =>
    rw [entriesFault?, Option.or_eq_none_iff, Option.or_eq_none_iff] at h
    rw [sortEntries, entriesFault?, h.1.1, fault?_sortKeys _ v h.1.2,
      entriesFault?_sortEntries _ rest h.2]
    rfl
end

lemma sameItems_map {f : Datum CodePoints → Datum CodePoints} (h : ∀ d ∈ items, Same (f d) d) :
    SameItems (items.map f) items := by
  induction items with
  | nil => exact trivial
  | cons d rest ih =>
    obtain ⟨hd, hrest⟩ := List.forall_mem_cons.mp h
    exact ⟨hd, ih hrest⟩

/-- With sorted keys, data are the same. -/
theorem same_sortKeys (h : d.IsJson) : Same (sortKeys d) d := by
  induction h with
  | null => rfl
  | bool b => rfl
  | integer n => rfl
  | real hx => rfl
  | text => rfl
  | list _ ih =>
    rw [sortKeys, sortItems_eq_map]
    exact sameItems_map ih
  | record hkeys _ _ ih =>
    rw [sortKeys_record]
    refine same_record ?_ fun field hf => ?_
    · rw [(sortFields_perm _).length_eq, List.length_map]
    · obtain ⟨v, hmem, hv⟩ := mem_sortFields_iff.mp hf
      exact ⟨v, hmem, hv ▸ ih _ hmem⟩

lemma text?_sortKeys (d : Datum CodePoints) : (sortKeys d).text? = d.text? := by
  cases d <;> rfl

end Json

end Recalc
