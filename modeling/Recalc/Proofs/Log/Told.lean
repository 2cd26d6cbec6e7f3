import Recalc.Proofs.Log.Clipping
import Recalc.Proofs.Log.Query

/-!
# Events that can be written

The context of an event about a cell or a sheet file holds texts and lists of texts. When these are
clipped it still does, so that nothing stands against writing the event, and what the event has to
say is not missing.
-/

namespace Recalc

open Recalc.Json

variable {fields : Datum.Fields} {d : Datum CodePoints} {room depth : Nat} {e : Event}

/-! ### Plain data -/

/-- A text or a list of texts. -/
inductive Datum.IsPlain : Datum CodePoints → Prop where
  | text (s : CodePoints) : IsPlain (.text s)
  | texts (items : List CodePoints) : IsPlain (.list (items.map .text))

namespace Datum.IsPlain

lemma clip (h : d.IsPlain) : d.clip.IsPlain := by
  cases h with
  | text s => exact .text _
  | texts items =>
    have hitems : clipItems (items.map .text) = (items.map clipText).map .text := by
      rw [clipItems_eq_map, List.map_map, List.map_map]
      rfl
    rw [Datum.clip, hitems]
    exact .texts _

lemma fault?_eq_none (h : d.IsPlain) (hdepth : depth < room) : fault? room depth d = none := by
  cases h with
  | text s => rfl
  | texts items =>
    exact fault?_list_eq_none_iff.mpr ⟨hdepth, List.forall_mem_map.mpr fun s _ => rfl⟩

end Datum.IsPlain

/-! ### Clipped contexts -/

lemma CodePoints.Unpaired.clipText {s : CodePoints} (h : s.Unpaired) :
    (clipText s).Unpaired := by
  by_cases hshort : s.length ≤ 256
  · rwa [clipText_of_length_le hshort]
  · rw [clipText_of_lt (Nat.not_le.mp hshort)]
    refine List.IsChain.append (h.take 256) (CodePoints.unpaired_ofString _) ?_
    rintro p - q ⟨⟩ ⟨-, hlow⟩
    exact absurd hlow (by decide)

lemma clipEntries_entriesOf (fields : Datum.Fields) :
    clipEntries (entriesOf fields) = entriesOf (fields.map fun (k, v) => (k, v.clip)) := by
  rw [clipEntries_eq_map, entriesOf, entriesOf, List.map_map, List.map_map]
  rfl

/-- What is clipped is read as it is written if what it was clipped from is. -/
lemma Datum.IsJson.clip (h : d.IsJson) : d.clip.IsJson := by
  induction h with
  | null => exact .null
  | bool b => exact .bool b
  | integer n => exact .integer n
  | real hx => exact .real hx
  | text h => exact .text h.clipText
  | list _ ih =>
    rw [Datum.clip, clipItems_eq_map]
    exact .list (List.forall_mem_map.mpr ih)
  | record hkeys hunpaired _ ih =>
    rw [Datum.record, Datum.clip, clipEntries_entriesOf]
    refine .record ?_ (List.forall_mem_map.mpr hunpaired) (List.forall_mem_map.mpr ih)
    rw [List.map_map]
    exact hkeys

namespace Event

lemma isJson_clipped (h : e.toDatum.IsJson) : e.clipped.toDatum.IsJson := by
  obtain ⟨hcontext, hrest⟩ := isJson_toDatum_iff.mp h
  exact isJson_toDatum_iff.mpr ⟨hcontext.clip, hrest⟩

/-! ### Told events -/

/-- The event has plain data under distinct keys in its context, the required one among them. -/
structure Told (e : Event) : Prop where
  schemaVersion_eq : e.schemaVersion = currentSchema
  context : ∃ fields, (fields.map Prod.fst).Nodup ∧ (∀ field ∈ fields, Datum.IsPlain field.2) ∧
    e.context = entriesOf fields
  missingKey?_eq : e.missingKey? = none

namespace Told

lemma clipped (h : e.Told) : e.clipped.Told := by
  obtain ⟨fields, hkeys, hplain, hcontext⟩ := h.context
  refine ⟨h.schemaVersion_eq, ⟨fields.map fun (k, v) => (k, v.clip), ?_, ?_, ?_⟩, ?_⟩
  · rw [List.map_map]
    exact hkeys
  · exact List.forall_mem_map.mpr fun field hf => (hplain field hf).clip
  · rw [← clipEntries_entriesOf, ← hcontext]
    rfl
  · rw [missingKey?_clipped, h.missingKey?_eq]

lemma attributed_eq (h : e.Told) : e.attributed = e := by
  rw [attributed, h.missingKey?_eq]

/-- With room for three arrays and objects inside of one another, nothing stands against writing a
told event. -/
lemma fault?_eq_none (h : e.Told) (hroom : 3 ≤ room) :
    fault? room 0 (sortKeys e.toDatum) = none := by
  obtain ⟨fields, -, hplain, hcontext⟩ := h.context
  have hfault : fault? room 1 (.map e.context) = none := by
    rw [hcontext]
    exact fault?_record_eq_none_iff.mpr
      ⟨by omega, fun field hf => (hplain field hf).fault?_eq_none (by omega)⟩
  have hversion : fault? room 1 (.integer e.schemaVersion) = none := by
    rw [h.schemaVersion_eq, fault?]
    decide
  refine fault?_sortKeys 0 _ ?_
  change fault? room 0 (.record e.fields) = none
  refine fault?_record_eq_none_iff.mpr ⟨by omega, ?_⟩
  simp only [Event.fields, List.forall_mem_cons, List.not_mem_nil, false_implies, implies_true,
    and_true]
  refine ⟨hversion, rfl, rfl, rfl, hfault, rfl, ?_⟩
  cases e.code <;> rfl

/-- A context that is clipped shows in the line. -/
lemma line_clipped_ne {text : CodePoints} (h : e.Told) (hjson : e.toDatum.IsJson)
    (key : CodePoints) (hfind : e.context.find? key = some (.text text))
    (htext : clipText text ≠ text) : EventLog.line e.clipped ≠ EventLog.line e := by
  intro hline
  have hread := EventLog.readLine_line (isJson_clipped hjson) (h.clipped.fault?_eq_none le_rfl)
  rw [hline, EventLog.readLine_line hjson (h.fault?_eq_none le_rfl), Except.ok.injEq,
    Option.some.injEq] at hread
  have hcontext := e.clipped.find?_logged_context
  rw [← hread, e.find?_logged_context, Option.some.injEq] at hcontext
  have hclipped : e.clipped.context.find? key = some (.text (clipText text)) := by
    change Datum.Entries.find? (clipEntries e.context) key = _
    rw [find?_clipEntries, hfind]
    rfl
  have hfound := congrArg (Datum.get? · key) hcontext
  rw [get?_sortKeys (isJson_context hjson), get?_sortKeys (isJson_context (isJson_clipped hjson)),
    Datum.get?, Datum.get?, hfind, hclipped] at hfound
  exact htext (Datum.text.inj (Option.some.inj hfound)).symm

lemma lineOctets_clipped_ne {text : CodePoints} (h : e.Told) (hjson : e.toDatum.IsJson)
    (key : CodePoints) (hfind : e.context.find? key = some (.text text))
    (htext : clipText text ≠ text) : EventLog.lineOctets e.clipped ≠ EventLog.lineOctets e := by
  intro hoctets
  have hlines := EventLog.lines_of_lineOctets [e.clipped]
  rw [List.flatMap_singleton, hoctets, ← List.flatMap_singleton EventLog.lineOctets,
    EventLog.lines_of_lineOctets, List.map_singleton, List.map_singleton,
    List.singleton_inj] at hlines
  exact h.line_clipped_ne hjson key hfind htext hlines.symm

end Told

end Event

end Recalc
