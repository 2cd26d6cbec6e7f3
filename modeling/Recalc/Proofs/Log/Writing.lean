import Recalc.Log.EventLog
import Recalc.Proofs.Json.Printable
import Recalc.Proofs.Storage.Disk
import Recalc.Proofs.Text.Utf8

/-!
# Writing events

To write an event adds one line to the log, and what the log held before stays as it was. Inside of
the line no octet ends it, whatever texts the event has.
-/

namespace Recalc.EventLog

open Recalc.Text

variable {log : EventLog} {d d' : Disk} {e : Event} {events : List Event} {room : Nat}

/-- The octets of the log. -/
def octets (log : EventLog) (d : Disk) : Octets :=
  d.octetsAt log.file

/-- The octets that an event adds to a log. -/
def lineOctets (e : Event) : Octets :=
  toUtf8 (line e ++ "\n")

/-- What the log held before stays, and one line is added, with the one line feed at its end. -/
structure AddsLine (log : EventLog) (e : Event) (d d' : Disk) : Prop where
  octets_eq : log.octets d' = log.octets d ++ toUtf8 (line e) ++ [0x0A]
  line_feed : 0x0A ∉ toUtf8 (line e)

/-! ### The octets of a line -/

lemma lineOctets_eq (e : Event) : lineOctets e =
    (Json.lineChars (Json.sortKeys e.toDatum) ++ ['\n']).flatMap String.utf8EncodeChar := by
  rw [lineOctets, line, Json.line, ← toUtf8_ofList, String.ofList_append]

lemma lineOctets_eq_append (e : Event) : lineOctets e = toUtf8 (line e) ++ [0x0A] := by
  rw [lineOctets_eq, List.flatMap_append, line, Json.line, toUtf8_ofList]
  rfl

/-- A character of ASCII is one octet. -/
lemma utf8EncodeChar_ascii {c : Char} (h : c.toNat ≤ 0x7F) :
    String.utf8EncodeChar c = [UInt8.ofNat c.toNat] := by
  rw [String.utf8EncodeChar]
  simp only [show c.val.toNat = c.toNat from rfl, if_pos h]

lemma line_feed_not_mem (e : Event) : 0x0A ∉ toUtf8 (line e) := by
  rw [line, Json.line, toUtf8_ofList]
  intro hmem
  obtain ⟨c, hc, hoctet⟩ := List.mem_flatMap.mp hmem
  obtain ⟨hlow, hhigh⟩ := Json.printable_lineChars _ c hc
  rw [utf8EncodeChar_ascii (by omega), List.mem_singleton] at hoctet
  have hcode := congrArg UInt8.toNat hoctet
  rw [toNat_ofNat (by omega)] at hcode
  have hten : (0x0A : UInt8).toNat = 10 := rfl
  omega

/-! ### One event -/

lemma write_eq_ok_iff : log.write room d e = .ok d' ↔
    Json.fault? room 0 (Json.sortKeys e.toDatum) = none ∧
      d.append log.file (lineOctets e) = .ok d' := by
  rw [write, ← lineOctets]
  cases Json.fault? room 0 (Json.sortKeys e.toDatum) with
  | some fault => simp
  | none => cases d.append log.file (lineOctets e) <;> simp [Except.mapError]

lemma read_of_write (h : log.write room d e = .ok d') :
    d'.read log.file = .ok (log.octets d ++ lineOctets e) :=
  Disk.read_append (write_eq_ok_iff.mp h).2

/-- An event that is written adds its line. -/
theorem addsLine_of_write (h : log.write room d e = .ok d') : AddsLine log e d d' := by
  refine ⟨?_, line_feed_not_mem e⟩
  rw [octets, Disk.octetsAt_of_read (read_of_write h), lineOctets_eq_append, List.append_assoc]

/-- The log is there, or can be made. -/
def Works (log : EventLog) (d : Disk) : Prop :=
  ∃ l before, d.openForWriting log.file = .ok (l, before)

/-- What a log that works is given to write is written, and it goes on to work. -/
lemma Works.exists_write (h : log.Works d)
    (hfault : Json.fault? room 0 (Json.sortKeys e.toDatum) = none) :
    ∃ d', log.write room d e = .ok d' ∧ log.Works d' := by
  obtain ⟨l, before, hopen⟩ := h
  exact ⟨_, write_eq_ok_iff.mpr ⟨hfault, Disk.append_of_openForWriting hopen⟩,
    l, _, Disk.openForWriting_put hopen⟩

/-! ### Several events -/

lemma Works.exists_writes (h : log.Works d)
    (hfault : ∀ e ∈ events, Json.fault? room 0 (Json.sortKeys e.toDatum) = none) :
    ∃ d', events.foldlM (log.write room) d = .ok d' ∧ log.Works d' := by
  induction events generalizing d with
  | nil => exact ⟨d, rfl, h⟩
  | cons e events ih =>
    obtain ⟨he, hevents⟩ := List.forall_mem_cons.mp hfault
    obtain ⟨next, hwrite, hnext⟩ := h.exists_write he
    obtain ⟨d', hrest, hd'⟩ := ih hnext hevents
    exact ⟨d', by rw [List.foldlM_cons, hwrite]; exact hrest, hd'⟩

/-- Events that are written one after another add their lines in order. -/
lemma octets_of_writes (h : events.foldlM (log.write room) d = .ok d') :
    log.octets d' = log.octets d ++ events.flatMap lineOctets := by
  induction events generalizing d with
  | nil =>
    cases h
    rw [List.flatMap_nil, List.append_nil]
  | cons e events ih =>
    rw [List.foldlM_cons] at h
    obtain ⟨next, hwrite, hrest⟩ := Disk.exists_of_bind h
    rw [ih hrest, octets, Disk.octetsAt_of_read (read_of_write hwrite), List.flatMap_cons,
      List.append_assoc]

/-- Once an event was written, the log is there. -/
lemma read_of_writes (hne : events ≠ []) (h : events.foldlM (log.write room) d = .ok d') :
    d'.read log.file = .ok (log.octets d') := by
  obtain ⟨init, e, rfl⟩ := List.eq_nil_or_concat' events |>.resolve_left hne
  rw [List.foldlM_append] at h
  obtain ⟨before, -, hlast⟩ := Disk.exists_of_bind h
  obtain ⟨after, hwrite, hdone⟩ := Disk.exists_of_bind hlast
  cases hdone
  have hread := read_of_write hwrite
  have hoctets : log.octets d' = log.octets before ++ lineOctets e := Disk.octetsAt_of_read hread
  rw [hread, hoctets]

/-- What was written of events could be written of each of them. -/
lemma fault?_of_writes (h : events.foldlM (log.write room) d = .ok d') :
    ∀ e ∈ events, Json.fault? room 0 (Json.sortKeys e.toDatum) = none := by
  induction events generalizing d with
  | nil => exact fun e he => absurd he List.not_mem_nil
  | cons e events ih =>
    rw [List.foldlM_cons] at h
    obtain ⟨next, hwrite, hrest⟩ := Disk.exists_of_bind h
    exact List.forall_mem_cons.mpr ⟨(write_eq_ok_iff.mp hwrite).1, ih hrest⟩

/-- At every event of a run, its line is added. -/
lemma addsLine_of_writes {before after : List Event}
    (h : (before ++ e :: after).foldlM (log.write room) d = .ok d') :
    ∃ m m', before.foldlM (log.write room) d = .ok m ∧ log.write room m e = .ok m' ∧
      AddsLine log e m m' := by
  rw [List.foldlM_append] at h
  obtain ⟨m, hbefore, hrest⟩ := Disk.exists_of_bind h
  obtain ⟨m', hwrite, -⟩ := Disk.exists_of_bind hrest
  exact ⟨m, m', hbefore, hwrite, addsLine_of_write hwrite⟩

end Recalc.EventLog
