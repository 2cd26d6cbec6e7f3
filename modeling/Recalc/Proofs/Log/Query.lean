import Recalc.Proofs.Json.Keys
import Recalc.Proofs.Log.Writing
import Recalc.Proofs.Text.Lines

/-!
# Queries

A query gives the newest of the written events that it asks for, each with all that it had, as long
as the end of the log that it looks at is all of it. No event is lost, told twice, split or moved,
whatever texts the events hold.
-/

namespace Recalc

open Recalc.Json Recalc.Text

/-- Whether a query asks for an event. -/
def EventQuery.selects (q : EventQuery) (e : Event) : Bool :=
  (q.level = [] || CodePoints.ofString e.level.text = q.level) &&
    (q.kind = [] || CodePoints.ofString e.kind.text = q.kind) &&
    (q.cell = [] || (e.context.find? "cell").any fun d => d.text? == some q.cell)

namespace Event

variable {e : Event}

/-! ### Events as records -/

def fields (e : Event) : Datum.Fields :=
  [("schema_version", .integer e.schemaVersion), ("ts", .text e.time),
    ("level", .text e.level.text), ("event_type", .text e.kind.text), ("context", .map e.context),
    ("message", .text e.message),
    ("error_code", match e.code with | some code => .text code | none => .null)]

/-- The entries of an event with sorted keys. -/
def logged (e : Event) : Datum.Entries :=
  entriesOf (sortFields e.fields)

lemma sortKeys_toDatum (e : Event) : sortKeys e.toDatum = .map e.logged :=
  sortKeys_record e.fields

lemma nodup_fields (e : Event) : (e.fields.map Prod.fst).Nodup := by
  have hkeys : e.fields.map Prod.fst = ["schema_version", "ts", "level", "event_type", "context",
    "message", "error_code"] := rfl
  rw [hkeys]
  decide

/-- All that an event has is read as it is written: its context, and its texts, which are
unpaired. -/
lemma isJson_toDatum_iff : e.toDatum.IsJson ↔ (Datum.map e.context).IsJson ∧ e.time.Unpaired ∧
    e.message.Unpaired ∧ ∀ code ∈ e.code, code.Unpaired := by
  have hkeys : ∀ field ∈ e.fields, field.1.Unpaired := by
    simp only [fields, List.forall_mem_cons, List.not_mem_nil, false_implies, implies_true,
      CodePoints.unpaired_ofString, and_self]
  have hcode : Datum.IsJson (match e.code with | some code => .text code | none => .null) ↔
      ∀ code ∈ e.code, code.Unpaired := by
    cases e.code with
    | none => simp [Datum.IsJson.null]
    | some code => simp [isJson_text_iff]
  have hinteger : (Datum.integer e.schemaVersion).IsJson := .integer _
  change (Datum.record e.fields).IsJson ↔ _
  rw [isJson_record_iff, iff_true_intro e.nodup_fields, iff_true_intro hkeys, true_and, true_and]
  simp only [fields, List.forall_mem_cons, List.not_mem_nil, false_implies, implies_true, and_true,
    true_and, isJson_text_iff, hcode, hinteger, CodePoints.unpaired_ofString]
  tauto

lemma isJson_context (h : e.toDatum.IsJson) : (Datum.map e.context).IsJson :=
  (isJson_toDatum_iff.mp h).1

lemma same_logged (h : e.toDatum.IsJson) : Datum.Same (.map e.logged) e.toDatum :=
  e.sortKeys_toDatum ▸ same_sortKeys h

lemma find?_logged (e : Event) (k : CodePoints) :
    e.logged.find? k = (Datum.Entries.find? (entriesOf e.fields) k).map sortKeys :=
  find?_sortFields e.nodup_fields k

lemma find?_logged_level (e : Event) : e.logged.find? "level" = some (.text e.level.text) :=
  e.find?_logged "level"

lemma find?_logged_kind (e : Event) : e.logged.find? "event_type" = some (.text e.kind.text) :=
  e.find?_logged "event_type"

lemma find?_logged_context (e : Event) :
    e.logged.find? "context" = some (sortKeys (.map e.context)) :=
  e.find?_logged "context"

end Event

namespace EventLog

variable {log : EventLog} {disk written : Disk} {e : Event} {events : List Event}
  {q : EventQuery} {room room' : Nat}

/-! ### The lines of the log -/

/-- Octets that events added are the lines of the events. -/
lemma lines_of_lineOctets (events : List Event) :
    lines (ofUtf8Lossy (events.flatMap lineOctets)) = events.map line := by
  have hchars : events.flatMap lineOctets =
      ((events.map fun e => lineChars (sortKeys e.toDatum)).flatMap
        fun l => l ++ ['\n']).flatMap String.utf8EncodeChar := by
    rw [List.flatMap_map, List.flatMap_assoc]
    exact List.flatMap_congr fun e _ => lineOctets_eq e
  have hlines : ∀ l ∈ events.map fun e => lineChars (sortKeys e.toDatum),
      ∀ c ∈ l, isLineEnd c = false := by
    refine List.forall_mem_map.mpr fun e _ c hc => ?_
    obtain ⟨hlow, hhigh⟩ := printable_lineChars _ c hc
    simp only [isLineEnd, Bool.or_eq_false_iff, Bool.and_eq_false_iff, decide_eq_false_iff_not,
      beq_eq_false_iff_ne]
    omega
  rw [hchars, ofUtf8Lossy_encoded, lines, String.toList_ofList, linesFrom_terminated hlines,
    List.map_map]
  rfl

/-- The line of an event is read as the event. -/
lemma readLine_line (h : e.toDatum.IsJson) (hfault : fault? room 0 (sortKeys e.toDatum) = none) :
    readLine room (line e) = .ok (some e.logged) := by
  have hparse := parse_line (isJson_sortKeys h) hfault
  rw [e.sortKeys_toDatum] at hparse
  have hblank : (line e).toList.all isBlank = false := by
    rw [line, e.sortKeys_toDatum, Json.line, String.toList_ofList, lineChars]
    rfl
  rw [line, e.sortKeys_toDatum] at hblank ⊢
  rw [readLine, hblank, hparse]
  rfl

lemma readLines_lines (h : ∀ e ∈ events, (Event.toDatum e).IsJson)
    (hfault : ∀ e ∈ events, fault? room 0 (sortKeys e.toDatum) = none) :
    readLines room (events.map line) = .ok (events.map Event.logged) := by
  induction events with
  | nil => rfl
  | cons e events ih =>
    obtain ⟨he, hevents⟩ := List.forall_mem_cons.mp h
    obtain ⟨hfault, hfaults⟩ := List.forall_mem_cons.mp hfault
    rw [List.map_cons, readLines, readLine_line he hfault, ih hevents hfaults]
    rfl

lemma has_of_read {d : Disk} {p : Path} {octets : Octets} (h : d.read p = .ok octets) :
    d.has p = .ok true := by
  obtain ⟨n, hfind, -⟩ := Disk.exists_of_bind (Disk.exists_of_about h)
  rw [Disk.has, hfind]

lemma octets_of_absent (h : disk.has log.file = .ok false) : log.octets disk = [] := by
  rw [octets, Disk.octetsAt]
  cases hread : disk.read log.file with
  | error e => rfl
  | ok octets =>
    rw [has_of_read hread] at h
    cases h

/-- The lines of the events are read, as long as the log is no longer than what is looked at. -/
lemma load_eq_of_writes (hne : events ≠ []) (habsent : disk.has log.file = .ok false)
    (hwrites : events.foldlM (log.write room) disk = .ok written)
    (hsize : (log.octets written).length ≤ log.tailBytes) (room' : Nat) :
    log.load room' written = (readLines room' (events.map line)).mapError .json := by
  have hoctets := octets_of_writes hwrites
  rw [octets_of_absent habsent, List.nil_append] at hoctets
  have hread := read_of_writes hne hwrites
  have htail : tail (log.octets written) log.tailBytes.toNat = log.octets written := by
    rw [tail, if_pos (by omega)]
  rw [hoctets] at htail
  rw [load, has_of_read hread, hread]
  simp only [Except.mapError, Bind.bind, Except.bind, Bool.not_true, Bool.false_eq_true, if_false,
    if_neg (by omega : ¬log.tailBytes < 0), htail, hoctets, lines_of_lineOctets]

/-- With as much room as there was for writing, all events that were written are loaded. -/
lemma load_of_writes (habsent : disk.has log.file = .ok false) (hroom : room ≤ room')
    (hwrites : events.foldlM (log.write room) disk = .ok written)
    (hsize : (log.octets written).length ≤ log.tailBytes)
    (hjson : ∀ e ∈ events, (Event.toDatum e).IsJson) :
    log.load room' written = .ok (events.map Event.logged) := by
  rcases eq_or_ne events [] with rfl | hne
  · cases hwrites
    rw [load, habsent]
    rfl
  · have hlines := readLines_lines hjson fun e he =>
      fault?_mono hroom 0 _ (fault?_of_writes hwrites e he)
    rw [load_eq_of_writes hne habsent hwrites hsize, hlines]
    rfl

/-! ### What is asked for -/

lemma matchesKey_text (entries : Datum.Entries) {key wanted text : CodePoints}
    (h : entries.find? key = some (.text text)) :
    matchesKey entries key wanted = (wanted = [] || text = wanted) := by
  rw [matchesKey, h]
  simp [Datum.text?, Bool.beq_eq_decide_eq]

lemma matchesCell_logged (h : e.toDatum.IsJson) (wanted : CodePoints) :
    matchesCell e.logged wanted = .ok (wanted = [] ||
      (e.context.find? "cell").any fun d => d.text? == some wanted) := by
  have hcell := get?_sortKeys (Event.isJson_context h) "cell"
  obtain ⟨entries, hentries⟩ : ∃ entries, sortKeys (.map e.context) = .map entries :=
    ⟨_, by rw [sortKeys]⟩
  rw [hentries] at hcell
  rw [matchesCell, e.find?_logged_context, hentries]
  split
  next hempty => simp [hempty]
  next hne =>
    simp only [Datum.get?] at hcell
    simp only [matchesKey, hcell, Option.any_map, text?_sortKeys]

lemma matchesQuery_logged (h : e.toDatum.IsJson) (q : EventQuery) :
    matchesQuery q e.logged = .ok (q.selects e) := by
  rw [matchesQuery, matchesKey_text _ e.find?_logged_level, matchesKey_text _ e.find?_logged_kind,
    matchesCell_logged h, EventQuery.selects]
  split
  next hboth => rw [hboth, Bool.true_and]
  next hnot => rw [Bool.not_eq_true] at hnot; rw [hnot, Bool.false_and]

/-- Looking ends with the event that reaches the limit. -/
lemma select_logged (q : EventQuery) (limit : Nat) (found : Nat) (hfound : found < limit)
    (h : ∀ e ∈ events, (Event.toDatum e).IsJson) :
    select q limit found (events.map Event.logged) =
      .ok (((events.filter q.selects).take (limit - found)).map Event.logged) := by
  induction events generalizing found with
  | nil => simp [select]
  | cons e events ih =>
    obtain ⟨he, hevents⟩ := List.forall_mem_cons.mp h
    rw [List.map_cons, select, matchesQuery_logged he]
    simp only [Bind.bind, Except.bind]
    cases hselects : q.selects e with
    | false =>
      rw [List.filter_cons_of_neg (by simp [hselects])]
      exact ih found hfound hevents
    | true =>
      rw [List.filter_cons_of_pos hselects, if_pos rfl]
      rcases Nat.eq_or_lt_of_le (Nat.succ_le_of_lt hfound) with hlast | hmore
      · have hone : limit - found = 1 := by omega
        rw [if_pos (by omega), hone]
        rfl
      · have hnext : limit - found = limit - (found + 1) + 1 := by omega
        rw [if_neg (by omega), ih (found + 1) hmore hevents, hnext,
          List.take_succ_cons]
        rfl

/-! ### Written events are found -/

/-- A query of a log that began with these events finds the newest ones that it asks for, with all
that was written, and every event added one line to the log. It must have as much room for nesting
as there was when the events were written. -/
theorem query_of_writes (habsent : disk.has log.file = .ok false) (hroom : room ≤ room')
    (hjson : ∀ e ∈ events, (Event.toDatum e).IsJson)
    (hwrites : events.foldlM (log.write room) disk = .ok written)
    (hsize : (log.octets written).length ≤ log.tailBytes) (hlimit : 1 ≤ q.limit) :
    (∃ found, log.query room' written q = .ok found ∧
      List.Forall₂ (fun entries e => Datum.Same (.map entries) (Event.toDatum e)) found
        ((events.reverse.filter q.selects).take (min q.limit limitCap).toNat)) ∧
    ∀ before e after, events = before ++ e :: after → ∃ d d',
      before.foldlM (log.write room) disk = .ok d ∧ log.write room d e = .ok d' ∧
        AddsLine log e d d' := by
  refine ⟨?_, fun before e after heq => addsLine_of_writes (heq ▸ hwrites)⟩
  have hload := load_of_writes habsent hroom hwrites hsize hjson
  have hpositive : 0 < (min q.limit limitCap).toNat := by
    rw [limitCap]
    omega
  have hnewest : ∀ e ∈ events.reverse, (Event.toDatum e).IsJson :=
    fun e he => hjson e (List.mem_reverse.mp he)
  have hselect := select_logged q _ 0 hpositive hnewest
  rw [Int.toNat_of_nonneg (by rw [limitCap]; omega), List.map_reverse, Nat.sub_zero] at hselect
  have hquery : log.query room' written q =
      select q (min q.limit limitCap) 0 (events.map Event.logged).reverse := by
    rw [query, hload]
    rfl
  refine ⟨_, hquery.trans hselect, ?_⟩
  rw [List.forall₂_map_left_iff, List.forall₂_same]
  exact fun e he => Event.same_logged
    (hnewest e (List.mem_of_mem_filter (List.mem_of_mem_take he)))

/-- Two events, with texts that would fall into lines if they were not escaped. -/
def notes : List Event :=
  [{ schemaVersion := 1, time := "2024-01-02T03:04:05.678901Z", level := .info
     kind := .cellUpdated, context := entriesOf [("cell", .text "a"), ("contents", .text "\u2028")]
     message := "Set a\n\x1C", code := none },
   { schemaVersion := 1, time := "2024-01-02T03:04:06.000000Z", level := .error
     kind := .sheetFailed, context := entriesOf [("seen", .list [.null, .bool true, .integer (-7)])]
     message := "", code := some "sheet_read_failed" }]

lemma isJson_notes : ∀ e ∈ notes, (Event.toDatum e).IsJson := by
  have hkey := CodePoints.unpaired_ofString
  refine List.forall_mem_cons.mpr ⟨Event.isJson_toDatum_iff.mpr ⟨?_, hkey _, hkey _, by simp⟩,
    List.forall_mem_singleton.mpr (Event.isJson_toDatum_iff.mpr ⟨?_, hkey _, hkey _, ?_⟩)⟩
  · refine isJson_record_iff.mpr ⟨by decide, ?_, ?_⟩
    · exact List.forall_mem_cons.mpr ⟨hkey _, List.forall_mem_singleton.mpr (hkey _)⟩
    · exact List.forall_mem_cons.mpr
        ⟨.text (hkey _), List.forall_mem_singleton.mpr (.text (hkey _))⟩
  · refine isJson_record_iff.mpr ⟨by decide, List.forall_mem_singleton.mpr (hkey _), ?_⟩
    refine List.forall_mem_singleton.mpr (.list ?_)
    exact List.forall_mem_cons.mpr ⟨.null, List.forall_mem_cons.mpr
      ⟨.bool _, List.forall_mem_singleton.mpr (.integer _)⟩⟩
  · rintro _ ⟨⟩
    exact hkey _

/-- The notes are written with room for three arrays and objects inside of one another. -/
lemma fault?_notes : ∀ e ∈ notes, fault? 3 0 (sortKeys e.toDatum) = none := by
  have hunsorted : ∀ e ∈ notes, fault? 3 0 e.toDatum = none :=
    List.forall_mem_cons.mpr ⟨by cbv, List.forall_mem_singleton.mpr (by cbv)⟩
  exact fun e he => fault?_sortKeys 0 _ (hunsorted e he)

/-- A log in the working directory, of which just so many octets are looked at as events add. -/
def logOf (events : List Event) : EventLog :=
  ⟨.current, false, (events.flatMap lineOctets).length⟩

/-- What can be written of events is all that is in a new log in the working directory. -/
lemma exists_writes_current (log : EventLog) (hlog : log.directory = .current)
    (h : ∀ e ∈ events, fault? room 0 (sortKeys e.toDatum) = none) :
    ∃ written, (Disk.blank "home").has log.file = .ok false ∧
      events.foldlM (log.write room) (Disk.blank "home") = .ok written ∧
      log.octets written = events.flatMap lineOctets := by
  have hlocate : (Disk.blank "home").locate log.file = .ok ["home", fileName] := by
    rw [file, hlog]
    cbv
  have habsent : (Disk.blank "home").has log.file = .ok false := by
    rw [Disk.has, Disk.find, hlocate]
    cbv
  have hworks : log.Works (Disk.blank "home") := by
    refine ⟨["home", fileName], [], ?_⟩
    rw [Disk.openForWriting, hlocate]
    cbv
  obtain ⟨written, hwrites, -⟩ := hworks.exists_writes h
  refine ⟨written, habsent, hwrites, ?_⟩
  rw [octets_of_writes hwrites, octets_of_absent habsent, List.nil_append]

/-- Such a log that is looked at as a whole. -/
lemma exists_writes_logOf (h : ∀ e ∈ events, fault? room 0 (sortKeys e.toDatum) = none) :
    ∃ written, (Disk.blank "home").has (logOf events).file = .ok false ∧
      events.foldlM ((logOf events).write room) (Disk.blank "home") = .ok written ∧
      ((logOf events).octets written).length ≤ (logOf events).tailBytes := by
  obtain ⟨written, habsent, hwrites, hoctets⟩ := exists_writes_current (logOf events) rfl h
  refine ⟨written, habsent, hwrites, ?_⟩
  rw [hoctets, logOf]

theorem query_notes : ∃ written, (Disk.blank "home").has (logOf notes).file = .ok false ∧ 3 ≤ 3 ∧
    (∀ e ∈ notes, (Event.toDatum e).IsJson) ∧
    notes.foldlM ((logOf notes).write 3) (Disk.blank "home") = .ok written ∧
    ((logOf notes).octets written).length ≤ (logOf notes).tailBytes ∧
    ∃ found, (logOf notes).query 3 written ⟨[], "cell_updated", "a", 1⟩ = .ok found ∧
      List.Forall₂ (fun entries e => Datum.Same (.map entries) (Event.toDatum e)) found
        (notes.take 1) := by
  obtain ⟨written, habsent, hwrites, hsize⟩ := exists_writes_logOf fault?_notes
  obtain ⟨⟨found, hquery, hfound⟩, -⟩ := query_of_writes (q := ⟨[], "cell_updated", "a", 1⟩)
    habsent le_rfl isJson_notes hwrites hsize (by decide)
  have hpicked : (notes.reverse.filter (EventQuery.selects ⟨[], "cell_updated", "a", 1⟩)).take
      (min 1 limitCap).toNat = notes.take 1 := by cbv
  rw [hpicked] at hfound
  exact ⟨written, habsent, le_rfl, isJson_notes, hwrites, hsize, found, hquery, hfound⟩

/-- An event about a cell. -/
def about (cell : Datum CodePoints) : Event :=
  { schemaVersion := 1, time := "2024-01-02T03:04:05.678901Z", level := .info, kind := .cellUpdated
    context := entriesOf [("cell", cell)], message := "", code := none }

/-- A high surrogate directly before a low one. -/
def pairedName : CodePoints :=
  [.ofNat 0xD83D, .ofNat 0xDE00]

lemma sortKeys_about (cell : Datum CodePoints) : sortKeys (about cell).toDatum =
    .record [("context", .record [("cell", sortKeys cell)]), ("error_code", .null),
      ("event_type", .text "cell_updated"), ("level", .text "info"), ("message", .text ""),
      ("schema_version", .integer 1), ("ts", .text "2024-01-02T03:04:05.678901Z")] := by
  cbv

lemma fault?_about {cell : Datum CodePoints} (h : fault? room 2 cell = none) (hroom : 2 ≤ room) :
    fault? room 0 (sortKeys (about cell).toDatum) = none := by
  refine fault?_sortKeys 0 _ (fault?_record_eq_none_iff.mpr ⟨by omega, ?_⟩)
  have hcontext : fault? room 1 (.record [("cell", cell)]) = none :=
    fault?_record_eq_none_iff.mpr ⟨by omega, List.forall_mem_singleton.mpr h⟩
  have hversion : fault? room 1 (.integer 1) = none := by
    rw [fault?]
    decide
  simp only [List.forall_mem_cons, List.not_mem_nil, false_implies, implies_true, and_true]
  exact ⟨hversion, rfl, rfl, rfl, hcontext, rfl, rfl⟩

lemma isJson_about {cell : Datum CodePoints} (h : cell.IsJson) : (about cell).toDatum.IsJson := by
  have htext := CodePoints.unpaired_ofString
  refine Event.isJson_toDatum_iff.mpr ⟨?_, htext _, htext _, by simp [about]⟩
  exact isJson_record_iff.mpr ⟨List.nodup_singleton _, List.forall_mem_singleton.mpr (htext _),
    List.forall_mem_singleton.mpr h⟩

/-- Two surrogates and the character that they stand for are written in the same way. -/
lemma line_about_paired : line (about (.text pairedName)) = line (about (.text "😀")) := by
  have hstring : string pairedName = string "😀" := by cbv
  rw [line, line, sortKeys_about, sortKeys_about]
  simp only [Json.line, Datum.record, List.map_cons, List.map_nil, lineChars, lineEntries, sortKeys,
    scalar, Datum.shown, hstring]

lemma readLine_about_list :
    readLine 2 (line (about (.list []))) = .error (.nestedTooDeep "array") := by
  have hjson : (about (.list [])).toDatum.IsJson := isJson_about (.list (by simp))
  have hfault : fault? 3 0 (sortKeys (about (.list [])).toDatum) = none :=
    fault?_about (by decide) (by decide)
  have hrun : run 2 (tokensOf (sortKeys (about (.list [])).toDatum)) [] .value =
      .error (.nestedTooDeep "array") := by
    rw [sortKeys_about]
    cbv
  have hparse := parse_of_run_error (scans (isJson_sortKeys hjson) hfault) hrun
  have hblank : (line (about (.list []))).toList.all isBlank = false := by
    rw [line, sortKeys_about, Json.line, String.toList_ofList, Datum.record, lineChars]
    rfl
  rw [readLine, hblank, line, hparse]
  rfl

/-- A cell is not found by a name whose surrogates are read as one character, and what was written
with more room than a query has is not read. -/
theorem query_about_paired_and_list : (∃ log written, log = logOf [about (.text pairedName)] ∧
      (Disk.blank "home").has log.file = .ok false ∧
      [about (.text pairedName)].foldlM (log.write 2) (Disk.blank "home") = .ok written ∧
      (log.octets written).length ≤ log.tailBytes ∧
      EventQuery.selects ⟨[], [], pairedName, 1⟩ (about (.text pairedName)) = true ∧
      log.query 2 written ⟨[], [], pairedName, 1⟩ = .ok []) ∧
    ∃ log written, log = logOf [about (.list [])] ∧ (Disk.blank "home").has log.file = .ok false ∧
      [about (.list [])].foldlM (log.write 3) (Disk.blank "home") = .ok written ∧
      (log.octets written).length ≤ log.tailBytes ∧
      log.query 2 written ⟨[], [], [], 1⟩ = .error (.json (.nestedTooDeep "array")) := by
  constructor
  · have hfault : fault? 2 0 (sortKeys (about (.text pairedName)).toDatum) = none :=
      fault?_about rfl le_rfl
    obtain ⟨written, habsent, hwrites, hsize⟩ :=
      exists_writes_logOf (List.forall_mem_singleton.mpr hfault)
    refine ⟨_, written, rfl, habsent, hwrites, hsize, by decide, ?_⟩
    have hjson := isJson_about (.text (CodePoints.unpaired_ofString "😀"))
    have hread : readLine 2 (line (about (.text pairedName))) = _ :=
      line_about_paired ▸ readLine_line hjson (fault?_about rfl le_rfl)
    have hload : (logOf [about (.text pairedName)]).load 2 written =
        .ok [(about (.text "😀")).logged] := by
      rw [load_eq_of_writes (by simp) habsent hwrites hsize, List.map_singleton, readLines, hread]
      rfl
    have hselects : EventQuery.selects ⟨[], [], pairedName, 1⟩ (about (.text "😀")) = false := by
      decide
    have hselect : select ⟨[], [], pairedName, 1⟩ 1 0 [(about (.text "😀")).logged] = .ok [] := by
      rw [select, matchesQuery_logged hjson, hselects]
      rfl
    rw [query, hload]
    exact hselect
  · have hfault : fault? 3 0 (sortKeys (about (.list [])).toDatum) = none :=
      fault?_about (by decide) (by decide)
    obtain ⟨written, habsent, hwrites, hsize⟩ :=
      exists_writes_logOf (List.forall_mem_singleton.mpr hfault)
    refine ⟨_, written, rfl, habsent, hwrites, hsize, ?_⟩
    rw [query, load_eq_of_writes (by simp) habsent hwrites hsize, List.map_singleton, readLines,
      readLine_about_list]
    rfl

end EventLog

end Recalc
