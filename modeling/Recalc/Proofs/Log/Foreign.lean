import Recalc.Proofs.Json.Limits
import Recalc.Proofs.Log.Limits
import Recalc.Proofs.Storage.Frame

/-!
# Logs with any content

Whatever octets a log holds, a query passes over the lines that are no JSON objects and finds the
newest of the objects that it asks for. Two things only make it fail: a line that passes a limit of
the reader, and, where a cell is asked for, an object whose context is given but is no object, as
long as the query comes to it.
-/

namespace Recalc

open Recalc.Json Recalc.Text

/-! ### Objects and queries -/

namespace EventQuery

/-- Whether the query asks for an object. A cell is looked for in a context that is an object. -/
def asks (q : EventQuery) (entries : Datum.Entries) : Bool :=
  EventLog.matchesKey entries "level" q.level && EventLog.matchesKey entries "event_type" q.kind &&
    (q.cell = [] ||
      match entries.find? "context" with
      | some (.map context) => EventLog.matchesKey context "cell" q.cell
      | _ => false)

/-- A cell is asked for, and the object, which has what is asked for besides, has this context,
which is given but is no object. -/
structure Balks (q : EventQuery) (entries : Datum.Entries) (context : Datum CodePoints) : Prop where
  level : EventLog.matchesKey entries "level" q.level = true
  kind : EventLog.matchesKey entries "event_type" q.kind = true
  cell : q.cell ≠ []
  find?_eq : entries.find? "context" = some context
  isTruthy : context.isTruthy = true
  ne_map : ∀ fields, context ≠ .map fields

end EventQuery

namespace EventLog

variable {log : EventLog} {d : Disk} {q : EventQuery} {entries : Datum.Entries}
  {context : Datum CodePoints} {events : List Datum.Entries} {octets : Octets} {s : String}
  {ls : List String} {room : Nat}

lemma matchesQuery_of_balks (h : q.Balks entries context) :
    matchesQuery q entries = .error (.noMapping context.kind) := by
  rw [matchesQuery, h.level, h.kind, matchesCell, if_neg h.cell, h.find?_eq]
  cases context with
  | map fields => exact absurd rfl (h.ne_map fields)
  | _ => simp only [h.isTruthy, Bool.and_self, if_true]

lemma matchesQuery_eq_asks (h : ∀ context, ¬q.Balks entries context) :
    matchesQuery q entries = .ok (q.asks entries) := by
  rw [matchesQuery, EventQuery.asks]
  split
  next hboth =>
    rw [hboth, Bool.true_and, matchesCell]
    obtain ⟨hlevel, hkind⟩ := (Bool.and_eq_true _ _).mp hboth
    split
    next hempty => simp [hempty]
    next hcell =>
      cases hfind : entries.find? "context" with
      | none => simp [hcell]
      | some context =>
        by_cases hmap : ∃ fields, context = .map fields
        · obtain ⟨fields, rfl⟩ := hmap
          simp [hcell]
        · have hne : ∀ fields, context ≠ .map fields := fun fields heq => hmap ⟨fields, heq⟩
          have hfalsy : context.isTruthy = false := by
            by_contra htruthy
            rw [Bool.not_eq_false] at htruthy
            exact h context ⟨hlevel, hkind, hcell, hfind, htruthy, hne⟩
          cases context with
          | map fields => exact absurd rfl (hne fields)
          | _ => simp [hcell, hfalsy]
  next hnot =>
    rw [Bool.not_eq_true] at hnot
    rw [hnot, Bool.false_and]

/-- Without a limit a query finds what it asks for, up to an object at which it balks. -/
lemma hits_cases (q : EventQuery) (events : List Datum.Entries) :
    (∀ entries ∈ events, ∀ context, ¬q.Balks entries context) ∧
        hits q events = (events.filter q.asks, none) ∨
      ∃ newer entries older context, events = newer ++ entries :: older ∧
        q.Balks entries context ∧
        hits q events = (newer.filter q.asks, some (.noMapping context.kind)) ∧
        ∀ entries ∈ newer, ∀ context, ¬q.Balks entries context := by
  induction events with
  | nil => exact .inl ⟨List.forall_mem_nil _, rfl⟩
  | cons entries rest ih =>
    by_cases hbalks : ∃ context, q.Balks entries context
    · obtain ⟨context, hbalks⟩ := hbalks
      refine .inr ⟨[], entries, rest, context, rfl, hbalks, ?_, List.forall_mem_nil _⟩
      rw [hits, matchesQuery_of_balks hbalks]
      rfl
    · have hfirst : ∀ context, ¬q.Balks entries context := not_exists.mp hbalks
      have hnext (more : List Datum.Entries) (error : Option QueryError)
          (hrest : hits q rest = (more, error)) : hits q (entries :: rest) =
            (if q.asks entries then entries :: more else more, error) := by
        rw [hits, matchesQuery_eq_asks hfirst, hrest]
        cases q.asks entries <;> rfl
      rcases ih with ⟨hall, hhits⟩ | ⟨newer, stop, older, context, rfl, hstop, hhits, hall⟩
      · refine .inl ⟨List.forall_mem_cons.mpr ⟨hfirst, hall⟩, ?_⟩
        rw [hnext _ _ hhits, List.filter_cons]
      · refine .inr ⟨entries :: newer, stop, older, context, rfl, hstop, ?_, ?_⟩
        · rw [hnext _ _ hhits, List.filter_cons]
        · exact List.forall_mem_cons.mpr ⟨hfirst, hall⟩

/-! ### Lines -/

/-- The lines that a query looks at. -/
def linesOf (log : EventLog) (octets : Octets) : List String :=
  lines (ofUtf8Lossy (tail octets log.tailBytes.toNat))

/-- The JSON object that a line is, if it is one. -/
def objectOf? (room : Nat) (s : String) : Option Datum.Entries :=
  match Json.parse room s with
  | .ok (.map entries) => some entries
  | _ => none

/-- The JSON objects that a query looks at, oldest first. -/
def objects (log : EventLog) (room : Nat) (octets : Octets) : List Datum.Entries :=
  (log.linesOf octets).filterMap (objectOf? room)

/-- No token begins with a blank character. -/
lemma readToken_of_isBlank {c : Char} (hc : isBlank c = true) (cs : List Char) :
    readToken (c :: cs) = none := by
  have hspecial : (('"' :: '-' :: 'I' :: 'N' :: 'f' :: 'n' :: 't' :: '0' :: marks).all
      fun special => !isBlank special) = true := by decide
  have hne : ∀ special ∈ '"' :: '-' :: 'I' :: 'N' :: 'f' :: 'n' :: 't' :: '0' :: marks,
      c ≠ special := by
    rintro special hmem rfl
    simpa [hc] using List.all_eq_true.mp hspecial c hmem
  simp only [List.forall_mem_cons] at hne
  obtain ⟨hquote, hminus, hI, hN, hf, hn, ht, hzero, hmarks⟩ := hne
  have hdigit : isAsciiDigit c = false := by
    have hdigits : ∀ n < 10, isBlank (Char.ofNat (0x30 + n)) = false := by decide
    by_contra h
    simp only [isAsciiDigit, Bool.not_eq_false, Bool.and_eq_true, decide_eq_true_eq] at h
    have hlow : 0x30 ≤ c.toNat := h.1
    have hhigh : c.toNat ≤ 0x39 := h.2
    have hblank := hdigits (c.toNat - 0x30) (by omega)
    rw [show 0x30 + (c.toNat - 0x30) = c.toNat by omega, Char.ofNat_toNat, hc] at hblank
    cases hblank
  have hwords : ∀ entry ∈ words, entry.1.isPrefixOf (c :: cs) = false := by
    simp [words, List.isPrefixOf, hminus.symm, hI.symm, hN.symm, hf.symm, hn.symm, ht.symm]
  have hnumber : readNumber false (c :: cs) = none := by
    have hwhole : readWhole (c :: cs) = ([], c :: cs) := by
      rw [readWhole, List.span_eq_takeWhile_dropWhile,
        List.takeWhile_cons_of_neg (by simp [hdigit]),
        List.dropWhile_cons_of_neg (by simp [hdigit])]
      rintro rest ⟨⟩
      exact hzero rfl
    rw [readNumber, hwhole]
    rfl
  rw [readToken, if_neg fun hmem => hmarks c hmem rfl, if_neg hquote]
  split
  next word d hword =>
    have hno := hwords (word, d) (List.mem_of_find?_eq_some hword)
    have hbegins := List.find?_some hword
    cases hno.symm.trans hbegins
  next => rw [if_neg hminus, hnumber]

/-- A blank line is no object. -/
lemma parse_of_blank (h : s.toList.all isBlank = true) : Json.parse room s = .error .malformed := by
  have htokens (n : Nat) : (tokens s.toList n).1 = [] := by
    cases n with
    | zero => rfl
    | succ n =>
      rw [tokens]
      split
      next => rfl
      next hne =>
        obtain ⟨c, cs, hcs⟩ := List.exists_cons_of_ne_nil hne
        have hmem : c ∈ s.toList := by
          apply (List.dropWhile_suffix isSpace).mem
          rw [hcs]
          exact List.mem_cons_self
        rw [hcs, readToken_of_isBlank (List.all_eq_true.mp h c hmem)]
  rw [Json.parse]
  simp only [htokens, Json.run]

/-- A line that passes no limit is read as the object that it is, or passed over. -/
lemma readLine_eq (h : ¬BeyondLimits room s) : readLine room s = .ok (objectOf? room s) := by
  rw [readLine, objectOf?]
  split
  next hblank => rw [parse_of_blank hblank]
  next =>
    cases hparse : Json.parse room s with
    | ok d => cases d <;> rfl
    | error e =>
      have he : e = .malformed := by
        by_contra hne
        exact h ⟨e, hparse, hne⟩
      rw [he]

lemma readLine_of_beyond {e : Json.ReadError} (h : Json.parse room s = .error e)
    (hne : e ≠ .malformed) : readLine room s = .error e := by
  rw [readLine, if_neg, h]
  · cases e with
    | malformed => exact absurd rfl hne
    | _ => rfl
  · intro hblank
    rw [parse_of_blank hblank] at h
    cases h
    exact hne rfl

lemma readLines_eq (h : ∀ s ∈ ls, ¬BeyondLimits room s) :
    readLines room ls = .ok (ls.filterMap (objectOf? room)) := by
  induction ls with
  | nil => rfl
  | cons s ls ih =>
    obtain ⟨hfirst, hrest⟩ := List.forall_mem_cons.mp h
    rw [readLines, readLine_eq hfirst, ih hrest, List.filterMap_cons]
    simp only [Bind.bind, Except.bind]
    cases objectOf? room s <;> rfl

/-- The first line that passes a limit is told. -/
lemma readLines_of_beyond (hs : s ∈ ls) (h : BeyondLimits room s) :
    ∃ s ∈ ls, ∃ e, Json.parse room s = .error e ∧ e ≠ .malformed ∧
      readLines room ls = .error e := by
  induction ls with
  | nil => cases hs
  | cons first ls ih =>
    by_cases hfirst : BeyondLimits room first
    · obtain ⟨e, herror, hne⟩ := hfirst
      refine ⟨first, List.mem_cons_self, e, herror, hne, ?_⟩
      rw [readLines, readLine_of_beyond herror hne]
      rfl
    · have hmem : s ∈ ls := by
        rcases List.mem_cons.mp hs with rfl | hmem
        · exact absurd h hfirst
        · exact hmem
      obtain ⟨line, hline, e, herror, hne, hread⟩ := ih hmem
      refine ⟨line, List.mem_cons_of_mem first hline, e, herror, hne, ?_⟩
      rw [readLines, readLine_eq hfirst, hread]
      rfl

lemma load_eq (hread : d.read log.file = .ok octets) (hbound : 0 ≤ log.tailBytes) :
    log.load room d = (readLines room (log.linesOf octets)).mapError .json := by
  rw [load, has_of_read hread, hread]
  simp only [Except.mapError, Bind.bind, Except.bind, Bool.not_true, Bool.false_eq_true, if_false,
    if_neg (Int.not_lt.mpr hbound), linesOf]

/-! ### Queries of any log -/

/-- How a query takes a log that holds these octets, whatever they are. -/
structure TakesAny (log : EventLog) (room : Nat) (d : Disk) (q : EventQuery) (octets : Octets) :
    Prop where
  /-- What is found are the newest objects that are asked for, no more than are allowed. -/
  found_eq : ∀ found, log.query room d q = .ok found →
    found = ((log.objects room octets).reverse.filter q.asks).take (allowed q.limit)
  /-- It fails for a line that passes a limit, or when it balks before it has found enough. -/
  fails_iff : (∃ error, log.query room d q = .error error) ↔
    (∃ s ∈ log.linesOf octets, BeyondLimits room s) ∨
      ∃ newer entries older context, (log.objects room octets).reverse = newer ++ entries :: older ∧
        q.Balks entries context ∧ (newer.filter q.asks).length < allowed q.limit
  cause : ∀ error, log.query room d q = .error error →
    (∃ s ∈ log.linesOf octets, ∃ e, Json.parse room s = .error e ∧ e ≠ .malformed ∧
      error = .json e) ∨
      ∃ entries ∈ log.objects room octets, ∃ context, q.Balks entries context ∧
        error = .noMapping context.kind
  long_or_deep : ∀ s ∈ log.linesOf octets, BeyondLimits room s →
    HasLongRun s.toList ∨ room < s.toList.countP isOpening

/-- The first object at which a query balks comes before every other one. -/
lemma prefix_of_balks {newer newer' older older' : List Datum.Entries} {stop stop' : Datum.Entries}
    (hsame : newer ++ stop :: older = newer' ++ stop' :: older')
    (hbefore : ∀ entries ∈ newer, ∀ context, ¬q.Balks entries context)
    (hstop : q.Balks stop' context) : newer <+: newer' := by
  rcases List.append_eq_append_iff.mp hsame with ⟨more, rfl, -⟩ | ⟨more, rfl, hrest⟩
  · exact List.prefix_append newer more
  · cases more with
    | nil => rw [List.append_nil]
    | cons entries more =>
      obtain ⟨rfl, -⟩ := List.cons.inj hrest
      exact absurd hstop (hbefore _ (List.mem_append_right _ List.mem_cons_self) _)

lemma query_of_beyond (hread : d.read log.file = .ok octets) (hbound : 0 ≤ log.tailBytes)
    (hs : s ∈ log.linesOf octets) (h : BeyondLimits room s) :
    ∃ s ∈ log.linesOf octets, ∃ e, Json.parse room s = .error e ∧ e ≠ .malformed ∧
      log.query room d q = .error (.json e) := by
  obtain ⟨line, hline, e, herror, hne, hlines⟩ := readLines_of_beyond hs h
  refine ⟨line, hline, e, herror, hne, ?_⟩
  rw [query_eq, load_eq hread hbound, hlines]
  rfl

lemma query_of_within (hread : d.read log.file = .ok octets) (hbound : 0 ≤ log.tailBytes)
    (h : ∀ s ∈ log.linesOf octets, ¬BeyondLimits room s) :
    log.query room d q = firstOf (allowed q.limit) (hits q (log.objects room octets).reverse) := by
  rw [query_eq, load_eq hread hbound, readLines_eq h]
  rfl

lemma takesAny_of_beyond (hread : d.read log.file = .ok octets) (hbound : 0 ≤ log.tailBytes)
    (hs : s ∈ log.linesOf octets) (h : BeyondLimits room s) : log.TakesAny room d q octets := by
  obtain ⟨line, hline, e, herror, hne, hquery⟩ := query_of_beyond (q := q) hread hbound hs h
  constructor
  case found_eq =>
    intro found hfound
    rw [hquery] at hfound
    cases hfound
  case fails_iff => exact iff_of_true ⟨_, hquery⟩ (.inl ⟨s, hs, h⟩)
  case cause =>
    intro error hfails
    rw [hquery] at hfails
    cases hfails
    exact .inl ⟨line, hline, e, herror, hne, rfl⟩
  case long_or_deep => exact fun s _ hbeyond => hbeyond.cases

/-- A query that never balks is not stopped. -/
lemma takesAny_of_forall_not_balks (h : ∀ s ∈ log.linesOf octets, ¬BeyondLimits room s)
    (hall : ∀ entries ∈ (log.objects room octets).reverse, ∀ context, ¬q.Balks entries context)
    (hquery : log.query room d q =
      .ok (((log.objects room octets).reverse.filter q.asks).take (allowed q.limit))) :
    log.TakesAny room d q octets := by
  have hok : ¬∃ error, log.query room d q = .error error := by
    rintro ⟨error, hfails⟩
    rw [hquery] at hfails
    cases hfails
  constructor
  case found_eq =>
    intro found hfound
    rw [hquery] at hfound
    cases hfound
    rfl
  case fails_iff =>
    refine iff_of_false hok ?_
    rintro (⟨s, hs, hpasses⟩ | ⟨newer, stop, older, context, hobjects, hstop, -⟩)
    · exact h s hs hpasses
    · refine hall stop ?_ context hstop
      rw [hobjects]
      exact List.mem_append_right newer List.mem_cons_self
  case cause => exact fun error hfails => absurd ⟨error, hfails⟩ hok
  case long_or_deep => exact fun s hs hpasses => absurd hpasses (h s hs)

/-- One that balks is stopped unless it has found enough before. -/
lemma takesAny_of_balks {newer older : List Datum.Entries} {stop : Datum.Entries}
    (h : ∀ s ∈ log.linesOf octets, ¬BeyondLimits room s)
    (hobjects : (log.objects room octets).reverse = newer ++ stop :: older)
    (hstop : q.Balks stop context)
    (hbefore : ∀ entries ∈ newer, ∀ context, ¬q.Balks entries context)
    (hquery : log.query room d q =
      if allowed q.limit ≤ (newer.filter q.asks).length then
        .ok ((newer.filter q.asks).take (allowed q.limit))
      else .error (.noMapping context.kind)) :
    log.TakesAny room d q octets := by
  constructor
  case found_eq =>
    intro found hfound
    rw [hquery] at hfound
    split at hfound
    next henough =>
      cases hfound
      rw [hobjects, List.filter_append, List.take_append_of_le_length henough]
    next => cases hfound
  case fails_iff =>
    constructor
    · rintro ⟨error, hfails⟩
      rw [hquery] at hfails
      split at hfails
      next => cases hfails
      next hfew =>
        exact .inr ⟨newer, stop, older, context, hobjects, hstop, Nat.lt_of_not_le hfew⟩
    · rintro (⟨s, hs, hpasses⟩ | ⟨newer', stop', older', context', hobjects', hstop', hfew⟩)
      · exact absurd hpasses (h s hs)
      · have hbegins := prefix_of_balks (hobjects.symm.trans hobjects') hbefore hstop'
        have hfewer := (hbegins.filter q.asks).length_le
        exact ⟨_, hquery.trans (if_neg (Nat.not_le.mpr (Nat.lt_of_le_of_lt hfewer hfew)))⟩
  case cause =>
    intro error hfails
    rw [hquery] at hfails
    split at hfails
    next => cases hfails
    next =>
      cases hfails
      have hmem : stop ∈ (log.objects room octets).reverse := by
        rw [hobjects]
        exact List.mem_append_right newer List.mem_cons_self
      exact .inr ⟨stop, List.mem_reverse.mp hmem, context, hstop, rfl⟩
  case long_or_deep => exact fun s hs hpasses => absurd hpasses (h s hs)

lemma takesAny_of_within (hread : d.read log.file = .ok octets) (hbound : 0 ≤ log.tailBytes)
    (h : ∀ s ∈ log.linesOf octets, ¬BeyondLimits room s) : log.TakesAny room d q octets := by
  have hquery := query_of_within (q := q) hread hbound h
  rcases hits_cases q (log.objects room octets).reverse with
    ⟨hall, hhits⟩ | ⟨newer, stop, older, context, hobjects, hstop, hhits, hbefore⟩
  · rw [hhits, firstOf] at hquery
    exact takesAny_of_forall_not_balks h hall hquery
  · rw [hhits, firstOf] at hquery
    exact takesAny_of_balks h hobjects hstop hbefore hquery

/-- A query of a log with any octets finds the newest of the objects that it asks for, and fails
only for a line that passes a limit or at an object whose context is no object. -/
theorem takesAny_of_read (hread : d.read log.file = .ok octets) (hbound : 0 ≤ log.tailBytes)
    (room : Nat) (q : EventQuery) : log.TakesAny room d q octets := by
  by_cases hbeyond : ∃ s ∈ log.linesOf octets, BeyondLimits room s
  · obtain ⟨s, hs, hpasses⟩ := hbeyond
    exact takesAny_of_beyond hread hbound hs hpasses
  · apply takesAny_of_within hread hbound
    exact fun s hs hpasses => hbeyond ⟨s, hs, hpasses⟩

/-! ### Logs of one line -/

def octetsOf (line : List Char) : Octets :=
  (line ++ ['\n']).flatMap String.utf8EncodeChar

/-- A log in the working directory, of which just one line is looked at. -/
def lineLog (line : List Char) : EventLog :=
  ⟨.current, false, (octetsOf line).length⟩

def lineDisk (line : List Char) : Disk :=
  (Disk.blank "home").put ["home", fileName] (.file (octetsOf line))

lemma read_lineDisk (line : List Char) :
    (lineDisk line).read (lineLog line).file = .ok (octetsOf line) := by
  have hfree : (Disk.blank "home").node? ["home", fileName] = none := Disk.node?_blank_child
  have hlocate : (Disk.blank "home").locate (lineLog line).file = .ok ["home", fileName] := by cbv
  have hput : (lineDisk line).locate (lineLog line).file = .ok ["home", fileName] :=
    Disk.locate_of_directories (fun k => Disk.node?_put_of_directory (by simp [hfree])) rfl rfl
      hlocate
  exact Disk.read_of_locate hput (Disk.node?_put_self (by simp))

lemma linesOf_lineLog {line : List Char} (h : ∀ c ∈ line, isLineEnd c = false) :
    (lineLog line).linesOf (octetsOf line) = [String.ofList line] := by
  have htail : tail (octetsOf line) (lineLog line).tailBytes.toNat = octetsOf line := by
    rw [tail, if_pos (by simp [lineLog])]
  have hlines := linesFrom_terminated (List.forall_mem_singleton.mpr h)
  rw [List.flatMap_singleton] at hlines
  rw [linesOf, htail, octetsOf, ofUtf8Lossy_encoded, lines, String.toList_ofList, hlines]
  rfl

lemma load_lineLog (room : Nat) {line : List Char} (h : ∀ c ∈ line, isLineEnd c = false) :
    (lineLog line).load room (lineDisk line) =
      (readLines room [String.ofList line]).mapError .json := by
  rw [load_eq (read_lineDisk line) (Int.natCast_nonneg _), linesOf_lineLog h]

/-- An object whose context is a number. -/
def numbered : Datum CodePoints :=
  .record [("context", .integer 1)]

theorem takesAny_numbered :
    (lineDisk (lineChars numbered)).read (lineLog (lineChars numbered)).file =
      .ok (octetsOf (lineChars numbered)) ∧
    0 ≤ (lineLog (lineChars numbered)).tailBytes ∧
    (lineLog (lineChars numbered)).TakesAny 1 (lineDisk (lineChars numbered))
      ⟨[], [], "A1", defaultLimit⟩ (octetsOf (lineChars numbered)) := by
  have hread := read_lineDisk (lineChars numbered)
  have hbound : 0 ≤ (lineLog (lineChars numbered)).tailBytes := Int.natCast_nonneg _
  exact ⟨hread, hbound, takesAny_of_read hread hbound 1 _⟩

/-- Two logs of one line each make a query fail: an object whose context is a number, when a cell is
asked for, and an integer with one digit too many. -/
theorem fails_numbered_and_long :
    (lineLog (lineChars numbered)).query 1 (lineDisk (lineChars numbered))
      ⟨[], [], "A1", defaultLimit⟩ = .error (.noMapping "int") ∧
    (lineLog (List.replicate 4301 '1')).query 1 (lineDisk (List.replicate 4301 '1'))
      (.unfiltered defaultLimit) = .error (.json (.integerTooLong 4301)) := by
  constructor
  · have hline : ∀ c ∈ lineChars numbered, isLineEnd c = false := by
      have hall : (lineChars numbered).all (fun c => !isLineEnd c) = true := by cbv
      intro c hc
      simpa using List.all_eq_true.mp hall c hc
    have hparse : Json.parse 1 (String.ofList (lineChars numbered)) = .ok numbered := by
      have hkey := CodePoints.unpaired_ofString "context"
      refine parse_line (isJson_record_iff.mpr ⟨by decide, ?_, ?_⟩) (by cbv)
      · exact List.forall_mem_singleton.mpr hkey
      · exact List.forall_mem_singleton.mpr (.integer 1)
    have hwithin : ¬BeyondLimits 1 (String.ofList (lineChars numbered)) := by
      rintro ⟨e, herror, -⟩
      rw [hparse] at herror
      cases herror
    have hload := load_lineLog 1 hline
    rw [readLines_eq (List.forall_mem_singleton.mpr hwithin), List.filterMap_cons, objectOf?,
      hparse] at hload
    rw [query, hload]
    rfl
  · have hline : ∀ c ∈ List.replicate 4301 '1', isLineEnd c = false := by
      intro c hc
      rw [List.eq_of_mem_replicate hc]
      decide
    have hplain : Number.Plain (List.replicate 4301 '1') := by
      refine ⟨fun c hc => ?_, .inr ⟨'1', List.replicate 4300 '1', rfl, by decide⟩⟩
      rw [List.eq_of_mem_replicate hc]
      decide
    have hparse : Json.parse 1 _ = _ :=
      parse_of_plain hplain (by rw [List.length_replicate]; decide)
    have hload := load_lineLog 1 hline
    rw [readLines, readLine_of_beyond hparse (by intro h; cases h), List.length_replicate] at hload
    rw [query, hload]
    rfl

end EventLog

end Recalc
