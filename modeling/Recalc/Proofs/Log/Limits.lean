import Recalc.Proofs.Log.Query

/-!
# Limits of queries

A query goes through the log from its newest event on, until it has found as many events as its
limit allows. So a smaller limit finds the first of the events that a larger one finds. A limit
below one counts as one, since the limit is looked at only after an event was found.
-/

namespace Recalc

/-- A query that asks for nothing in particular. -/
def EventQuery.unfiltered (limit : Int) : EventQuery :=
  ⟨[], [], [], limit⟩

namespace EventLog

variable {log : EventLog} {d : Disk} {q : EventQuery} {events : List Datum.Entries}
  {limit limit' : Int} {found room : Nat}

/-! ### Queries without a limit -/

/-- The events that a query would find without a limit, up to one about which it cannot be told
whether it is asked for, and why it cannot. -/
def hits (q : EventQuery) : List Datum.Entries → List Datum.Entries × Option QueryError
  | [] => ([], none)
  | entries :: rest =>
    match matchesQuery q entries with
    | .ok true => (entries :: (hits q rest).1, (hits q rest).2)
    | .ok false => hits q rest
    | .error e => ([], some e)

/-- The first events of those that were found. An error after them does not count. -/
def firstOf (count : Nat) :
    List Datum.Entries × Option QueryError → Except QueryError (List Datum.Entries)
  | (all, none) => .ok (all.take count)
  | (all, some e) => if count ≤ all.length then .ok (all.take count) else .error e

/-- How many events a query may find. -/
def allowed (limit : Int) : Nat :=
  (max 1 (min limit limitCap)).toNat

lemma firstOf_cons (count : Nat) (entries : Datum.Entries)
    (hits : List Datum.Entries × Option QueryError) :
    firstOf (count + 1) (entries :: hits.1, hits.2) =
      (firstOf count hits).map (entries :: ·) := by
  obtain ⟨all, _ | e⟩ := hits
  · rfl
  · simp only [firstOf, List.length_cons, Nat.add_le_add_iff_right]
    split <;> rfl

lemma firstOf_one_cons (entries : Datum.Entries) (hits : List Datum.Entries × Option QueryError) :
    firstOf 1 (entries :: hits.1, hits.2) = .ok [entries] := by
  obtain ⟨all, _ | e⟩ := hits <;> simp [firstOf]

/-- To look until the limit is reached is to take the first events of all. -/
lemma select_eq (q : EventQuery) (limit : Int) (found : Nat) (events : List Datum.Entries) :
    select q limit found events = firstOf (max 1 (limit - found)).toNat (hits q events) := by
  induction events generalizing found with
  | nil => simp [select, hits, firstOf]
  | cons entries rest ih =>
    rw [select, hits]
    cases matchesQuery q entries with
    | error e =>
      have hnone : ¬(max 1 (limit - found)).toNat ≤ 0 := by omega
      simp [firstOf, hnone, Bind.bind, Except.bind]
    | ok matched =>
      cases matched with
      | false => exact ih found
      | true =>
        simp only [Bind.bind, Except.bind, if_true]
        by_cases hlast : limit ≤ found + 1
        · have hone : (max 1 (limit - found)).toNat = 1 := by omega
          rw [if_pos hlast, hone, firstOf_one_cons]
          rfl
        · have hmore : (max 1 (limit - found)).toNat =
              (max 1 (limit - (found + 1 : Nat))).toNat + 1 := by omega
          rw [if_neg hlast, ih (found + 1), hmore, firstOf_cons]
          cases firstOf (max 1 (limit - (found + 1 : Nat))).toNat (hits q rest) <;> rfl

lemma query_eq (log : EventLog) (room : Nat) (d : Disk) (q : EventQuery) : log.query room d q =
    (log.load room d).bind fun events => firstOf (allowed q.limit) (hits q events.reverse) := by
  rw [query]
  apply congrArg
  funext events
  rw [select_eq, Nat.cast_zero, Int.sub_zero, allowed]

/-- What a query would find without a limit does not depend on its limit. -/
lemma hits_limit (q : EventQuery) (limit : Int) (events : List Datum.Entries) :
    hits { q with limit := limit } events = hits q events := by
  induction events with
  | nil => rfl
  | cons entries rest ih =>
    have hmatches : matchesQuery { q with limit := limit } entries = matchesQuery q entries := rfl
    rw [hits, hits, hmatches, ih]

/-! ### Smaller and larger limits -/

lemma length_of_firstOf {count : Nat} {hits : List Datum.Entries × Option QueryError}
    {all : List Datum.Entries} (h : firstOf count hits = .ok all) : all.length ≤ count := by
  obtain ⟨every, error⟩ := hits
  cases error with
  | none =>
    cases h
    exact List.length_take_le count every
  | some e =>
    simp only [firstOf] at h
    split at h
    next =>
      cases h
      exact List.length_take_le count every
    next => cases h

/-- Fewer events are the first of more events. -/
lemma exists_firstOf_prefix {count count' : Nat} (hle : count ≤ count')
    {hits : List Datum.Entries × Option QueryError} {all : List Datum.Entries}
    (h : firstOf count' hits = .ok all) : ∃ few, firstOf count hits = .ok few ∧ few <+: all := by
  obtain ⟨every, error⟩ := hits
  cases error with
  | none =>
    cases h
    exact ⟨_, rfl, List.take_prefix_take_left hle⟩
  | some e =>
    simp only [firstOf] at h
    split at h
    next hlength =>
      cases h
      refine ⟨every.take count, ?_, List.take_prefix_take_left hle⟩
      simp only [firstOf, if_pos (Nat.le_trans hle hlength)]
    next => cases h

lemma exists_firstOf_iff {count : Nat} {hits : List Datum.Entries × Option QueryError} :
    (∃ all, firstOf count hits = .ok all) ↔ hits.2 = none ∨ count ≤ hits.1.length := by
  obtain ⟨every, _ | e⟩ := hits
  · simp [firstOf]
  · by_cases h : count ≤ every.length <;> simp [firstOf, h]

lemma allowed_mono (h : limit ≤ limit') : allowed limit ≤ allowed limit' := by
  rw [allowed, allowed]
  omega

/-- How a query keeps to its limit. -/
structure KeepsToLimit (log : EventLog) (room : Nat) (d : Disk) (q : EventQuery) : Prop where
  /-- The events are found if the log can be read and what is looked at can be asked. -/
  returns_iff : (∃ found, log.query room d q = .ok found) ↔ ∃ events, log.load room d = .ok events ∧
    ((hits q events.reverse).2 = none ∨
      allowed q.limit ≤ (hits q events.reverse).1.length)
  length_le : 1 ≤ q.limit → ∀ found, log.query room d q = .ok found →
    (found.length : Int) ≤ min q.limit limitCap
  exists_prefix : ∀ limit, q.limit ≤ limit → ∀ all,
    log.query room d { q with limit := limit } = .ok all →
      ∃ found, log.query room d q = .ok found ∧ found <+: all
  /-- No limit allows less than one event. -/
  eq_of_limit_le : q.limit ≤ 0 → log.query room d q = log.query room d { q with limit := 1 }

/-- Whatever is in the log, a query finds no more than a positive limit, and the first events of
those that it finds with a larger limit. -/
theorem keepsToLimit (log : EventLog) (room : Nat) (d : Disk) (q : EventQuery) :
    log.KeepsToLimit room d q := by
  constructor
  · rw [query_eq]
    cases log.load room d with
    | error e => simp [Except.bind]
    | ok events =>
      simp only [Except.bind, exists_firstOf_iff, Except.ok.injEq, exists_eq_left']
  · intro hlimit found hquery
    rw [query_eq] at hquery
    obtain ⟨events, -, hfirst⟩ := Disk.exists_of_bind hquery
    have hlength := length_of_firstOf hfirst
    rw [allowed, limitCap] at hlength
    rw [limitCap]
    omega
  · intro limit hle all hquery
    rw [query_eq] at hquery
    obtain ⟨events, hload, hfirst⟩ := Disk.exists_of_bind hquery
    rw [hits_limit] at hfirst
    obtain ⟨few, hfew, hprefix⟩ := exists_firstOf_prefix (allowed_mono hle) hfirst
    refine ⟨few, ?_, hprefix⟩
    rw [query_eq, hload]
    exact hfew
  · intro hlimit
    have hallowed : allowed q.limit = allowed 1 := by
      unfold allowed limitCap
      omega
    simp only [query_eq, hits_limit, hallowed]

/-! ### Queries for all events -/

/-- Every event is asked for. -/
lemma hits_unfiltered (limit : Int) (events : List Datum.Entries) :
    hits (.unfiltered limit) events = (events, none) := by
  induction events with
  | nil => rfl
  | cons entries rest ih =>
    have hmatches : matchesQuery (.unfiltered limit) entries = .ok true := rfl
    rw [hits, hmatches, ih]

lemma query_unfiltered {events : List Datum.Entries} (hload : log.load room d = .ok events)
    (limit : Int) :
    log.query room d (.unfiltered limit) = .ok (events.reverse.take (allowed limit)) := by
  rw [query_eq, hload, Except.bind, hits_unfiltered]
  rfl

/-- A limit of no events at all still gives the newest one. -/
theorem exists_query_notes_longer : ∃ written found,
    notes.foldlM ((logOf notes).write 3) (Disk.blank "home") = .ok written ∧
      (logOf notes).query 3 written (.unfiltered 0) = .ok found ∧
      ¬(found.length : Int) ≤ min 0 limitCap := by
  obtain ⟨written, habsent, hwrites, hsize⟩ := exists_writes_logOf fault?_notes
  have hload := load_of_writes habsent le_rfl hwrites hsize isJson_notes
  refine ⟨written, _, hwrites, query_unfiltered hload 0, ?_⟩
  rw [← List.map_reverse]
  decide

end EventLog

end Recalc
