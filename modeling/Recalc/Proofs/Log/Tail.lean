import Recalc.Proofs.Json.Readable
import Recalc.Proofs.Log.Limits

/-!
# Ends of logs

A query looks at the end of a log only. The line in which that end begins is left out, since part of
it may be missing. So it is as well when nothing of that line is missing, and the event of a line
that begins right at the bound is not found, though the whole line is within the bound.
-/

namespace Recalc.EventLog

open Recalc.Json Recalc.Text

variable {log : EventLog} {disk written : Disk} {e : Event} {events before : List Event}
  {count start n room room' : Nat}

/-! ### Lines within a bound -/

/-- The octets of a log of these events, from the line of the event at a place on. -/
def octetsFrom (events : List Event) (i : Nat) : Octets :=
  (events.drop i).flatMap lineOctets

lemma length_octetsFrom_le (events : List Event) {i j : Nat} (h : i ≤ j) :
    (octetsFrom events j).length ≤ (octetsFrom events i).length := by
  obtain ⟨k, rfl⟩ := Nat.exists_eq_add_of_le h
  have hsuffix : octetsFrom events (i + k) <:+ octetsFrom events i := by
    rw [octetsFrom, octetsFrom, ← List.drop_drop]
    refine ⟨((events.drop i).take k).flatMap lineOctets, ?_⟩
    rw [← List.flatMap_append, List.take_append_drop]
  exact hsuffix.length_le

lemma one_lt_length_lineOctets (e : Event) : 1 < (lineOctets e).length := by
  have hopen : ∃ rest, lineOctets e = 0x7B :: (rest ++ [0x0A]) := by
    rw [lineOctets_eq, e.sortKeys_toDatum, lineChars, List.flatMap_append]
    exact ⟨_, rfl⟩
  obtain ⟨rest, hrest⟩ := hopen
  rw [hrest, List.length_cons, List.length_append, List.length_singleton]
  exact Nat.succ_lt_succ (Nat.succ_pos _)

/-- A place from which on there are octets is that of an event. -/
lemma lt_length_of_octetsFrom {i : Nat} (h : 0 < (octetsFrom events i).length) :
    i < events.length := by
  apply Nat.lt_of_not_le
  intro hend
  rw [octetsFrom, List.drop_eq_nil_of_le hend] at h
  exact Nat.lt_irrefl 0 h

/-- The lines within a bound are the last ones. -/
lemma exists_first_within (events : List Event) (count : Nat) :
    ∃ n, ∀ i, n ≤ i ↔ (octetsFrom events i).length ≤ count := by
  have hall : (octetsFrom events events.length).length ≤ count := by
    rw [octetsFrom, List.drop_length]
    exact Nat.zero_le count
  have hsome : ∃ i, (octetsFrom events i).length ≤ count := ⟨_, hall⟩
  refine ⟨Nat.find hsome, fun i => ⟨?_, Nat.find_min' hsome⟩⟩
  exact fun hle => (length_octetsFrom_le events hle).trans (Nat.find_spec hsome)

/-- What is before the first line end is left out with it. -/
lemma drop_dropWhile_line (e : Event) (rest : Octets) (h : start < (lineOctets e).length) :
    (((lineOctets e ++ rest).drop start).dropWhile (· ≠ 0x0A)).drop 1 = rest := by
  rw [lineOctets_eq_append, List.length_append, List.length_singleton] at h
  have hkept : ∀ octet ∈ (toUtf8 (line e)).drop start, (octet ≠ 0x0A : Bool) = true := by
    intro octet hmem
    have hne : octet ≠ 0x0A := fun heq => line_feed_not_mem e (heq ▸ List.mem_of_mem_drop hmem)
    exact decide_eq_true hne
  have hbegin : start ≤ (toUtf8 (line e)).length := Nat.le_of_lt_succ h
  rw [lineOctets_eq_append, List.append_assoc, List.drop_append_of_le_length hbegin,
    List.dropWhile_append_of_pos hkept]
  rfl

/-- Octets that begin in a line, or right before it, are left with the lines after it. -/
lemma drop_dropWhile_lines (after : List Event)
    (hbefore : (before.flatMap lineOctets).length ≤ start)
    (hline : start < (before.flatMap lineOctets).length + (lineOctets e).length) :
    ((((before ++ e :: after).flatMap lineOctets).drop start).dropWhile (· ≠ 0x0A)).drop 1 =
      after.flatMap lineOctets := by
  obtain ⟨k, rfl⟩ := Nat.exists_eq_add_of_le hbefore
  have hk : k < (lineOctets e).length := Nat.lt_of_add_lt_add_left hline
  rw [List.flatMap_append, List.flatMap_cons, List.drop_length_add_append,
    drop_dropWhile_line e _ hk]

lemma tail_zero (octets : Octets) : tail octets 0 = [] := by
  rw [tail]
  split
  next h => exact List.eq_nil_of_length_eq_zero (Nat.le_zero.mp h)
  next => rw [Nat.sub_zero, List.drop_length]; rfl

lemma length_octetsFrom_eq (h : n < events.length) : (octetsFrom events n).length =
    (lineOctets events[n]).length + (octetsFrom events (n + 1)).length := by
  rw [octetsFrom, List.drop_eq_getElem_cons h, List.flatMap_cons, List.length_append, octetsFrom]

lemma length_take_add (events : List Event) (n : Nat) :
    ((events.take n).flatMap lineOctets).length + (octetsFrom events n).length =
      (events.flatMap lineOctets).length := by
  rw [octetsFrom, ← List.length_append, ← List.flatMap_append, List.take_append_drop]

/-- Where the last octets begin in a line, they hold the lines after it. -/
lemma tail_eq_octetsFrom_succ (hn : n < events.length)
    (hmore : count < (events.flatMap lineOctets).length)
    (hle : count ≤ (octetsFrom events n).length)
    (hlt : (octetsFrom events (n + 1)).length < count) :
    tail (events.flatMap lineOctets) count = octetsFrom events (n + 1) := by
  have htake := length_take_add events n
  have hline := length_octetsFrom_eq hn
  have hbefore : ((events.take n).flatMap lineOctets).length ≤
      (events.flatMap lineOctets).length - count := by omega
  have hwithin : (events.flatMap lineOctets).length - count <
      ((events.take n).flatMap lineOctets).length + (lineOctets events[n]).length := by omega
  have hsplit : events.take n ++ events[n] :: events.drop (n + 1) = events := by
    rw [← List.drop_eq_getElem_cons hn, List.take_append_drop]
  have hcut := drop_dropWhile_lines (events.drop (n + 1)) hbefore hwithin
  rw [hsplit] at hcut
  rw [tail, if_neg (Nat.not_le.mpr hmore)]
  exact hcut

/-- The place of the first event that is looked at. -/
def firstLooked (events : List Event) (count n : Nat) : Nat :=
  if 0 < n ∧ (octetsFrom events n).length = count then n + 1 else n

lemma tail_lines (h : ∀ i, n ≤ i ↔ (octetsFrom events i).length ≤ count) :
    tail (events.flatMap lineOctets) count = octetsFrom events (firstLooked events count n) := by
  have hwithin : (octetsFrom events n).length ≤ count := (h n).mp le_rfl
  rcases Nat.eq_zero_or_pos n with rfl | hn
  · have hall : (events.flatMap lineOctets).length ≤ count := hwithin
    rw [firstLooked, if_neg (fun hcut => Nat.lt_irrefl 0 hcut.1), tail, if_pos hall]
    rfl
  have hmore : count < (events.flatMap lineOctets).length :=
    Nat.lt_of_not_le fun hle => Nat.not_le.mpr hn ((h 0).mpr hle)
  rw [firstLooked]
  by_cases hcut : (octetsFrom events n).length = count
  · -- The octets begin with the line of an event, or there are none.
    rw [if_pos ⟨hn, hcut⟩]
    rcases Nat.eq_zero_or_pos count with rfl | hpositive
    · have hnone := length_octetsFrom_le events (Nat.le_succ n)
      rw [hcut, Nat.le_zero] at hnone
      rw [tail_zero, List.eq_nil_of_length_eq_zero hnone]
    · have hlast : n < events.length := lt_length_of_octetsFrom (hcut.symm ▸ hpositive)
      have hline := length_octetsFrom_eq hlast
      have hlong := one_lt_length_lineOctets events[n]
      exact tail_eq_octetsFrom_succ hlast hmore hcut.ge (by omega)
  · -- The octets begin inside of the line before.
    rw [if_neg (fun hboth => hcut hboth.2)]
    obtain ⟨i, rfl⟩ := Nat.exists_eq_succ_of_ne_zero hn.ne'
    have hbefore : count < (octetsFrom events i).length :=
      Nat.lt_of_not_le fun hle => Nat.not_succ_le_self i ((h i).mpr hle)
    have hi : i < events.length := lt_length_of_octetsFrom (Nat.zero_lt_of_lt hbefore)
    exact tail_eq_octetsFrom_succ hi hmore hbefore.le (Nat.lt_of_le_of_ne hwithin hcut)

/-! ### What is read of the lines -/

/-- An entry that was read is that of a written event. -/
structure IsReadOf (room : Nat) (entries : Datum.Entries) (e : Event) : Prop where
  readLine_eq : readLine room (line e) = .ok (some entries)
  same : e.toDatum.IsJson → Datum.Same (.map entries) e.toDatum

/-- Every line that could be written is read as a mapping. -/
lemma exists_isReadOf (hfault : fault? room 0 (sortKeys e.toDatum) = none) :
    ∃ entries, IsReadOf room entries e := by
  have hwritten := hfault
  rw [e.sortKeys_toDatum] at hwritten
  obtain ⟨entries, hparse⟩ := exists_parse_line hwritten
  have hblank : (Json.line (.map e.logged)).toList.all isBlank = false := by
    rw [Json.line, String.toList_ofList, lineChars]
    rfl
  have hread : readLine room (line e) = .ok (some entries) := by
    rw [line, e.sortKeys_toDatum, readLine, hblank, hparse]
    rfl
  refine ⟨entries, hread, ?_⟩
  intro hjson
  have hlogged := hread.symm.trans (readLine_line hjson hfault)
  cases hlogged
  exact Event.same_logged hjson

lemma exists_readLines (hfault : ∀ e ∈ events, fault? room 0 (sortKeys e.toDatum) = none) :
    ∃ found, readLines room (events.map line) = .ok found ∧
      List.Forall₂ (IsReadOf room) found events := by
  induction events with
  | nil => exact ⟨[], rfl, .nil⟩
  | cons e events ih =>
    obtain ⟨hfirst, hrest⟩ := List.forall_mem_cons.mp hfault
    obtain ⟨entries, hentries⟩ := exists_isReadOf hfirst
    obtain ⟨found, hread, hfound⟩ := ih hrest
    refine ⟨entries :: found, ?_, .cons hentries hfound⟩
    rw [List.map_cons, readLines, hentries.readLine_eq, hread]
    rfl

/-- A log of nothing but the lines of events. -/
structure HoldsLines (log : EventLog) (room : Nat) (d : Disk) (events : List Event) : Prop where
  read_eq : d.read log.file = .ok (events.flatMap lineOctets)
  fault?_eq : ∀ e ∈ events, fault? room 0 (sortKeys e.toDatum) = none

lemma HoldsLines.exists_load (h : log.HoldsLines room disk events) (hbound : 0 ≤ log.tailBytes)
    (hfirst : ∀ i, n ≤ i ↔ (octetsFrom events i).length ≤ log.tailBytes.toNat) :
    ∃ found, log.load room disk = .ok found ∧
      List.Forall₂ (IsReadOf room) found
        (events.drop (firstLooked events log.tailBytes.toNat n)) := by
  have hlooked := fun e he => h.fault?_eq e
    (List.mem_of_mem_drop (i := firstLooked events log.tailBytes.toNat n) he)
  obtain ⟨found, hread, hfound⟩ := exists_readLines hlooked
  refine ⟨found, ?_, hfound⟩
  rw [load, has_of_read h.read_eq, h.read_eq]
  simp only [Except.mapError, Bind.bind, Except.bind, Bool.not_true, Bool.false_eq_true, if_false,
    if_neg (Int.not_lt.mpr hbound), tail_lines hfirst, octetsFrom, lines_of_lineOctets, hread]

/-- Events that were written to a new log are all that it holds. -/
lemma holdsLines_of_writes (hnew : disk.has log.file = .ok false ∨ disk.read log.file = .ok [])
    (hroom : room ≤ room') (hwrites : events.foldlM (log.write room) disk = .ok written) :
    written.has log.file = .ok false ∧ events = [] ∨ log.HoldsLines room' written events := by
  have hempty : log.octets disk = [] :=
    hnew.elim octets_of_absent Disk.octetsAt_of_read
  by_cases hne : events = []
  · subst hne
    cases hwrites
    exact hnew.imp (fun habsent => ⟨habsent, rfl⟩) fun hread => ⟨hread, nofun⟩
  · apply Or.inr
    refine ⟨?_, fun e he => fault?_mono hroom 0 _ (fault?_of_writes hwrites e he)⟩
    rw [read_of_writes hne hwrites, octets_of_writes hwrites, hempty, List.nil_append]

/-! ### Written events within the bound -/

/-- A query for all events of a log that began with these events finds those whose lines are within
the bound, newest first; but the one that begins right at the bound, after others, is not found. -/
theorem query_within (hnew : disk.has log.file = .ok false ∨ disk.read log.file = .ok [])
    (hroom : room ≤ room') (hwrites : events.foldlM (log.write room) disk = .ok written)
    (hcount : events.length ≤ limitCap) (hbound : 0 ≤ log.tailBytes) :
    ∃ found n, log.query room' written (.unfiltered limitCap) = .ok found ∧
      (∀ i, n ≤ i ↔ (octetsFrom events i).length ≤ log.tailBytes) ∧
      List.Forall₂ (IsReadOf room') found
        (events.drop (firstLooked events log.tailBytes.toNat n)).reverse := by
  obtain ⟨n, hfirst⟩ := exists_first_within events log.tailBytes.toNat
  have hwithin (i : Nat) : n ≤ i ↔ ((octetsFrom events i).length : Int) ≤ log.tailBytes :=
    (hfirst i).trans (Int.le_toNat hbound)
  rcases holdsLines_of_writes hnew hroom hwrites with ⟨habsent, rfl⟩ | hlines
  · have hload : log.load room' written = .ok [] := by
      rw [load, habsent]
      rfl
    refine ⟨_, n, query_unfiltered hload limitCap, hwithin, ?_⟩
    rw [List.drop_nil]
    exact .nil
  · obtain ⟨found, hload, hfound⟩ := hlines.exists_load hbound hfirst
    have hlength : found.length ≤ allowed limitCap := by
      have hmost : allowed limitCap = 2000 := rfl
      have hlimit : limitCap = 2000 := rfl
      rw [hfound.length_eq, List.length_drop]
      omega
    have hquery := query_unfiltered hload limitCap
    rw [List.take_of_length_le (by rwa [List.length_reverse])] at hquery
    exact ⟨_, n, hquery, hwithin, List.forall₂_reverse_iff.mpr hfound⟩

/-- A log in the working directory, at the end of which this many octets are looked at. -/
def noteLogUpTo (count : Nat) : EventLog :=
  ⟨.current, false, count⟩

/-- Of the two notes, only the second one has its line within so many octets. -/
lemma second_within {count : Nat} (hmore : (octetsFrom notes 1).length ≤ count)
    (hless : count ≤ (octetsFrom notes 1).length + 1) (i : Nat) :
    1 ≤ i ↔ (octetsFrom notes i).length ≤ count := by
  refine ⟨fun hi => (length_octetsFrom_le notes hi).trans hmore, ?_⟩
  intro hle
  have hzero : i ≠ 0 := by
    rintro rfl
    have hline : (octetsFrom notes 0).length =
        (lineOctets notes[0]).length + (octetsFrom notes 1).length :=
      length_octetsFrom_eq (by decide)
    have hlong := one_lt_length_lineOctets notes[0]
    omega
  exact Nat.one_le_iff_ne_zero.mpr hzero

/-- With one octet of the first note, the second note is found. -/
theorem query_second_note : ∃ log written found,
    log = noteLogUpTo ((octetsFrom notes 1).length + 1) ∧
      (Disk.blank "home").has log.file = .ok false ∧ 3 ≤ 3 ∧
      notes.foldlM (log.write 3) (Disk.blank "home") = .ok written ∧
      log.query 3 written (.unfiltered limitCap) = .ok found ∧
      List.Forall₂ (IsReadOf 3) found (notes.drop 1) := by
  obtain ⟨written, habsent, hwrites, -⟩ :=
    exists_writes_current (noteLogUpTo ((octetsFrom notes 1).length + 1)) rfl fault?_notes
  obtain ⟨found, n, hquery, hwithin, hfound⟩ :=
    query_within (.inl habsent) le_rfl hwrites (by decide) (Int.natCast_nonneg _)
  have hsecond := second_within (Nat.le_succ _) le_rfl
  have hn : n = 1 := by
    refine le_antisymm ((hwithin 1).mpr ?_) ((hsecond n).mpr ?_)
    · exact Int.ofNat_le.mpr (Nat.le_succ _)
    · exact Int.ofNat_le.mp ((hwithin n).mp le_rfl)
  subst hn
  have hlooked : firstLooked notes ((octetsFrom notes 1).length + 1) 1 = 1 :=
    if_neg fun hcut => Nat.succ_ne_self _ hcut.2.symm
  refine ⟨_, written, found, rfl, habsent, le_rfl, hwrites, hquery, ?_⟩
  have hsame : (notes.drop (firstLooked notes ((octetsFrom notes 1).length + 1) 1)).reverse =
      notes.drop 1 := by
    rw [hlooked]
    rfl
  exact hsame ▸ hfound

/-- With all octets of the second note and no more, it is not found, though its line is within the
bound. -/
theorem not_query_second_note : ∃ log written,
    log = noteLogUpTo (octetsFrom notes 1).length ∧
      notes.foldlM (log.write 3) (Disk.blank "home") = .ok written ∧
      (octetsFrom notes 1).length ≤ log.tailBytes ∧
      log.query 3 written (.unfiltered limitCap) = .ok [] := by
  obtain ⟨written, habsent, hwrites, -⟩ :=
    exists_writes_current (noteLogUpTo (octetsFrom notes 1).length) rfl fault?_notes
  have hsecond := second_within le_rfl (Nat.le_succ _)
  have hlines :=
    (holdsLines_of_writes (.inl habsent) le_rfl hwrites).resolve_left fun h => nomatch h.2
  obtain ⟨found, hload, hfound⟩ := hlines.exists_load (Int.natCast_nonneg _) hsecond
  have hlooked : firstLooked notes (octetsFrom notes 1).length 1 = 2 :=
    if_pos ⟨Nat.one_pos, rfl⟩
  have hnone : List.Forall₂ (IsReadOf 3) found (notes.drop 2) := hlooked ▸ hfound
  have hfound := List.forall₂_nil_right_iff.mp hnone
  subst hfound
  exact ⟨_, written, rfl, hwrites, le_rfl, query_unfiltered hload limitCap⟩

end Recalc.EventLog
