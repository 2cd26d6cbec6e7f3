import Recalc.Proofs.Json.Values

/-!
# Lines that can be read

What is written of any datum is read as some datum, also when JSON has no form for it. Of a mapping
it is a mapping, whatever its keys are. Only the limits of nesting and of digits stand against this.
-/

namespace Recalc.Json

open Recalc.Number Recalc.Number.Numeral

variable {ts ts' : List Token} {d : Datum CodePoints} {items : List (Datum CodePoints)}
  {entries fields : Datum.Entries} {limit depth : Nat}

/-! ### Tokens of values -/

/-- The tokens put the datum together, and they do not begin like the end of an array. -/
structure IsValue (limit : Nat) (ts : List Token) (depth : Nat) (d : Datum CodePoints) : Prop where
  builds : Builds limit ts depth d
  exists_cons : ∃ t rest, ts = t :: rest ∧ t ≠ .mark ']'

/-- The tokens put the items of an open array together. -/
structure Collects (limit : Nat) (ts : List Token) (depth : Nat)
    (items : List (Datum CodePoints)) : Prop where
  run_eq : ∀ done more stack, stack.length = depth →
    run limit (ts ++ .mark ']' :: more) (.array done :: stack) .value =
      run limit more (close (.list (done.reverse ++ items)) stack).1
        (close (.list (done.reverse ++ items)) stack).2
  exists_cons : ∃ t rest, ts = t :: rest ∧ t ≠ .mark ']'

/-- The tokens add the entries to those of an open object. -/
structure Gathers (limit : Nat) (ts : List Token) (depth : Nat) (fields : Datum.Entries) :
    Prop where
  run_eq : ∀ before key more stack, stack.length = depth →
    run limit (ts ++ .mark '\x7d' :: more) (.object before key :: stack) .key =
      run limit more (close (.map (before.update fields)) stack).1
        (close (.map (before.update fields)) stack).2
  exists_cons : ∃ key rest, ts = .string key :: rest

lemma isValue_value (d : Datum CodePoints) : IsValue limit [.value d] depth d :=
  ⟨builds_value d, _, _, rfl, by simp⟩

lemma isValue_string (s : CodePoints) : IsValue limit [.string s] depth (.text s) :=
  ⟨builds_text s, _, _, rfl, by simp⟩

/-! ### Arrays -/

lemma IsValue.collects (h : IsValue limit ts (depth + 1) d) : Collects limit ts depth [d] := by
  refine ⟨?_, h.exists_cons⟩
  intro done more stack hstack
  rw [h.builds _ _ (by simp [hstack])]
  simp [close, run, accept]

lemma IsValue.collects_cons (h : IsValue limit ts (depth + 1) d)
    (h' : Collects limit ts' depth items) :
    Collects limit (ts ++ .mark ',' :: ts') depth (d :: items) := by
  constructor
  · intro done more stack hstack
    have hrest := h'.run_eq (d :: done) more stack hstack
    rw [List.append_assoc, h.builds _ _ (by simp [hstack])]
    simpa [close, run, accept] using hrest
  · obtain ⟨t, rest, rfl, ht⟩ := h.exists_cons
    exact ⟨t, _, rfl, ht⟩

lemma Collects.isValue (h : Collects limit ts depth items) (hdepth : depth < limit) :
    IsValue limit (.mark '[' :: (ts ++ [.mark ']'])) depth (.list items) := by
  refine ⟨?_, _, _, rfl, by simp⟩
  rintro more stack rfl
  have hopen (ts : List Token) :
      run limit (.mark '[' :: ts) stack .value = run limit ts (.array [] :: stack) .firstItem := by
    simp [run, accept, acceptValue, openMark, Nat.not_le.mpr hdepth]
  have hitems := h.run_eq [] more stack rfl
  obtain ⟨t, rest, rfl, ht⟩ := h.exists_cons
  rw [List.cons_append, List.append_assoc, List.singleton_append, hopen]
  rw [List.cons_append] at hitems ⊢
  rw [run_firstItem ht, hitems]
  rfl

lemma isValue_array (hdepth : depth < limit) :
    IsValue limit [.mark '[', .mark ']'] depth (.list []) :=
  ⟨(builds_list hdepth nofun : Builds limit (tokensOf (.list [])) depth (.list [])), _, _, rfl,
    by simp⟩

/-! ### Objects -/

lemma IsValue.gathers (key : CodePoints) (h : IsValue limit ts (depth + 1) d) :
    Gathers limit (.string key :: .mark ':' :: ts) depth [(.text key, d)] := by
  refine ⟨?_, _, _, rfl⟩
  intro before key' more stack hstack
  have hvalue := h.builds (.mark '\x7d' :: more) (.object before key :: stack) (by simp [hstack])
  change run limit (ts ++ .mark '\x7d' :: more) (.object before key :: stack) .value = _
  rw [hvalue]
  rfl

lemma IsValue.gathers_cons (key : CodePoints) (h : IsValue limit ts (depth + 1) d)
    (h' : Gathers limit ts' depth fields) :
    Gathers limit (.string key :: .mark ':' :: (ts ++ .mark ',' :: ts')) depth
      ((.text key, d) :: fields) := by
  refine ⟨?_, _, _, rfl⟩
  intro before key' more stack hstack
  have hvalue := h.builds (.mark ',' :: (ts' ++ .mark '\x7d' :: more))
    (.object before key :: stack) (by simp [hstack])
  have hrest := h'.run_eq (before.insert (.text key) d) key more stack hstack
  change run limit ((ts ++ .mark ',' :: ts') ++ .mark '\x7d' :: more) (.object before key :: stack)
    .value = _
  rw [List.append_assoc, List.cons_append, hvalue]
  exact hrest

lemma Gathers.isValue (h : Gathers limit ts depth fields) (hdepth : depth < limit) :
    IsValue limit (.mark '\x7b' :: (ts ++ [.mark '\x7d'])) depth
      (.map (Datum.Entries.update [] fields)) := by
  refine ⟨?_, _, _, rfl, by simp⟩
  rintro more stack rfl
  have hopen (ts : List Token) :
      run limit (.mark '\x7b' :: ts) stack .value =
        run limit ts (.object [] [] :: stack) .firstKey := by
    simp [run, accept, acceptValue, openMark, Nat.not_le.mpr hdepth]
  have hfields := h.run_eq [] [] more stack rfl
  obtain ⟨key, rest, rfl⟩ := h.exists_cons
  rw [List.cons_append, List.append_assoc, List.singleton_append, hopen, ← hfields]
  rfl

lemma isValue_object (hdepth : depth < limit) :
    IsValue limit [.mark '\x7b', .mark '\x7d'] depth (.map []) :=
  ⟨(builds_record hdepth List.nodup_nil nofun :
    Builds limit (tokensOf (.record [])) depth (.record [])), _, _, rfl, by simp⟩

/-! ### What is written has such tokens -/

/-- A number that is not finite is written as a word. -/
lemma exists_scans_real (x : Float) : ∃ d, Scans (scalar (.real x)).toList [.value d] := by
  cases hparts : parts x with
  | finite negative m e =>
    have hfinite : isFinite x = true := isFinite_iff.mpr ⟨negative, m, e, hparts⟩
    exact ⟨_, .of_readToken fun rest => readToken_real hfinite⟩
  | nan =>
    have hword : (scalar (.real x)).toList = "NaN".toList := by
      rw [scalar, Layout.write, hparts]
      rfl
    rw [hword]
    refine ⟨.real (Float.ofBits 0x7FF8000000000000), .of_readToken fun rest _ => ?_⟩
    simp [readToken, marks, words, List.isPrefixOf]
  | infinite negative =>
    have hword : (scalar (.real x)).toList =
        if negative then "-Infinity".toList else "Infinity".toList := by
      rw [scalar, Layout.write, hparts, String.toList_ofList]
      cases negative <;> rfl
    rw [hword]
    refine ⟨.real (ofMagnitudeBits negative infinityBits), .of_readToken fun rest _ => ?_⟩
    cases negative <;> simp [readToken, marks, words, List.isPrefixOf]

lemma exists_isValue_scalar (d : Datum CodePoints) (hfault : fault? limit depth d = none) :
    ∃ t d', Scans (scalar d).toList [t] ∧ IsValue limit [t] depth d' := by
  cases d with
  | null => exact ⟨_, _, scans_null, isValue_value _⟩
  | bool b => exact ⟨_, _, scans_bool b, isValue_value _⟩
  | integer n =>
    rw [fault?] at hfault
    exact ⟨_, _, .of_readToken fun rest => readToken_integer hfault, isValue_value _⟩
  | real x =>
    obtain ⟨d, hscans⟩ := exists_scans_real x
    exact ⟨_, _, hscans, isValue_value d⟩
  | _ => exact ⟨_, _, scans_joined _, isValue_string _⟩

/-- Every key is written as a string. -/
lemma exists_key_eq (k : Datum CodePoints) : ∃ s, key k = string s := by
  cases k with
  | bool b => cases b <;> exact ⟨_, rfl⟩
  | _ => exact ⟨_, rfl⟩

lemma not_nestedTooDeep {fault : Option WriteError}
    (h : (if limit ≤ depth then some .nestedTooDeep else fault) = none) :
    depth < limit ∧ fault = none := by
  split at h
  next => cases h
  next hdepth => exact ⟨Nat.lt_of_not_le hdepth, h⟩

mutual
/-- Within the limits, what is written of a datum has the tokens of a value. -/
theorem exists_isValue (depth : Nat) (d : Datum CodePoints) (hfault : fault? limit depth d = none) :
    ∃ ts d', Scans (lineChars d) ts ∧ IsValue limit ts depth d' := by
  match d with
  | .list items | .tuple items =>
    obtain ⟨hdepth, hitems⟩ := not_nestedTooDeep hfault
    rw [lineChars]
    by_cases hne : items = []
    · subst hne
      exact ⟨_, _, (Scans.nil.mark (by decide)).mark (by decide), isValue_array hdepth⟩
    · obtain ⟨ts, ds, hscans, hcollects⟩ := exists_collects depth items hne hitems
      exact ⟨_, _, (hscans.append_mark (by decide) .nil).mark (by decide),
        hcollects.isValue hdepth⟩
  | .map entries =>
    obtain ⟨hdepth, hentries⟩ := not_nestedTooDeep hfault
    obtain ⟨ts, fields, hscans, hvalue⟩ := exists_isValue_map depth entries hdepth hentries
    exact ⟨ts, _, hscans, hvalue⟩
  | .null | .bool _ | .integer _ | .real _ | .text _ | .moment _ | .bytes _ | .set _ =>
    obtain ⟨t, d', hscans, hvalue⟩ := exists_isValue_scalar _ hfault
    exact ⟨_, d', hscans, hvalue⟩

lemma exists_collects (depth : Nat) (items : List (Datum CodePoints)) (hne : items ≠ [])
    (hfault : itemsFault? limit (depth + 1) items = none) :
    ∃ ts ds, Scans (lineItems items) ts ∧ Collects limit ts depth ds := by
  match items with
  | [d] =>
    rw [itemsFault?, Option.or_eq_none_iff] at hfault
    obtain ⟨ts, d', hscans, hvalue⟩ := exists_isValue (depth + 1) d hfault.1
    exact ⟨ts, _, hscans, hvalue.collects⟩
  | d :: d' :: rest =>
    rw [itemsFault?, Option.or_eq_none_iff] at hfault
    obtain ⟨ts, _, hscans, hvalue⟩ := exists_isValue (depth + 1) d hfault.1
    obtain ⟨ts', _, hscans', hcollects⟩ := exists_collects depth (d' :: rest) (by simp) hfault.2
    exact ⟨_, _, hscans.append_mark (by decide) hscans'.space, hvalue.collects_cons hcollects⟩

lemma exists_isValue_map (depth : Nat) (entries : Datum.Entries) (hdepth : depth < limit)
    (hfault : entriesFault? limit (depth + 1) entries = none) :
    ∃ ts fields, Scans (lineChars (.map entries)) ts ∧ IsValue limit ts depth (.map fields) := by
  rw [lineChars]
  by_cases hne : entries = []
  · subst hne
    exact ⟨_, _, (Scans.nil.mark (by decide)).mark (by decide), isValue_object hdepth⟩
  · obtain ⟨ts, fields, hscans, hgathers⟩ := exists_gathers depth entries hne hfault
    exact ⟨_, _, (hscans.append_mark (by decide) .nil).mark (by decide), hgathers.isValue hdepth⟩

lemma exists_gathers (depth : Nat) (entries : Datum.Entries) (hne : entries ≠ [])
    (hfault : entriesFault? limit (depth + 1) entries = none) :
    ∃ ts fields, Scans (lineEntries entries) ts ∧ Gathers limit ts depth fields := by
  match entries with
  | [(k, v)] =>
    rw [entriesFault?, Option.or_eq_none_iff, Option.or_eq_none_iff] at hfault
    obtain ⟨s, hkey⟩ := exists_key_eq k
    obtain ⟨ts, d, hscans, hvalue⟩ := exists_isValue (depth + 1) v hfault.1.2
    rw [lineEntries, hkey]
    exact ⟨_, _, (scans_joined s).append_mark (by decide) hscans.space, hvalue.gathers (joined s)⟩
  | (k, v) :: entry :: rest =>
    rw [entriesFault?, Option.or_eq_none_iff, Option.or_eq_none_iff] at hfault
    obtain ⟨s, hkey⟩ := exists_key_eq k
    obtain ⟨ts, d, hscans, hvalue⟩ := exists_isValue (depth + 1) v hfault.1.2
    obtain ⟨ts', fields, hscans', hgathers⟩ :=
      exists_gathers depth (entry :: rest) (by simp) hfault.2
    have hmore := (hscans.append_mark (c := ',') (by decide) hscans'.space).space
    have hall := (scans_joined s).append_mark (c := ':') (by decide) hmore
    refine ⟨_, _, ?_, hvalue.gathers_cons (joined s) hgathers⟩
    rw [lineEntries, hkey]
    · simpa using hall
    · simp
end

/-- A line that is written of a mapping is read as a mapping. -/
theorem exists_parse_line (hfault : fault? limit 0 (.map entries) = none) :
    ∃ fields, parse limit (line (.map entries)) = .ok (.map fields) := by
  rw [fault?] at hfault
  obtain ⟨hdepth, hentries⟩ := not_nestedTooDeep hfault
  obtain ⟨ts, fields, hscans, hvalue⟩ := exists_isValue_map 0 entries hdepth hentries
  exact ⟨fields, parse_of_scans hscans hvalue.builds⟩

end Recalc.Json
