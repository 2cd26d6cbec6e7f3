import Recalc.Proofs.Json.Numbers
import Recalc.Proofs.Json.Strings

/-!
# JSON values read back

What is written of a datum falls into tokens, whatever follows it, and the tokens put the datum
together again inside of whatever is open around it. So data that have a form in JSON are read as
they were written, within the limits of nesting and of digits.
-/

namespace Recalc

/-- Data that JSON has a form of their own for: finite numbers, unpaired texts, arrays, and objects
with distinct keys. -/
inductive Datum.IsJson : Datum CodePoints → Prop where
  | null : IsJson .null
  | bool (b : Bool) : IsJson (.bool b)
  | integer (n : Int) : IsJson (.integer n)
  | real {x : Float} (h : Number.isFinite x = true) : IsJson (.real x)
  | text {s : CodePoints} (h : s.Unpaired) : IsJson (.text s)
  | list {items : List (Datum CodePoints)} (h : ∀ d ∈ items, IsJson d) : IsJson (.list items)
  | record {fields : Datum.Fields} (hkeys : (fields.map Prod.fst).Nodup)
      (hunpaired : ∀ field ∈ fields, field.1.Unpaired) (h : ∀ field ∈ fields, IsJson field.2) :
      IsJson (.record fields)

namespace Json

open Recalc.Number Recalc.Number.Numeral

variable {cs cs' rest : List Char} {ts ts' more : List Token} {t : Token} {d : Datum CodePoints}
  {items : List (Datum CodePoints)} {entries : Datum.Entries} {fields : Datum.Fields}
  {stack : List Open} {limit depth k : Nat} {c : Char} {expected : Expected}

/-! ### The tokens of a text -/

/-- The characters fall into the tokens, whatever follows that does not go on with a number. -/
structure Scans (cs : List Char) (ts : List Token) : Prop where
  length_le : ts.length ≤ cs.length
  tokens_eq : ∀ rest k, EndsAt rest →
    tokens (cs ++ rest) (ts.length + k) = (ts ++ (tokens rest k).1, (tokens rest k).2)

lemma endsAt_mark (hc : c ∈ marks) (rest : List Char) : EndsAt (c :: rest) := by
  rintro _ ⟨⟩
  fin_cases hc <;> decide

lemma Scans.nil : Scans [] [] :=
  ⟨Nat.le_refl 0, fun rest k _ => by simp⟩

/-- No token begins with a space. -/
lemma isSpace_of_readToken (h : readToken (c :: cs) = some (t, rest)) : isSpace c = false := by
  by_contra hspace
  simp only [isSpace, Bool.not_eq_false, Bool.or_eq_true, decide_eq_true_eq] at hspace
  rcases hspace with ((rfl | rfl) | rfl) | rfl <;>
    simp [readToken, marks, words, List.isPrefixOf, readNumber, readWhole, isAsciiDigit] at h

lemma tokens_succ (h : readToken (c :: cs) = some (t, rest)) (k : Nat) :
    tokens (c :: cs) (k + 1) = (t :: (tokens rest k).1, (tokens rest k).2) := by
  rw [tokens, List.dropWhile_cons_of_neg (by simp [isSpace_of_readToken h])]
  simp only [h]

lemma Scans.of_readToken
    (h : ∀ rest, EndsAt rest → readToken (cs ++ rest) = some (t, rest)) : Scans cs [t] := by
  cases cs with
  | nil => cases h [] (by simp [EndsAt])
  | cons c cs =>
    refine ⟨by simp, fun rest k hrest => ?_⟩
    have hread : readToken (c :: (cs ++ rest)) = some (t, rest) := h rest hrest
    rw [List.length_singleton, Nat.add_comm, List.cons_append, tokens_succ hread]
    rfl

lemma Scans.mark (hc : c ∈ marks) (h : Scans cs ts) : Scans (c :: cs) (.mark c :: ts) := by
  refine ⟨Nat.succ_le_succ h.length_le, fun rest k hrest => ?_⟩
  have hread : readToken (c :: (cs ++ rest)) = some (.mark c, cs ++ rest) := by
    rw [readToken, if_pos hc]
  rw [List.cons_append, List.length_cons, Nat.succ_add, tokens_succ hread,
    h.tokens_eq rest k hrest]
  rfl

/-- Spaces are passed over. -/
lemma tokens_space (cs : List Char) (k : Nat) : tokens (' ' :: cs) k = tokens cs k := by
  cases k <;> rfl

lemma Scans.space (h : Scans cs ts) : Scans (' ' :: cs) ts := by
  refine ⟨Nat.le_succ_of_le h.length_le, fun rest k hrest => ?_⟩
  rw [List.cons_append, tokens_space, h.tokens_eq rest k hrest]

lemma Scans.append (h : Scans cs ts) (h' : Scans cs' ts')
    (hends : ∀ rest, EndsAt rest → EndsAt (cs' ++ rest)) : Scans (cs ++ cs') (ts ++ ts') := by
  constructor
  · rw [List.length_append, List.length_append]
    exact Nat.add_le_add h.length_le h'.length_le
  · intro rest k hrest
    rw [List.append_assoc, List.length_append, Nat.add_assoc, h.tokens_eq _ _ (hends rest hrest),
      h'.tokens_eq rest k hrest, List.append_assoc]

/-- After a value comes a mark. -/
lemma Scans.append_mark (h : Scans cs ts) (hc : c ∈ marks) (h' : Scans cs' ts') :
    Scans (cs ++ c :: cs') (ts ++ .mark c :: ts') :=
  h.append (h'.mark hc) fun rest _ => endsAt_mark hc (cs' ++ rest)

/-! ### The tokens of a datum -/

mutual
/-- The tokens that are written of a datum. -/
def tokensOf : Datum CodePoints → List Token
  | .list items => .mark '[' :: (itemTokens items ++ [.mark ']'])
  | .map entries => .mark '\x7b' :: (entryTokens entries ++ [.mark '\x7d'])
  | .text s => [.string s]
  | d => [.value d]

def itemTokens : List (Datum CodePoints) → List Token
  | [] => []
  | [d] => tokensOf d
  | d :: rest => tokensOf d ++ .mark ',' :: itemTokens rest

def entryTokens : Datum.Entries → List Token
  | [] => []
  | [(k, v)] => .string k.shown :: .mark ':' :: tokensOf v
  | (k, v) :: rest => .string k.shown :: .mark ':' :: (tokensOf v ++ .mark ',' :: entryTokens rest)
end

/-! ### What is written falls into tokens -/

lemma scans_joined (s : CodePoints) : Scans (string s).toList [.string (joined s)] := by
  refine .of_readToken fun rest _ => ?_
  have hread := readString_flatMap s rest
  rw [string, String.toList_ofList, stringChars, List.cons_append, List.cons_append,
    List.append_assoc, List.singleton_append, readToken, if_neg (by decide), if_pos rfl, hread]
  rfl

lemma scans_string {s : CodePoints} (h : s.Unpaired) : Scans (string s).toList [.string s] := by
  have hscans := scans_joined s
  rwa [joined_of_unpaired h] at hscans

lemma scans_null : Scans (scalar .null).toList [.value .null] := by
  refine .of_readToken fun rest _ => ?_
  simp [scalar, readToken, marks, words, List.isPrefixOf]

lemma scans_bool (b : Bool) : Scans (scalar (.bool b)).toList [.value (.bool b)] := by
  refine .of_readToken fun rest _ => ?_
  cases b <;> simp [scalar, readToken, marks, words, List.isPrefixOf]

lemma scans_items (hne : items ≠ []) (h : ∀ d ∈ items, Scans (lineChars d) (tokensOf d)) :
    Scans (lineItems items) (itemTokens items) := by
  induction items with
  | nil => exact absurd rfl hne
  | cons d rest ih =>
    obtain ⟨hd, hrest⟩ := List.forall_mem_cons.mp h
    cases rest with
    | nil => exact hd
    | cons d' rest => exact hd.append_mark (by decide) (ih (by simp) hrest).space

/-- The entries of a record. -/
abbrev entriesOf (fields : Datum.Fields) : Datum.Entries :=
  fields.map fun (k, v) => (.text k, v)

lemma entriesOf_injective : Function.Injective entriesOf :=
  List.map_injective_iff.mpr fun _ _ h =>
    Prod.ext (Datum.text.inj (Prod.mk.inj h).1) (Prod.mk.inj h).2

lemma isJson_text_iff {s : CodePoints} : (Datum.text s).IsJson ↔ s.Unpaired := by
  refine ⟨fun h => ?_, .text⟩
  cases h
  assumption

lemma isJson_record_iff : (Datum.record fields).IsJson ↔ (fields.map Prod.fst).Nodup ∧
    (∀ field ∈ fields, field.1.Unpaired) ∧ ∀ field ∈ fields, field.2.IsJson := by
  refine ⟨fun h => ?_, fun h => .record h.1 h.2.1 h.2.2⟩
  generalize hd : Datum.record fields = d at h
  cases h with
  | record hkeys hunpaired h =>
    cases entriesOf_injective (Datum.map.inj hd)
    exact ⟨hkeys, hunpaired, h⟩
  | null | bool | integer | real | text | list => cases hd

lemma scans_entries (hne : fields ≠ []) (hunpaired : ∀ field ∈ fields, field.1.Unpaired)
    (h : ∀ field ∈ fields, Scans (lineChars field.2) (tokensOf field.2)) :
    Scans (lineEntries (entriesOf fields)) (entryTokens (entriesOf fields)) := by
  induction fields with
  | nil => exact absurd rfl hne
  | cons field rest ih =>
    obtain ⟨k, v⟩ := field
    obtain ⟨hv, hrest⟩ := List.forall_mem_cons.mp h
    obtain ⟨hk, hkeys⟩ := List.forall_mem_cons.mp hunpaired
    cases rest with
    | nil => exact (scans_string hk).append_mark (by decide) hv.space
    | cons field' rest =>
      have hmore := (hv.append_mark (c := ',') (by decide) (ih (by simp) hkeys hrest).space).space
      have hall := (scans_string hk).append_mark (c := ':') (by decide) hmore
      simpa [lineEntries, entryTokens, key, Datum.shown] using hall

/-! ### Limits -/

lemma itemsFault?_eq_none_iff :
    itemsFault? limit depth items = none ↔ ∀ d ∈ items, fault? limit depth d = none := by
  induction items with
  | nil => simp [itemsFault?]
  | cons d rest ih => rw [itemsFault?, Option.or_eq_none_iff, ih, List.forall_mem_cons]

lemma entriesFault?_eq_none_iff : entriesFault? limit depth entries = none ↔
    ∀ entry ∈ entries, keyFault? entry.1 = none ∧ fault? limit depth entry.2 = none := by
  induction entries with
  | nil => simp [entriesFault?]
  | cons entry rest ih =>
    rw [entriesFault?, Option.or_eq_none_iff, Option.or_eq_none_iff, ih, List.forall_mem_cons]

lemma fault?_list_eq_none_iff : fault? limit depth (.list items) = none ↔
    depth < limit ∧ ∀ d ∈ items, fault? limit (depth + 1) d = none := by
  rw [fault?, ← itemsFault?_eq_none_iff]
  split
  next h => simp [h]
  next h => simp [Nat.lt_of_not_le h]

lemma fault?_map_eq_none_iff : fault? limit depth (.map entries) = none ↔ depth < limit ∧
    ∀ entry ∈ entries, keyFault? entry.1 = none ∧ fault? limit (depth + 1) entry.2 = none := by
  rw [fault?, ← entriesFault?_eq_none_iff]
  split
  next h => simp [h]
  next h => simp [Nat.lt_of_not_le h]

lemma fault?_record_eq_none_iff : fault? limit depth (.record fields) = none ↔
    depth < limit ∧ ∀ field ∈ fields, fault? limit (depth + 1) field.2 = none := by
  rw [Datum.record, fault?_map_eq_none_iff, List.forall_mem_map]
  simp only [keyFault?, true_and]

mutual
/-- What is within a limit is within every larger one. -/
theorem fault?_mono {limit' : Nat} (hle : limit ≤ limit') (depth : Nat) (d : Datum CodePoints)
    (h : fault? limit depth d = none) : fault? limit' depth d = none := by
  match d with
  | .list items | .tuple items =>
    rw [fault?] at h ⊢
    split at h
    next => cases h
    next hdepth => rw [if_neg (by omega), itemsFault?_mono hle _ items h]
  | .map entries =>
    rw [fault?] at h ⊢
    split at h
    next => cases h
    next hdepth => rw [if_neg (by omega), entriesFault?_mono hle _ entries h]
  | .moment _ | .bytes _ | .set _ =>
    rw [fault?] at h ⊢
    · split at h
      next => cases h
      next hdepth => rw [if_neg (by omega)]
    all_goals simp
  | .null | .bool _ | .integer _ | .real _ | .text _ => exact h

lemma itemsFault?_mono {limit' : Nat} (hle : limit ≤ limit') (depth : Nat)
    (items : List (Datum CodePoints)) (h : itemsFault? limit depth items = none) :
    itemsFault? limit' depth items = none := by
  match items with
  | [] => rfl
  | d :: rest =>
    rw [itemsFault?, Option.or_eq_none_iff] at h ⊢
    exact ⟨fault?_mono hle _ d h.1, itemsFault?_mono hle _ rest h.2⟩

lemma entriesFault?_mono {limit' : Nat} (hle : limit ≤ limit') (depth : Nat)
    (entries : Datum.Entries) (h : entriesFault? limit depth entries = none) :
    entriesFault? limit' depth entries = none := by
  match entries with
  | [] => rfl
  | (k, v) :: rest =>
    rw [entriesFault?, Option.or_eq_none_iff, Option.or_eq_none_iff] at h ⊢
    exact ⟨⟨h.1.1, fault?_mono hle _ v h.1.2⟩, entriesFault?_mono hle _ rest h.2⟩
end

/-- What is written of a datum are its tokens. -/
theorem scans (h : d.IsJson) (hfault : fault? limit depth d = none) :
    Scans (lineChars d) (tokensOf d) := by
  induction h generalizing depth with
  | null => exact scans_null
  | bool b => exact scans_bool b
  | integer n => exact .of_readToken fun rest => readToken_integer (by rwa [fault?] at hfault)
  | real hx => exact .of_readToken fun rest => readToken_real hx
  | text h => exact scans_string h
  | @list items _ ih =>
    obtain ⟨-, hitems⟩ := fault?_list_eq_none_iff.mp hfault
    rw [lineChars, tokensOf]
    rcases eq_or_ne items [] with rfl | hne
    · exact (Scans.nil.mark (by decide)).mark (by decide)
    · exact ((scans_items hne fun d hd => ih d hd (hitems d hd)).append_mark (by decide) .nil).mark
        (by decide)
  | @record fields _ hunpaired _ ih =>
    obtain ⟨-, hfields⟩ := fault?_record_eq_none_iff.mp hfault
    rw [Datum.record, lineChars, tokensOf]
    rcases eq_or_ne fields [] with rfl | hne
    · exact (Scans.nil.mark (by decide)).mark (by decide)
    · have hentries := scans_entries hne hunpaired fun field hf => ih field hf (hfields field hf)
      exact (hentries.append_mark (by decide) .nil).mark (by decide)

/-! ### The tokens put the datum together -/

/-- The tokens put the datum together where a value is due, inside of whatever is open. -/
def Builds (limit : Nat) (ts : List Token) (depth : Nat) (d : Datum CodePoints) : Prop :=
  ∀ more stack, stack.length = depth →
    run limit (ts ++ more) stack .value = run limit more (close d stack).1 (close d stack).2

/-- No datum begins with the end of an array. -/
lemma exists_tokensOf (d : Datum CodePoints) : ∃ t ts, tokensOf d = t :: ts ∧ t ≠ .mark ']' := by
  cases d <;> exact ⟨_, _, rfl, by simp⟩

/-- What is due first in an array may be any value. -/
lemma run_firstItem (ht : t ≠ .mark ']') (ts : List Token) (stack : List Open) :
    run limit (t :: ts) stack .firstItem = run limit (t :: ts) stack .value := by
  have haccept : accept limit t stack .firstItem = accept limit t stack .value := by
    unfold accept
    split <;> simp_all
  rw [run, haccept, run]

lemma builds_value (d : Datum CodePoints) : Builds limit [.value d] depth d :=
  fun _ _ _ => rfl

lemma builds_text (s : CodePoints) : Builds limit [.string s] depth (.text s) :=
  fun _ _ _ => rfl

/-- The items of an array that is open. -/
lemma run_items (done : List (Datum CodePoints)) (more : List Token) (hne : items ≠ [])
    (h : ∀ d ∈ items, Builds limit (tokensOf d) (stack.length + 1) d) :
    run limit (itemTokens items ++ .mark ']' :: more) (.array done :: stack) .value =
      run limit more (close (.list (done.reverse ++ items)) stack).1
        (close (.list (done.reverse ++ items)) stack).2 := by
  induction items generalizing done with
  | nil => exact absurd rfl hne
  | cons d rest ih =>
    obtain ⟨hd, hrest⟩ := List.forall_mem_cons.mp h
    cases rest with
    | nil =>
      rw [itemTokens, hd _ _ rfl]
      simp [close, run, accept]
    | cons d' rest =>
      have hnext := ih (d :: done) (by simp) hrest
      rw [List.reverse_cons, List.append_assoc, List.singleton_append] at hnext
      rw [itemTokens, List.append_assoc, hd _ _ rfl, ← hnext]
      · rfl
      · simp

lemma exists_itemTokens (hne : items ≠ []) :
    ∃ t ts, itemTokens items = t :: ts ∧ t ≠ .mark ']' := by
  obtain ⟨d, rest, rfl⟩ := List.exists_cons_of_ne_nil hne
  obtain ⟨t, ts, hcons, ht⟩ := exists_tokensOf d
  cases rest with
  | nil => exact ⟨t, ts, hcons, ht⟩
  | cons d' rest => exact ⟨t, ts ++ .mark ',' :: itemTokens (d' :: rest), by
      rw [itemTokens, hcons, List.cons_append]
      simp, ht⟩

lemma builds_list (hdepth : depth < limit)
    (h : ∀ d ∈ items, Builds limit (tokensOf d) (depth + 1) d) :
    Builds limit (tokensOf (.list items)) depth (.list items) := by
  rintro more stack rfl
  have hopen (ts : List Token) :
      run limit (.mark '[' :: ts) stack .value = run limit ts (.array [] :: stack) .firstItem := by
    simp [run, accept, acceptValue, openMark, Nat.not_le.mpr hdepth]
  rw [tokensOf, List.cons_append, List.append_assoc, List.singleton_append, hopen]
  rcases eq_or_ne items [] with rfl | hne
  · rfl
  · have hitems := run_items [] more hne h
    obtain ⟨t, ts, hcons, ht⟩ := exists_itemTokens hne
    rw [hcons, List.cons_append] at hitems ⊢
    rw [run_firstItem ht, hitems]
    rfl

/-- A new key stands at the end. -/
lemma insert_entriesOf {before : Datum.Fields} {key : CodePoints}
    (h : key ∉ before.map Prod.fst) (d : Datum CodePoints) :
    (entriesOf before).insert (.text key) d = entriesOf (before ++ [(key, d)]) := by
  induction before with
  | nil => rfl
  | cons field before ih =>
    obtain ⟨k, v⟩ := field
    rw [List.map_cons, List.mem_cons, not_or] at h
    change (if (Datum.text k).sameKey (.text key) then _ else _) = _
    have hne : (Datum.text k).sameKey (.text key) = false := beq_false_of_ne (Ne.symm h.1)
    rw [hne, ih h.2]
    rfl

/-- The fields of an object that is open. -/
lemma run_fields (before : Datum.Fields) (key : CodePoints) (hne : fields ≠ [])
    (hkeys : ((before ++ fields).map Prod.fst).Nodup)
    (h : ∀ field ∈ fields, Builds limit (tokensOf field.2) (stack.length + 1) field.2) :
    run limit (entryTokens (entriesOf fields) ++ .mark '\x7d' :: more)
        (.object (entriesOf before) key :: stack) .key =
      run limit more (close (.record (before ++ fields)) stack).1
        (close (.record (before ++ fields)) stack).2 := by
  induction fields generalizing before key with
  | nil => exact absurd rfl hne
  | cons field rest ih =>
    obtain ⟨k, v⟩ := field
    obtain ⟨hv, hrest⟩ := List.forall_mem_cons.mp h
    have hnew : k ∉ before.map Prod.fst := by
      rw [List.map_append, List.nodup_append] at hkeys
      exact fun hmem => hkeys.2.2 k hmem k (by simp) rfl
    have hopen (ts : List Token) :
        run limit (.string k :: .mark ':' :: ts) (.object (entriesOf before) key :: stack) .key =
          run limit ts (.object (entriesOf before) k :: stack) .value := rfl
    have hclose : close v (.object (entriesOf before) k :: stack) =
        (.object (entriesOf (before ++ [(k, v)])) k :: stack, .separator) := by
      rw [close, insert_entriesOf hnew]
    cases rest with
    | nil =>
      change run limit (.string k :: .mark ':' :: (tokensOf v ++ _)) _ _ = _
      rw [hopen, hv _ _ rfl, hclose]
      rfl
    | cons field' rest =>
      rw [List.append_cons before] at hkeys ⊢
      rw [← ih _ k (by simp) hkeys hrest]
      change run limit (.string k :: .mark ':' ::
        (tokensOf v ++ .mark ',' :: entryTokens (entriesOf (field' :: rest)) ++ _)) _ _ = _
      rw [hopen, List.append_assoc, hv _ _ rfl, hclose]
      rfl

lemma builds_record (hdepth : depth < limit) (hkeys : (fields.map Prod.fst).Nodup)
    (h : ∀ field ∈ fields, Builds limit (tokensOf field.2) (depth + 1) field.2) :
    Builds limit (tokensOf (.record fields)) depth (.record fields) := by
  rintro more stack rfl
  have hopen (ts : List Token) :
      run limit (.mark '\x7b' :: ts) stack .value =
        run limit ts (.object [] [] :: stack) .firstKey := by
    simp [run, accept, acceptValue, openMark, Nat.not_le.mpr hdepth]
  rw [Datum.record, tokensOf, List.cons_append, List.append_assoc, List.singleton_append, hopen]
  cases fields with
  | nil => rfl
  | cons field rest =>
    refine Eq.trans ?_ (run_fields [] [] (by simp) hkeys h)
    cases rest <;> rfl

/-- Within the limits, the tokens of a datum put it together. -/
theorem builds (h : d.IsJson) (hfault : fault? limit depth d = none) :
    Builds limit (tokensOf d) depth d := by
  induction h generalizing depth with
  | null => exact builds_value _
  | bool b => exact builds_value _
  | integer n => exact builds_value _
  | real hx => exact builds_value _
  | text => exact builds_text _
  | list _ ih =>
    obtain ⟨hdepth, hitems⟩ := fault?_list_eq_none_iff.mp hfault
    exact builds_list hdepth fun d hd => ih d hd (hitems d hd)
  | record hkeys _ _ ih =>
    obtain ⟨hdepth, hfields⟩ := fault?_record_eq_none_iff.mp hfault
    exact builds_record hdepth hkeys fun field hf => ih field hf (hfields field hf)

/-! ### Whole texts -/

lemma tokens_nil (k : Nat) : tokens [] k = ([], true) := by
  cases k <;> rfl

lemma tokens_lineChars (h : Scans (lineChars d) ts) :
    tokens (lineChars d) (lineChars d).length = (ts, true) := by
  obtain ⟨k, hk⟩ := Nat.exists_eq_add_of_le h.length_le
  have heq := h.tokens_eq [] k (by simp [EndsAt])
  rwa [List.append_nil, ← hk, tokens_nil, List.append_nil] at heq

/-- A line is read as what its tokens put together. -/
lemma parse_of_scans {d' : Datum CodePoints} (hscans : Scans (lineChars d) ts)
    (hbuilds : Builds limit ts 0 d') : parse limit (line d) = .ok d' := by
  have hrun := hbuilds [] [] rfl
  rw [List.append_nil] at hrun
  rw [parse, line, String.toList_ofList, tokens_lineChars hscans]
  simp only [hrun, close, run, if_true]

lemma parse_of_run_error {e : ReadError} (hscans : Scans (lineChars d) ts)
    (hrun : run limit ts [] .value = .error e) : parse limit (line d) = .error e := by
  rw [parse, line, String.toList_ofList, tokens_lineChars hscans]
  simp only [hrun]

/-- A line that is written of a datum is read as the datum. -/
theorem parse_line (h : d.IsJson) (hfault : fault? limit 0 d = none) :
    parse limit (line d) = .ok d :=
  parse_of_scans (scans h hfault) (builds h hfault)

end Json

end Recalc
