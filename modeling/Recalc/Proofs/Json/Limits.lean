import Recalc.Proofs.Json.Values

/-!
# Texts beyond the limits

A text that is no JSON is malformed, and one that is may still pass a limit. To pass one, a text
must have more digits in a row than an integer may have, or more opening brackets than may be
nested.
-/

namespace Recalc.Json

open Recalc.Number

variable {cs rest : List Char} {t : Token} {ts : List Token} {stack stack' : List Open}
  {expected expected' : Expected} {e : ReadError} {limit n k : Nat}

/-- The text is refused for a limit, whether or not it is well formed. -/
def BeyondLimits (limit : Nat) (s : String) : Prop :=
  ∃ e, parse limit s = .error e ∧ e ≠ .malformed

/-- More digits stand in a row than an integer may have. -/
def HasLongRun (cs : List Char) : Prop :=
  ∃ ds, ds <:+: cs ∧ (∀ c ∈ ds, isAsciiDigit c = true) ∧ integerDigitLimit < ds.length

/-- Whether an array or an object begins with the character. -/
def isOpening (c : Char) : Bool :=
  c = '[' || c = '\x7b'

def Token.opens : Token → Bool
  | .mark c => isOpening c
  | _ => false

/-! ### What is left after a token -/

lemma suffix_readString {units : List Nat} (h : readString cs = some (units, rest)) :
    rest <:+ cs := by
  fun_induction readString cs generalizing units rest with
  | case1 => cases h
  | case2 => cases h; exact List.suffix_cons _ _
  | case3 a b c d after value units' rest' hread hvalue ih =>
    cases h
    exact (ih hread).trans ⟨['\\', 'u', a, b, c, d], rfl⟩
  | case4 => cases h
  | case5 c after _ value units' rest' hread hvalue ih =>
    cases h
    exact (ih hread).trans ⟨['\\', c], rfl⟩
  | case6 => cases h
  | case7 => cases h
  | case8 c after _ _ _ _ ih =>
    obtain ⟨⟨units', rest'⟩, hread, heq⟩ := Option.map_eq_some_iff.mp h
    cases heq
    exact (ih hread).trans (List.suffix_cons c after)

lemma append_readWhole (cs : List Char) : (readWhole cs).1 ++ (readWhole cs).2 = cs := by
  unfold readWhole
  split
  · rfl
  · rw [List.span_eq_takeWhile_dropWhile]
    exact List.takeWhile_append_dropWhile

lemma isAsciiDigit_of_mem_readWhole {c : Char} (h : c ∈ (readWhole cs).1) :
    isAsciiDigit c = true := by
  unfold readWhole at h
  split at h
  · rw [List.mem_singleton.mp h]
    decide
  · rw [List.span_eq_takeWhile_dropWhile] at h
    exact List.mem_takeWhile_imp h

lemma suffix_readFraction (cs : List Char) : (readFraction cs).2 <:+ cs := by
  unfold readFraction
  split
  next rest =>
    rw [List.span_eq_takeWhile_dropWhile]
    split
    next => exact List.suffix_rfl
    next => exact (List.dropWhile_suffix _).trans (List.suffix_cons _ _)
  next => exact List.suffix_rfl

lemma suffix_readSign (cs : List Char) : (readSign cs).2 <:+ cs := by
  unfold readSign
  split
  · exact List.suffix_cons _ _
  · exact List.suffix_cons _ _
  · exact List.suffix_rfl

lemma suffix_readPower (cs : List Char) : (readPower cs).2 <:+ cs := by
  unfold readPower
  dsimp only
  split
  next e rest =>
    split
    next =>
      rw [List.span_eq_takeWhile_dropWhile]
      split
      next => exact List.suffix_rfl
      next digits after _ heq =>
        obtain ⟨-, rfl⟩ := Prod.mk.inj heq
        have hsign := (suffix_readSign rest).trans (List.suffix_cons e rest)
        exact (List.dropWhile_suffix _).trans hsign
    next => exact List.suffix_rfl
  next => exact List.suffix_rfl

/-- A number leaves a suffix, and an integer beyond the limit is a run of digits. -/
lemma suffix_readNumber {negative : Bool} (h : readNumber negative cs = some (t, rest)) :
    rest <:+ cs ∧ ∀ n, t = .longInteger n → HasLongRun cs := by
  have hwhole := append_readWhole cs
  have hafter : (readWhole cs).2 <:+ cs := ⟨_, hwhole⟩
  have hplaces := (suffix_readFraction (readWhole cs).2).trans hafter
  have hpower := (suffix_readPower (readFraction (readWhole cs).2).2).trans hplaces
  unfold readNumber at h
  dsimp only at h
  split at h
  next => cases h
  split at h
  next =>
    cases h
    refine ⟨hpower, fun n hlong => ?_⟩
    split at hlong
    next hcount =>
      refine ⟨(readWhole cs).1, ⟨[], (readWhole cs).2, hwhole⟩, ?_, hcount⟩
      exact fun c hc => isAsciiDigit_of_mem_readWhole hc
    next => cases hlong
  next =>
    cases h
    exact ⟨hpower, fun n hlong => by cases hlong⟩

lemma opens_of_readNumber {negative : Bool} (h : readNumber negative cs = some (t, rest)) :
    t.opens = false := by
  unfold readNumber at h
  dsimp only at h
  split at h
  next => cases h
  split at h
  next =>
    cases h
    split <;> rfl
  next =>
    cases h
    rfl

lemma HasLongRun.mono (h : HasLongRun rest) (hsuffix : rest <:+ cs) : HasLongRun cs := by
  obtain ⟨ds, hds, hdigits, hcount⟩ := h
  exact ⟨ds, hds.trans hsuffix.isInfix, hdigits, hcount⟩

/-- What a token leaves is a suffix, in which a bracket that opens something does not count any
more. -/
lemma suffix_readToken (h : readToken cs = some (t, rest)) :
    rest <:+ cs ∧ rest.countP isOpening + t.opens.toNat ≤ cs.countP isOpening ∧
      ∀ n, t = .longInteger n → HasLongRun cs := by
  have hsame {t : Token} {rest : List Char} (hsuffix : rest <:+ cs) (ht : t.opens = false) :
      rest.countP isOpening + t.opens.toNat ≤ cs.countP isOpening := by
    simpa [ht] using hsuffix.sublist.countP_le
  unfold readToken at h
  split at h
  next => cases h
  next c after =>
    split at h
    next =>
      cases h
      refine ⟨List.suffix_cons _ _, ?_, fun n ht => by cases ht⟩
      rw [List.countP_cons, Token.opens]
      cases isOpening c <;> exact Nat.le_refl _
    split at h
    next =>
      obtain ⟨⟨units, rest'⟩, hread, heq⟩ := Option.map_eq_some_iff.mp h
      cases heq
      have hsuffix := (suffix_readString hread).trans (List.suffix_cons c after)
      exact ⟨hsuffix, hsame hsuffix rfl, fun n ht => by cases ht⟩
    split at h
    next word d _ =>
      cases h
      have hsuffix := List.drop_suffix word.length (c :: after)
      exact ⟨hsuffix, hsame hsuffix rfl, fun n ht => by cases ht⟩
    split at h
    next =>
      obtain ⟨hsuffix, hlong⟩ := suffix_readNumber h
      have hall := hsuffix.trans (List.suffix_cons c after)
      refine ⟨hall, hsame hall (opens_of_readNumber h), fun n ht => ?_⟩
      exact (hlong n ht).mono (List.suffix_cons c after)
    next =>
      obtain ⟨hsuffix, hlong⟩ := suffix_readNumber h
      exact ⟨hsuffix, hsame hsuffix (opens_of_readNumber h), hlong⟩

/-! ### The tokens of a text -/

lemma countP_opens_cons (t : Token) (ts : List Token) :
    (t :: ts).countP Token.opens = ts.countP Token.opens + t.opens.toNat := by
  rw [List.countP_cons]
  cases t.opens <;> rfl

/-- Every bracket that opens something is a character of the text. -/
lemma countP_tokens (cs : List Char) (n : Nat) :
    (tokens cs n).1.countP Token.opens ≤ cs.countP isOpening := by
  induction n generalizing cs with
  | zero => exact Nat.zero_le _
  | succ n ih =>
    have hspace := (List.dropWhile_suffix (l := cs) isSpace).sublist.countP_le (p := isOpening)
    rw [tokens]
    split
    next => exact Nat.zero_le _
    next cs' hcs =>
      split
      next => exact Nat.zero_le _
      next t rest hread =>
        have hcount := (suffix_readToken hread).2.1
        have hmore := ih rest
        rw [countP_opens_cons]
        omega

lemma hasLongRun_of_mem_tokens (h : .longInteger n ∈ (tokens cs k).1) : HasLongRun cs := by
  induction k generalizing cs with
  | zero => cases h
  | succ k ih =>
    have hspace := List.dropWhile_suffix (l := cs) isSpace
    rw [tokens] at h
    split at h
    next => cases h
    next cs' hcs =>
      split at h
      next => cases h
      next t rest hread =>
        obtain ⟨hsuffix, -, hlong⟩ := suffix_readToken hread
        rcases List.mem_cons.mp h with ht | hmore
        · exact (hlong n ht.symm).mono hspace
        · exact (ih hmore).mono (hsuffix.trans hspace)

/-! ### The values of tokens -/

lemma length_close (d : Datum CodePoints) (stack : List Open) :
    (close d stack).1.length = stack.length := by
  unfold close
  split <;> rfl

/-- A token makes the nesting deeper only by the bracket that it is, and it is refused for its
place, for its digits or for the nesting. -/
def Token.Bounds (limit : Nat) (t : Token) (depth : Nat) :
    Except ReadError (List Open × Expected) → Prop
  | .ok next => next.1.length ≤ depth + t.opens.toNat
  | .error e =>
    e = .malformed ∨ (∃ n, t = .longInteger n) ∨ limit < depth + t.opens.toNat

lemma bounds_close (t : Token) (d : Datum CodePoints) (stack : List Open) :
    t.Bounds limit stack.length (.ok (close d stack)) :=
  (length_close d stack).le.trans (Nat.le_add_right _ _)

lemma bounds_openMark (c : Char) (stack : List Open) :
    (Token.mark c).Bounds limit stack.length (openMark limit c stack) := by
  rw [openMark]
  by_cases hopens : isOpening c = true
  · have hopening : (Token.mark c).opens.toNat = 1 := congrArg Bool.toNat hopens
    have htoo : limit ≤ stack.length →
        limit < stack.length + (Token.mark c).opens.toNat := by
      omega
    have hmore : (stack.length + 1 : Nat) ≤ stack.length + (Token.mark c).opens.toNat := by
      omega
    split
    · split
      next hdeep => exact .inr (.inr (htoo hdeep))
      next => exact hmore
    · split
      · split
        next hdeep => exact .inr (.inr (htoo hdeep))
        next => exact hmore
      · exact .inl rfl
  · simp only [isOpening, Bool.or_eq_true, decide_eq_true_eq, not_or] at hopens
    rw [if_neg hopens.1, if_neg hopens.2]
    exact .inl rfl

lemma bounds_acceptValue (t : Token) (stack : List Open) :
    t.Bounds limit stack.length (acceptValue limit t stack) := by
  cases t with
  | value d => exact bounds_close _ d stack
  | string s => exact bounds_close _ (.text s) stack
  | longInteger n => exact .inr (.inl ⟨n, rfl⟩)
  | mark c => exact bounds_openMark c stack

lemma bounds_accept (limit : Nat) (t : Token) (stack : List Open) (expected : Expected) :
    t.Bounds limit stack.length (accept limit t stack expected) := by
  unfold accept
  split
  case h_1 => exact bounds_acceptValue t stack
  case h_3 => exact bounds_acceptValue t stack
  case h_12 => exact .inl rfl
  all_goals simp [Token.Bounds, length_close, Nat.add_assoc]

lemma run_error (h : run limit ts stack expected = .error e) : e = .malformed ∨
    (∃ n, .longInteger n ∈ ts) ∨ limit < stack.length + ts.countP Token.opens := by
  induction ts generalizing stack expected with
  | nil => cases h
  | cons t ts ih =>
    have hbounds := bounds_accept limit t stack expected
    rw [run] at h
    rw [countP_opens_cons]
    split at h
    next stack' expected' haccept =>
      rw [haccept] at hbounds
      have hlength : stack'.length ≤ stack.length + t.opens.toNat := hbounds
      rcases ih h with hmalformed | ⟨n, hlong⟩ | hdeep
      · exact .inl hmalformed
      · exact .inr (.inl ⟨n, List.mem_cons_of_mem t hlong⟩)
      · exact .inr (.inr (by omega))
    next e' haccept =>
      cases h
      rw [haccept] at hbounds
      rcases hbounds with hmalformed | ⟨n, rfl⟩ | hdeep
      · exact .inl hmalformed
      · exact .inr (.inl ⟨n, List.mem_cons_self⟩)
      · exact .inr (.inr (by omega))

/-- A text passes a limit only if it has too long a run of digits or too many brackets that open
something. -/
theorem BeyondLimits.cases {s : String} (h : BeyondLimits limit s) :
    HasLongRun s.toList ∨ limit < s.toList.countP isOpening := by
  obtain ⟨e, herror, hne⟩ := h
  have hopenings := countP_tokens s.toList s.toList.length
  unfold parse at herror
  dsimp only at herror
  split at herror
  next =>
    split at herror
    · cases herror
    · cases herror
      exact absurd rfl hne
  next =>
    cases herror
    exact absurd rfl hne
  next e' hrun =>
    cases herror
    rcases run_error hrun with rfl | ⟨n, hlong⟩ | hdeep
    · exact absurd rfl hne
    · exact .inl (hasLongRun_of_mem_tokens hlong)
    · rw [List.length_nil] at hdeep
      exact .inr (by omega)

/-- The digits of an integer beyond the limit pass it. -/
lemma parse_of_plain {ds : List Char} (hds : Plain ds) (hlong : integerDigitLimit < ds.length) :
    parse limit (String.ofList ds) = .error (.integerTooLong ds.length) := by
  have hnumber (negative : Bool) :
      readNumber negative ds = some (.longInteger ds.length, []) := by
    have hwhole : readWhole (ds ++ []) = (ds, []) :=
      readWhole_plain hds fun c hc => by cases hc
    rw [List.append_nil] at hwhole
    rw [readNumber, hwhole]
    simp [isEmpty_of_plain hds, readFraction, readPower, hlong]
  obtain ⟨d, rest, rfl⟩ : ∃ d rest, ds = d :: rest := by
    rcases hds.2 with rfl | ⟨d, rest, rfl, -⟩
    · exact ⟨_, _, rfl⟩
    · exact ⟨_, _, rfl⟩
  have hread : readToken (d :: rest) = some (.longInteger (rest.length + 1), []) :=
    (readToken_digit (hds.1 d List.mem_cons_self) rest).1.trans (hnumber false)
  rw [parse, String.toList_ofList, List.length_cons, tokens_succ hread]
  rfl

end Recalc.Json
