import Recalc.Proofs.Xml.Agreement

/-!
# What follows the markup

A reader looks no further than the character behind what it takes, and where that ends with a sign
of its own it does not look further at all. So what follows may be exchanged for another text, and
what is read stays the same, apart from its place.
-/

namespace Recalc.Xml

variable {ε α : Type} {cs rest rest' : List Char} {n : Nat}

/-! ### Readers -/

/-- The texts begin with the same character, or both are empty. -/
def Alike (rest rest' : List Char) : Prop :=
  rest.head? = rest'.head?

/-- What follows may be any text. -/
def Any (_ _ : List Char) : Prop :=
  True

/-- When what was left is exchanged for a text with `P`, the reader takes the same characters, at
least one, and gives something with `R`. -/
def Taken (P : List Char → List Char → Prop) (R : α → α → Prop)
    (read : List Char → Except ε (α × List Char)) (cs : List Char) (found : α × List Char) : Prop :=
  ∃ front, front ≠ [] ∧ front ++ found.2 = cs ∧
    ∀ rest, P found.2 rest → ∃ a, R found.1 a ∧ read (front ++ rest) = .ok (a, rest)

def Local (P : List Char → List Char → Prop) (R : α → α → Prop)
    (read : List Char → Except ε (α × List Char)) : Prop :=
  ∀ cs, Yields (Taken P R read cs) (read cs)

/-- The same for a reader that is given a bound, of which it needs no more than it takes. -/
def TakenWithin (R : α → α → Prop) (read : List Char → Nat → Except ε (α × List Char))
    (cs : List Char) (found : α × List Char) : Prop :=
  ∃ front, front ≠ [] ∧ front ++ found.2 = cs ∧
    ∀ rest n, front.length ≤ n → ∃ a, R found.1 a ∧ read (front ++ rest) n = .ok (a, rest)

lemma Alike.exists_cons {c : Char} (h : Alike rest (c :: rest')) : ∃ more, rest = c :: more := by
  cases rest with
  | nil => cases h
  | cons d rest =>
    cases h
    exact ⟨rest, rfl⟩

/-- Behind some characters the texts are alike in any case. -/
lemma alike_append {front : List Char} (h : front ≠ []) (rest rest' : List Char) :
    Alike (front ++ rest) (front ++ rest') := by
  cases front with
  | nil => exact absurd rfl h
  | cons c front => rfl

/-- The run of characters at the beginning, in front of another text that does not go on with it. -/
lemma takeWhile_exchange {p : Char → Bool} (h : Alike (cs.dropWhile p) rest) :
    (cs.takeWhile p ++ rest).takeWhile p = cs.takeWhile p ∧
      (cs.takeWhile p ++ rest).dropWhile p = rest := by
  have hrun : ∀ c ∈ cs.takeWhile p, p c = true := fun c hc => List.mem_takeWhile_imp hc
  rw [List.takeWhile_append_of_pos hrun, List.dropWhile_append_of_pos hrun]
  cases rest with
  | nil => exact ⟨List.append_nil _, rfl⟩
  | cons c rest =>
    obtain ⟨more, hmore⟩ := h.exists_cons
    have hc : ¬p c = true := by
      have hhead := List.head?_dropWhile_not p cs
      rw [hmore] at hhead
      simpa using hhead
    rw [List.takeWhile_cons_of_neg hc, List.dropWhile_cons_of_neg hc, List.append_nil]
    exact ⟨rfl, rfl⟩

/-- In front of another text, the run of characters at the beginning begins as it did. -/
lemma alike_takeWhile {p : Char → Bool} (h : Alike (cs.dropWhile p) rest) :
    Alike cs (cs.takeWhile p ++ rest) := by
  cases hrun : cs.takeWhile p with
  | nil =>
    have hcs := List.takeWhile_append_dropWhile (p := p) (l := cs)
    rw [hrun, List.nil_append] at hcs
    rwa [hcs] at h
  | cons c run =>
    have hcs := List.takeWhile_append_dropWhile (p := p) (l := cs)
    rw [hrun] at hcs
    rw [← hcs]
    rfl

/-! ### Names and references -/

lemma local_readName : Local Alike Eq readName := by
  intro cs found h
  unfold readName at h
  split at h
  next c cs =>
    split at h
    next hc =>
      cases h
      refine ⟨c :: cs.takeWhile isNamePart, List.cons_ne_nil _ _, ?_,
        fun rest hrest => ⟨_, rfl, ?_⟩⟩
      · rw [List.cons_append, List.takeWhile_append_dropWhile]
      · obtain ⟨htake, hdrop⟩ := takeWhile_exchange hrest
        rw [List.cons_append, readName, if_pos hc, htake, hdrop]
    next => exact yields_refuseInName _ h
  next => exact yields_refuse _ h

lemma local_readQualifiedName : Local Alike Eq readQualifiedName := by
  intro cs
  refine Yields.bind (local_readName cs) ?_
  rintro ⟨first, after⟩ ⟨front, hne, rfl, hfront⟩
  dsimp only
  split
  next after =>
    refine Yields.bind (local_readName after) ?_
    rintro ⟨second, rest⟩ ⟨front', -, rfl, hfront'⟩
    refine yields_pure ⟨front ++ ':' :: front', by simp, by simp, fun rest' hrest => ?_⟩
    obtain ⟨_, rfl, hread⟩ := hfront (':' :: (front' ++ rest')) rfl
    obtain ⟨_, rfl, hread'⟩ := hfront' rest' hrest
    refine ⟨_, rfl, ?_⟩
    rw [readQualifiedName, List.append_assoc, List.cons_append, hread]
    simp only [Bind.bind, Except.bind, hread']
    rfl
  next hcolon =>
    refine yields_pure ⟨front, hne, rfl, fun rest' hrest => ?_⟩
    obtain ⟨_, rfl, hread⟩ := hfront rest' hrest
    refine ⟨_, rfl, ?_⟩
    rw [readQualifiedName, hread]
    simp only [Bind.bind, Except.bind]
    split
    next =>
      obtain ⟨more, rfl⟩ := Alike.exists_cons hrest
      exact absurd rfl (hcolon more)
    next => rfl

lemma local_readCharacterNumber (isDigit : Char → Bool) (value : List Char → Nat) :
    Local Any Eq (readCharacterNumber isDigit value) := by
  intro cs found h
  unfold readCharacterNumber at h
  rw [List.span_eq_takeWhile_dropWhile] at h
  split at h
  next => exact yields_refuse _ h
  next ds rest hne heq =>
    cases h
    obtain ⟨hds, hrest⟩ := Prod.mk.inj heq
    refine ⟨ds ++ [';'], by simp, ?_, fun rest' _ => ⟨_, rfl, ?_⟩⟩
    · rw [List.append_assoc, List.singleton_append, ← hrest, ← hds, List.takeWhile_append_dropWhile]
    · have halike : Alike (cs.dropWhile isDigit) (';' :: rest') := by rw [hrest]; rfl
      obtain ⟨htake, hdrop⟩ := takeWhile_exchange halike
      rw [hds] at htake hdrop
      rw [readCharacterNumber, List.append_assoc, List.singleton_append,
        List.span_eq_takeWhile_dropWhile, htake, hdrop]
      cases ds with
      | nil => exact (hne rfl).elim
      | cons d ds => rfl
  next => exact yields_refuse _ h

lemma local_readReference : Local Any Eq readReference := by
  intro cs
  rw [readReference.eq_def]
  split
  next cs =>
    rintro found h
    obtain ⟨front, -, rfl, hfront⟩ := local_readCharacterNumber _ _ _ _ h
    exact ⟨'#' :: 'x' :: front, List.cons_ne_nil _ _, rfl, hfront⟩
  next cs hx =>
    rintro found h
    obtain ⟨front, hne, rfl, hfront⟩ := local_readCharacterNumber _ _ _ _ h
    refine ⟨'#' :: front, List.cons_ne_nil _ _, rfl, fun rest hrest => ?_⟩
    obtain ⟨r, hr, hread⟩ := hfront rest hrest
    refine ⟨r, hr, ?_⟩
    rw [List.cons_append, readReference, hread]
    obtain ⟨c, front, rfl⟩ := List.exists_cons_of_ne_nil hne
    rintro more heq
    cases heq
    exact hx _ rfl
  next hhex hnumber =>
    refine Yields.bind (local_readName cs) ?_
    rintro ⟨name, after⟩ ⟨front, hne, rfl, hfront⟩
    obtain ⟨c, front, rfl⟩ := List.exists_cons_of_ne_nil hne
    have hc : c ≠ '#' := by
      rintro rfl
      exact hnumber _ rfl
    dsimp only
    split
    next rest =>
      refine yields_pure ⟨c :: front ++ [';'], by simp, by simp, fun rest' _ => ⟨_, rfl, ?_⟩⟩
      obtain ⟨_, rfl, hread⟩ := hfront (';' :: rest') rfl
      rw [List.append_assoc, List.singleton_append, readReference, hread]
      · rfl
      · exact fun _ heq => hc (List.cons.inj heq).1
      · exact fun _ heq => hc (List.cons.inj heq).1
    next => exact yields_refuseInName

/-! ### Values -/

/-- What is taken with a first part in front, if how this part is read depends on the character
behind it only. -/
lemma yields_takenWithin {R : α → α → Prop} {read : List Char → Nat → Except ε (α × List Char)}
    {after : List Char} (front : List Char) (g : α → α) (hne : front ≠ [])
    (hafter : read (front ++ after) (n + 1) = (read after n).map fun found => (g found.1, found.2))
    (hread : ∀ cs, Alike after cs → ∃ f : α → α, (∀ a b, R a b → R (g a) (f b)) ∧ ∀ n,
      read (front ++ cs) (n + 1) = (read cs n).map fun found => (f found.1, found.2))
    (h : Yields (TakenWithin R read after) (read after n)) :
    Yields (TakenWithin R read (front ++ after)) (read (front ++ after) (n + 1)) := by
  rw [hafter]
  refine h.map ?_
  rintro ⟨a, rest⟩ ⟨front', hne', rfl, hfront'⟩
  refine ⟨front ++ front', by simp [hne], List.append_assoc _ _ _, fun rest n hn => ?_⟩
  have hone := List.length_pos_iff.mpr hne
  rw [List.length_append] at hn
  obtain ⟨n, rfl⟩ : ∃ k, n = k + 1 := ⟨n - 1, by omega⟩
  obtain ⟨b, hab, hb⟩ := hfront' rest n (by omega)
  obtain ⟨f, hf, hfront⟩ := hread (front' ++ rest) (alike_append hne' _ _)
  refine ⟨f b, hf a b hab, ?_⟩
  rw [List.append_assoc, hfront, hb]
  rfl

lemma readValue_quote (quote : Char) (cs : List Char) (n : Nat) :
    readValue quote (quote :: cs) (n + 1) = .ok ([], cs) := by
  rw [readValue.eq_def]
  exact if_pos rfl

lemma takenWithin_reference {quote : Char} (hquote : quote ≠ '&') (h : ∀ cs,
      Yields (TakenWithin (List.Forall₂ ValuePart.Same) (readValue quote) cs)
        (readValue quote cs n)) (cs : List Char) :
    Yields (TakenWithin (List.Forall₂ ValuePart.Same) (readValue quote) ('&' :: cs))
      (readValue quote ('&' :: cs) (n + 1)) := by
  cases hreference : readReference cs with
  | error stop =>
    rw [readValue, if_neg hquote, if_pos rfl, hreference]
    exact yields_error
  | ok found =>
    obtain ⟨r, after⟩ := found
    obtain ⟨front, -, rfl, hfront⟩ := local_readReference cs _ hreference
    refine yields_takenWithin ('&' :: front) _ (List.cons_ne_nil _ _)
      (readValue_reference hquote hreference) (fun cs _ => ?_) (h after)
    obtain ⟨_, rfl, hread⟩ := hfront cs trivial
    refine ⟨_, fun _ _ hparts => ?_, fun n => readValue_reference hquote hread⟩
    exact .cons (.reference r _ _) hparts

lemma takenWithin_readValue (quote : Char) (cs : List Char) (n : Nat) :
    Yields (TakenWithin (List.Forall₂ ValuePart.Same) (readValue quote) cs)
      (readValue quote cs n) := by
  induction n generalizing cs with
  | zero => exact yields_refuse
  | succ n ih =>
    cases cs with
    | nil => exact yields_error
    | cons c cs =>
      by_cases hquote : quote = c
      · subst hquote
        rw [readValue_quote]
        refine yields_ok.mpr ⟨[quote], by simp, rfl, fun rest n hn => ⟨[], .nil, ?_⟩⟩
        obtain ⟨n, rfl⟩ : ∃ k, n = k + 1 := ⟨n - 1, (Nat.sub_add_cancel hn).symm⟩
        exact readValue_quote quote rest n
      by_cases hamp : c = '&'
      · subst hamp
        exact takenWithin_reference hquote ih cs
      by_cases hc : (decide (c = '<') || !isXmlChar c) = true
      · rw [readValue, if_neg hquote, if_neg hamp, if_pos hc]
        exact yields_refuseInName
      · refine yields_takenWithin [c] _ (List.cons_ne_nil _ _) (readValue_cons hquote hamp hc)
          (fun cs' _ => ?_) (ih cs)
        exact ⟨_, fun _ _ h => .cons (.char c) h, fun n => readValue_cons hquote hamp hc⟩

/-! ### Attributes -/

lemma readAttribute_eq {name after assigned value : List Char} {quote : Char}
    {parts : List ValuePart} (hname : readQualifiedName cs = .ok (name, after))
    (hequals : after.dropWhile isSpace = '=' :: assigned)
    (hquote : assigned.dropWhile isSpace = quote :: value)
    (hmark : (decide (quote = '"') || decide (quote = '\'')) = true)
    (hvalue : readValue quote value (value.length + 1) = .ok (parts, rest)) :
    readAttribute cs = .ok (⟨name, parts, cs.length⟩, rest) := by
  obtain ⟨c, more, rfl⟩ : ∃ c more, after = c :: more := by
    apply List.exists_cons_of_ne_nil
    rintro rfl
    cases hequals
  have hc : (decide (c = '=') || isSpace c) = true := by
    by_cases hspace : isSpace c = true
    · rw [hspace, Bool.or_true]
    · rw [List.dropWhile_cons_of_neg hspace] at hequals
      cases hequals
      rfl
  rw [readAttribute, hname]
  simp only [Bind.bind, Except.bind, if_pos hc, hequals, hquote, if_pos hmark, hvalue]
  rfl

lemma local_readAttribute : Local Any RawAttribute.Same readAttribute := by
  intro cs
  refine Yields.bind (local_readQualifiedName cs) ?_
  rintro ⟨name, after⟩ ⟨front, hne, rfl, hfront⟩
  dsimp only
  split
  next c more =>
    split
    next =>
      split
      next assigned hequals =>
        split
        next quote value hquote =>
          split
          next hmark =>
            refine Yields.bind (takenWithin_readValue quote value _) ?_
            rintro ⟨parts, rest⟩ ⟨front', hne', rfl, hfront'⟩
            have hafter := List.takeWhile_append_dropWhile (p := isSpace) (l := c :: more)
            have hassigned := List.takeWhile_append_dropWhile (p := isSpace) (l := assigned)
            rw [hequals] at hafter
            rw [hquote] at hassigned
            refine yields_pure ⟨front ++ ((c :: more).takeWhile isSpace ++
              '=' :: (assigned.takeWhile isSpace ++ quote :: front')), by simp [hne], ?_,
              fun rest' _ => ?_⟩
            · simp only [List.append_assoc, List.cons_append, hassigned, hafter]
            obtain ⟨parts', hparts, hvalue⟩ := hfront' rest' ((front' ++ rest').length + 1)
              (by rw [List.length_append]; omega)
            have halike' : Alike (assigned.dropWhile isSpace) (quote :: (front' ++ rest')) := by
              rw [hquote]
              rfl
            have halike (cs : List Char) : Alike ((c :: more).dropWhile isSpace) ('=' :: cs) := by
              rw [hequals]
              rfl
            obtain ⟨_, rfl, hname⟩ := hfront _ (alike_takeWhile (halike _))
            have hread := readAttribute_eq hname (takeWhile_exchange (halike _)).2
              (takeWhile_exchange halike').2 hmark hvalue
            simp only [List.append_assoc, List.cons_append]
            refine ⟨_, ?_, hread⟩
            exact ⟨rfl, hparts⟩
          next => exact yields_refuse
        next => exact yields_refuse
      next => exact yields_refuse
    next => exact yields_refuseInName
  next => exact yields_refuse

/-! ### Start tags -/

lemma taken_readTagEnd {tagEnd : TagEnd} (h : readTagEnd cs = some (.ok (tagEnd, rest))) :
    ∃ front, front ≠ [] ∧ front ++ rest = cs ∧
      ∀ rest, readTagEnd (front ++ rest) = some (.ok (tagEnd, rest)) := by
  unfold readTagEnd at h
  split at h
  next =>
    cases h
    exact ⟨['>'], by simp, rfl, fun _ => rfl⟩
  next =>
    cases h
    exact ⟨['/', '>'], by simp, rfl, fun _ => rfl⟩
  next => exact absurd (Option.some.inj h) (yields_refuse (P := fun _ => False) _)
  next => cases h

lemma readTagEnd_eq_none (h : readTagEnd cs = none) (hcs : Alike cs rest) :
    readTagEnd rest = none := by
  unfold readTagEnd at h ⊢
  split at h
  next => cases h
  next => cases h
  next => cases h
  next hclose hempty hslash =>
    split
    next =>
      obtain ⟨more, rfl⟩ := hcs.exists_cons
      exact absurd rfl (hclose more)
    next =>
      obtain ⟨more, rfl⟩ := hcs.exists_cons
      exact absurd rfl (hslash more)
    next =>
      obtain ⟨more, rfl⟩ := hcs.exists_cons
      exact absurd rfl (hslash more)
    next => rfl

/-- What the attributes are and how the tag ends, apart from places. -/
def SameAttributes (found found' : List RawAttribute × TagEnd) : Prop :=
  List.Forall₂ RawAttribute.Same found.1 found'.1 ∧ found.2 = found'.2

lemma readTagEnd_of_isSpace {c : Char} (hc : isSpace c = true) : readTagEnd (c :: cs) = none := by
  unfold readTagEnd
  split
  next heq =>
    cases heq
    exact absurd hc (by decide)
  next heq =>
    cases heq
    exact absurd hc (by decide)
  next heq =>
    cases heq
    exact absurd hc (by decide)
  next => rfl

lemma readAttributes_of_readTagEnd {found : Except Stop (TagEnd × List Char)}
    (h : readTagEnd (cs.dropWhile isSpace) = some found) : readAttributes cs (n + 1) =
      found.map fun found => (([], found.1), found.2) := by
  cases cs with
  | nil => cases h
  | cons c cs =>
    rw [readAttributes]
    by_cases hc : isSpace c = true
    · simp only [readTagEnd_of_isSpace hc, if_pos hc, h]
    · rw [List.dropWhile_cons_of_neg hc] at h
      simp only [h]

lemma exists_cons_of_takeWhile {p : Char → Bool} (h : cs.takeWhile p ≠ []) :
    ∃ c more, cs = c :: more ∧ p c = true := by
  cases cs with
  | nil => exact absurd rfl h
  | cons c cs =>
    refine ⟨c, cs, rfl, ?_⟩
    by_contra hc
    exact h (List.takeWhile_cons_of_neg hc)

lemma readAttributes_cons_of_isSpace {a : RawAttribute} (hspace : cs.takeWhile isSpace ≠ [])
    (htag : readTagEnd (cs.dropWhile isSpace) = none)
    (hread : readAttribute (cs.dropWhile isSpace) = .ok (a, rest)) :
    readAttributes cs (n + 1) = (readAttributes rest n).map
      fun found => ((a :: found.1.1, found.1.2), found.2) := by
  obtain ⟨c, cs, rfl, hc⟩ := exists_cons_of_takeWhile hspace
  rw [readAttributes]
  simp only [readTagEnd_of_isSpace hc, if_pos hc, htag, hread, Bind.bind, Except.bind]
  cases readAttributes rest n <;> rfl

lemma takenWithin_readAttributes (cs : List Char) (n : Nat) :
    Yields (TakenWithin SameAttributes readAttributes cs) (readAttributes cs n) := by
  induction n generalizing cs with
  | zero => exact yields_refuse
  | succ n ih =>
    have hcs := List.takeWhile_append_dropWhile (p := isSpace) (l := cs)
    cases htag : readTagEnd (cs.dropWhile isSpace) with
    | some found =>
      rw [readAttributes_of_readTagEnd htag]
      cases found with
      | error stop => exact yields_error
      | ok found =>
        obtain ⟨tagEnd, rest⟩ := found
        obtain ⟨front, hne, hrest, hfront⟩ := taken_readTagEnd htag
        refine yields_ok.mpr ⟨cs.takeWhile isSpace ++ front, by simp [hne], ?_,
          fun rest' n hn => ?_⟩
        · rw [List.append_assoc, hrest, hcs]
        · have hone := List.length_pos_iff.mpr hne
          rw [List.length_append] at hn
          obtain ⟨n, rfl⟩ : ∃ k, n = k + 1 := ⟨n - 1, by omega⟩
          have halike : Alike (cs.dropWhile isSpace) (front ++ rest') :=
            hrest ▸ alike_append hne rest rest'
          have htag' := hfront rest'
          rw [← (takeWhile_exchange halike).2] at htag'
          refine ⟨([], tagEnd), ⟨.nil, rfl⟩, ?_⟩
          rw [List.append_assoc, readAttributes_of_readTagEnd htag']
          rfl
    | none =>
      by_cases hspace : cs.takeWhile isSpace = []
      · rw [hspace, List.nil_append] at hcs
        rw [hcs] at htag
        cases cs with
        | nil =>
          change Yields _ (refuse [])
          exact yields_refuse
        | cons c cs =>
          have hc : ¬isSpace c = true := fun hc => by simp [hc] at hspace
          rw [readAttributes]
          simp only [htag, if_neg hc]
          exact yields_refuse
      cases hattribute : readAttribute (cs.dropWhile isSpace) with
      | error stop =>
        obtain ⟨c, cs, rfl, hc⟩ := exists_cons_of_takeWhile hspace
        rw [readAttributes]
        simp only [readTagEnd_of_isSpace hc, if_pos hc, htag, hattribute]
        exact yields_error
      | ok found =>
        obtain ⟨a, after⟩ := found
        obtain ⟨front, hne, hrest, hfront⟩ := local_readAttribute _ _ hattribute
        have hall : cs.takeWhile isSpace ++ front ++ after = cs := by
          rw [List.append_assoc, hrest, hcs]
        have htaken := yields_takenWithin (cs.takeWhile isSpace ++ front)
          (fun found => (a :: found.1, found.2)) (by simp [hne])
          (by rw [hall]; exact readAttributes_cons_of_isSpace hspace htag hattribute)
          (fun cs' _ => ?_) (ih after)
        · rwa [hall] at htaken
        obtain ⟨a', ha, hread⟩ := hfront cs' trivial
        have halike : Alike (cs.dropWhile isSpace) (front ++ cs') :=
          hrest ▸ alike_append hne after cs'
        obtain ⟨htake, hdrop⟩ := takeWhile_exchange halike
        refine ⟨fun found => (a' :: found.1, found.2), fun _ _ h => ⟨.cons ha h.1, h.2⟩,
          fun n => ?_⟩
        rw [List.append_assoc]
        refine readAttributes_cons_of_isSpace (by rwa [htake]) ?_ (by rwa [hdrop])
        rw [hdrop]
        exact readTagEnd_eq_none htag halike

lemma readOpenTag_of_attributes {name after : List Char} {c : Char}
    {attributes : List RawAttribute} {tagEnd : TagEnd}
    (hname : readQualifiedName cs = .ok (name, c :: after)) (hc : isSpace c = true)
    (hattributes : readAttributes (c :: after) ((c :: after).length + 1) =
      .ok ((attributes, tagEnd), rest)) :
    readOpenTag cs = .ok (.openTag name attributes tagEnd.closes, rest) := by
  rw [readOpenTag, hname]
  simp only [Bind.bind, Except.bind, readTagEnd_of_isSpace hc, hc, Bool.not_true,
    Bool.false_eq_true, if_false, hattributes]
  rfl

lemma local_readOpenTag : Local Any Piece.Same readOpenTag := by
  intro cs
  refine Yields.bind (local_readQualifiedName cs) ?_
  rintro ⟨name, after⟩ ⟨front, hne, rfl, hfront⟩
  dsimp only
  cases htag : readTagEnd after with
  | some found =>
    cases found with
    | error stop => exact yields_error
    | ok found =>
      obtain ⟨tagEnd, rest⟩ := found
      obtain ⟨front', hne', rfl, hfront'⟩ := taken_readTagEnd htag
      refine yields_pure ⟨front ++ front', by simp [hne], List.append_assoc _ _ _,
        fun rest' _ => ?_⟩
      obtain ⟨_, rfl, hread⟩ := hfront (front' ++ rest') (alike_append hne' rest rest')
      refine ⟨_, .openTag .nil, ?_⟩
      rw [List.append_assoc, readOpenTag, hread]
      simp only [Bind.bind, Except.bind, hfront' rest']
      rfl
  | none =>
    cases after with
    | nil => exact Yields.bind (P := fun _ => False) yields_refuse fun _ h => h.elim
    | cons c after =>
      by_cases hc : isSpace c = true
      · simp only [hc, Bool.not_true, Bool.false_eq_true, if_false]
        refine Yields.bind (takenWithin_readAttributes (c :: after) _) ?_
        rintro ⟨⟨attributes, tagEnd⟩, rest⟩ ⟨front', hne', hafter, hfront'⟩
        refine yields_pure ⟨front ++ front', by simp [hne], ?_, fun rest' _ => ?_⟩
        · rw [List.append_assoc, hafter]
        obtain ⟨d, front', rfl⟩ := List.exists_cons_of_ne_nil hne'
        obtain ⟨rfl, -⟩ := List.cons.inj hafter
        obtain ⟨_, rfl, hread⟩ := hfront (d :: front' ++ rest') rfl
        obtain ⟨⟨attributes', tagEnd'⟩, ⟨hattributes, rfl⟩, hread'⟩ := hfront' rest'
          ((d :: front' ++ rest').length + 1) (by rw [List.length_append]; omega)
        refine ⟨_, .openTag hattributes, ?_⟩
        rw [List.append_assoc]
        exact readOpenTag_of_attributes hread hc hread'
      · simp only [hc, Bool.not_false, if_true]
        exact Yields.bind (P := fun _ => False) yields_refuseInName fun _ h => h.elim

end Recalc.Xml
