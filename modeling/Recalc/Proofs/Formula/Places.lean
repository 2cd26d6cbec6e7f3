import Recalc.Formula.Parse
import Recalc.Proofs.Formula.Splitting

/-!
# Places of lexemes

A text is its lexemes one after another, with runs of separators between them, up to its end or to
a character where nothing begins. Every lexeme is the longest of its kind at its place, and the
place that is told with it is counted from the text in front of it.
-/

namespace Recalc.Formula

open Recalc.Number

/-! ### Counting places -/

/-- The place after a text: the line feeds in it are counted, and the characters since the last of
them. -/
def Position.after (before : List Char) : Position :=
  ⟨1 + before.count '\n', 1 + (before.reverse.takeWhile (· ≠ '\n')).length⟩

namespace Position

lemma next_after (before : List Char) (c : Char) :
    (after before).next c = after (before ++ [c]) := by
  unfold next after
  split
  next hc => simp [hc, Nat.add_assoc]
  next hc => simp [hc, Nat.add_comm]

lemma advance_after (before cs : List Char) :
    (after before).advance cs = after (before ++ cs) := by
  induction cs generalizing before with
  | nil => rw [List.append_nil]; rfl
  | cons c cs ih =>
    rw [List.append_cons, ← ih, ← next_after]
    rfl

end Position

/-! ### Texts in pieces -/

/-- Nothing but separators. -/
def IsGap (cs : List Char) : Prop :=
  ∀ c ∈ cs, isSeparator c = true

lemma isGap_nil : IsGap [] :=
  List.forall_mem_nil _

/-- A lexeme with the separators in front of it. -/
structure Piece where
  gap : List Char
  lexeme : Lexeme

def Piece.chars (piece : Piece) : List Char :=
  piece.gap ++ piece.lexeme.chars

/-- The text of pieces that follow one another. -/
def joined (pieces : List Piece) : List Char :=
  pieces.flatMap Piece.chars

/-- The pieces stand between two texts, each lexeme as the longest one of its kind and with its
place. -/
inductive Laid : List Char → List Piece → List Char → Prop where
  | nil (before after : List Char) : Laid before [] after
  | cons {before front chars after : List Char} {kind : LexemeKind} {pieces : List Piece}
      (hfront : IsGap front) (hlexes : Lexes kind chars (joined pieces ++ after))
      (h : Laid (before ++ front ++ chars) pieces after) :
      Laid before (⟨front, kind, chars, .after (before ++ front)⟩ :: pieces) after

/-- After `before`, the text is that of the pieces with a last run of separators, up to `rest`. -/
structure Divides (before text : List Char) (pieces : List Piece) (gap rest : List Char) :
    Prop where
  text_eq : joined pieces ++ gap ++ rest = text
  isGap : IsGap gap
  laid : Laid before pieces (gap ++ rest)

/-- Neither a separator nor a lexeme begins the text. -/
def Stuck (cs : List Char) : Prop :=
  (∀ c ∈ cs.head?, isSeparator c = false) ∧
    ∀ (kind : LexemeKind) (chars : List Char), kind.Spells chars → ¬chars <+: cs

variable {before text cs gap rest chars : List Char} {pieces : List Piece} {kind : LexemeKind}
  {fault : Option (Char × Nat)}

lemma joined_nil : joined [] = [] :=
  rfl

lemma joined_cons (front chars : List Char) (kind : LexemeKind) (p : Position) :
    joined (⟨front, kind, chars, p⟩ :: pieces) = front ++ chars ++ joined pieces :=
  List.flatMap_cons

/-- The lexemes before a place are divided in the same way when the text ends at this place. -/
lemma Laid.cut (h : Laid before pieces (gap ++ rest)) : Laid before pieces gap := by
  generalize hafter : gap ++ rest = after at h
  induction h with
  | nil => exact .nil _ _
  | cons hfront hlexes h ih =>
    subst hafter
    refine .cons hfront ⟨hlexes.spells, fun other hother hbegin => ?_⟩ (ih rfl)
    exact hlexes.longest other hother (hbegin.trans ⟨rest, by simp only [List.append_assoc]⟩)

lemma Divides.cut (h : Divides before text pieces gap rest) :
    Divides before (joined pieces ++ gap) pieces gap [] := by
  refine ⟨List.append_nil _, h.isGap, ?_⟩
  rw [List.append_nil]
  exact h.laid.cut

/-! ### Scanning -/

/-- Whatever a lexeme begins is read. -/
lemma exists_readLexeme (hspells : kind.Spells chars) (hbegin : chars <+: cs) :
    ∃ found, readLexeme cs = some found := by
  obtain ⟨rest, rfl⟩ := hbegin
  cases kind with
  | openParen =>
    obtain rfl := hspells
    exact ⟨_, rfl⟩
  | closeParen =>
    obtain rfl := hspells
    exact ⟨_, rfl⟩
  | operator =>
    obtain ⟨c, hc, rfl⟩ := hspells
    rw [List.singleton_append, readLexeme]
    split_ifs <;> exact ⟨_, rfl⟩
  | name =>
    cases chars with
    | nil => cases hspells
    | cons c chars =>
      have hc := (isNameChars_cons_iff.mp hspells).1
      rw [List.cons_append, readLexeme]
      split_ifs <;> exact ⟨_, rfl⟩
  | number =>
    obtain ⟨n, hn, rfl⟩ := hspells
    obtain ⟨longer, after, hread, -⟩ := Numeral.read?_append hn rest
    cases hcs : n.chars ++ rest with
    | nil =>
      obtain ⟨c, cs, hcons, -⟩ := hn.exists_cons
      simp [hcons] at hcs
    | cons c after =>
      rw [hcs] at hread
      rw [readLexeme, hread]
      split_ifs <;> exact ⟨_, rfl⟩

lemma readLexeme_eq_none_iff :
    readLexeme cs = none ↔ ∀ (kind : LexemeKind) (chars : List Char),
      kind.Spells chars → ¬chars <+: cs := by
  constructor
  · intro hnone kind chars hspells hbegin
    obtain ⟨found, hfound⟩ := exists_readLexeme hspells hbegin
    rw [hnone] at hfound
    cases hfound
  · intro hnone
    by_contra hsome
    obtain ⟨⟨kind, chars, rest⟩, hread⟩ := Option.ne_none_iff_exists'.mp hsome
    refine hnone kind chars (lexes_of_readLexeme hread).spells ⟨rest, ?_⟩
    exact readLexeme_append hread

lemma scanFrom_gap (hgap : IsGap gap) (before cs : List Char) :
    scanFrom (.after before) (gap ++ cs) = scanFrom (.after (before ++ gap)) cs := by
  induction gap generalizing before with
  | nil => rw [List.append_nil, List.nil_append]
  | cons c gap ih =>
    obtain ⟨hc, hgap⟩ := List.forall_mem_cons.mp hgap
    rw [List.cons_append, scanFrom, if_pos hc, Position.next_after, ih hgap, ← List.append_cons]

/-- What the scan says about a text where it comes to no lexeme. -/
inductive Stops (before : List Char) : List Char → Option (Char × Nat) → Prop where
  | finished : Stops before [] none
  | fault {c : Char} {rest : List Char} (hstuck : Stuck (c :: rest)) :
      Stops before (c :: rest) (some (c, (Position.after before).column))

lemma Stops.stuck {c : Char} (h : Stops before (c :: rest) fault) : Stuck (c :: rest) := by
  cases h with
  | fault hstuck => exact hstuck

lemma scanFrom_of_stops (h : Stops before cs fault) :
    scanFrom (.after before) cs = ⟨[], fault⟩ := by
  cases h with
  | finished => rw [scanFrom]
  | @fault c rest hstuck =>
    obtain ⟨hc, hnone⟩ := hstuck
    have hread := readLexeme_eq_none_iff.mpr hnone
    rw [scanFrom, if_neg (by simp [hc c rfl])]
    split
    next => rfl
    next hsome =>
      rw [hread] at hsome
      cases hsome

/-- A text that is divided into pieces is scanned as their lexemes. -/
lemma scanFrom_of_divides (h : Divides before text pieces gap rest)
    (hstops : Stops (before ++ joined pieces ++ gap) rest fault) :
    scanFrom (.after before) text = ⟨pieces.map Piece.lexeme, fault⟩ := by
  obtain ⟨rfl, hgap, hlaid⟩ := h
  generalize hafter : gap ++ rest = after at hlaid
  induction hlaid with
  | nil before =>
    rw [joined_nil, List.append_nil] at hstops
    exact (scanFrom_gap hgap before rest).trans (scanFrom_of_stops hstops)
  | @cons before front chars after kind pieces hfront hlexes hlaid ih =>
    subst hafter
    rw [joined_cons] at hstops ⊢
    have hmore := ih (by simpa only [List.append_assoc] using hstops) rfl
    rw [List.append_assoc (joined pieces)] at hmore
    simp only [List.append_assoc]
    rw [scanFrom_gap hfront, scanFrom_of_lexes hlexes, Position.advance_after, hmore]
    rfl

/-- A separator in front of a divided text belongs to the first run of separators. -/
lemma Divides.separator {c : Char} (hc : isSeparator c = true)
    (h : Divides (before ++ [c]) text pieces gap rest) :
    ∃ pieces' gap', Divides before (c :: text) pieces' gap' rest ∧
      before ++ joined pieces' ++ gap' = before ++ [c] ++ joined pieces ++ gap := by
  obtain ⟨rfl, hgap, hlaid⟩ := h
  cases hlaid with
  | nil =>
    exact ⟨[], c :: gap, ⟨rfl, List.forall_mem_cons.mpr ⟨hc, hgap⟩, .nil _ _⟩, by simp [joined_nil]⟩
  | @cons _ front chars _ kind pieces hfront hlexes hlaid =>
    rw [← List.append_cons] at hlaid
    refine ⟨⟨c :: front, kind, chars, .after (before ++ c :: front)⟩ :: pieces, gap,
      ⟨rfl, hgap, .cons (List.forall_mem_cons.mpr ⟨hc, hfront⟩) hlexes hlaid⟩, ?_⟩
    simp [joined_cons]

/-- Every text is divided up to its end or to a place where nothing begins. -/
lemma exists_divides (before text : List Char) : ∃ pieces gap rest,
    Divides before text pieces gap rest ∧
      Stops (before ++ joined pieces ++ gap) rest (scanFrom (.after before) text).fault := by
  generalize hp : Position.after before = p
  fun_induction scanFrom p text generalizing before with
  | case1 p => exact ⟨[], [], [], ⟨rfl, isGap_nil, .nil _ _⟩, .finished⟩
  | case2 p c rest hc ih =>
    subst hp
    obtain ⟨pieces, gap, rest, hdivides, hstops⟩ :=
      ih (before ++ [c]) (Position.next_after before c).symm
    obtain ⟨pieces', gap', hdivides', hbefore⟩ := hdivides.separator hc
    rw [← hbefore] at hstops
    exact ⟨pieces', gap', rest, hdivides', hstops⟩
  | case3 p c rest hc hnone =>
    subst hp
    refine ⟨[], [], c :: rest, ⟨rfl, isGap_nil, .nil _ _⟩, ?_⟩
    rw [List.append_nil, joined_nil, List.append_nil]
    exact .fault ⟨by simpa using hc, readLexeme_eq_none_iff.mp hnone⟩
  | case4 p c rest hc kind chars after hread more ih =>
    subst hp
    obtain ⟨pieces, gap, rest', ⟨hafter, hgap, hlaid⟩, hstops⟩ :=
      ih (before ++ chars) (Position.advance_after before chars).symm
    have hlexes := lexes_of_readLexeme hread
    rw [← hafter, List.append_assoc] at hlexes
    have hlaid' : Laid before (⟨[], kind, chars, .after (before ++ [])⟩ :: pieces) (gap ++ rest') :=
      .cons isGap_nil hlexes (by simpa using hlaid)
    rw [List.append_nil] at hlaid'
    refine ⟨⟨[], kind, chars, .after before⟩ :: pieces, gap, rest', ⟨?_, hgap, hlaid'⟩, ?_⟩
    · rw [joined_cons, List.nil_append, ← readLexeme_append hread, ← hafter]
      simp only [List.append_assoc]
    · simpa only [joined_cons, List.nil_append, List.append_assoc] using hstops

/-! ### The lexemes of a text -/

section

variable {text : String} {c : Char}

lemma lexemes_of_divides (h : Divides [] text.toList pieces gap []) :
    lexemes text = .ok (pieces.map Piece.lexeme) := by
  have hscan : scan text = ⟨_, none⟩ := scanFrom_of_divides h .finished
  rw [lexemes, hscan]

lemma lexemes_of_stuck (h : Divides [] text.toList pieces gap (c :: rest))
    (hstuck : Stuck (c :: rest)) : lexemes text =
      .error (.unrecognized c (Position.after (joined pieces ++ gap)).column) := by
  have hscan : scan text = ⟨_, some _⟩ := scanFrom_of_divides h (.fault hstuck)
  rw [lexemes, hscan]
  rfl

/-- A text has just the lexemes that it is divided into. It has none just when there is a character
that begins neither a lexeme nor a run of separators, after a text that is divided; this character
is told with its column. -/
theorem lexemes_iff_divides (text : String) :
    (∀ ls, lexemes text = .ok ls ↔
      ∃ pieces gap, Divides [] text.toList pieces gap [] ∧ pieces.map Piece.lexeme = ls) ∧
    ∀ e, lexemes text = .error e ↔
      ∃ pieces gap c rest, Divides [] text.toList pieces gap (c :: rest) ∧
        Divides [] (joined pieces ++ gap) pieces gap [] ∧ Stuck (c :: rest) ∧
        e = .unrecognized c (Position.after (joined pieces ++ gap)).column := by
  obtain ⟨pieces, gap, rest, hdivides, hstops⟩ := exists_divides [] text.toList
  constructor
  · intro ls
    constructor
    · intro hok
      cases rest with
      | nil =>
        rw [lexemes_of_divides hdivides] at hok
        exact ⟨pieces, gap, hdivides, Except.ok.inj hok⟩
      | cons c rest =>
        rw [lexemes_of_stuck hdivides hstops.stuck] at hok
        cases hok
    · rintro ⟨pieces', gap', hdivides', rfl⟩
      exact lexemes_of_divides hdivides'
  · intro e
    constructor
    · intro herror
      cases rest with
      | nil =>
        rw [lexemes_of_divides hdivides] at herror
        cases herror
      | cons c rest =>
        have hstuck := hstops.stuck
        rw [lexemes_of_stuck hdivides hstuck] at herror
        exact ⟨pieces, gap, c, rest, hdivides, hdivides.cut, hstuck, (Except.error.inj herror).symm⟩
    · rintro ⟨pieces', gap', c, rest', hdivides', -, hstuck, rfl⟩
      exact lexemes_of_stuck hdivides' hstuck

/-- A letter without digits after it belongs to no numeral. -/
example : lexemes "2.\n 1e+" = .ok
    [⟨.number, ['2', '.'], 1, 1⟩, ⟨.number, ['1'], 2, 2⟩, ⟨.name, ['e'], 2, 3⟩,
      ⟨.operator, ['+'], 2, 4⟩] := by
  cbv

end

end Recalc.Formula
