import Recalc.Name
import Recalc.Number.Numeral

/-!
# Lexemes

The text of a formula is cut into parentheses, operators, names and numerals, each the longest
that starts at its place, with blanks between them. Scanning goes on to the first character that
starts nothing, and tells the lexemes before it together with that character.
-/

namespace Recalc.Formula

open Recalc.Number

inductive LexemeKind where
  | openParen
  | closeParen
  | operator
  | name
  | number
  deriving DecidableEq, Repr

/-- A place in a text. Both counts start at one, and a line feed starts a new line. -/
structure Position where
  line : Nat
  column : Nat
  deriving DecidableEq, Repr

def Position.start : Position := ⟨1, 1⟩

def Position.next (p : Position) (c : Char) : Position :=
  if c = '\n' then ⟨p.line + 1, 1⟩ else ⟨p.line, p.column + 1⟩

def Position.advance (p : Position) (cs : List Char) : Position :=
  cs.foldl Position.next p

structure Lexeme where
  kind : LexemeKind
  chars : List Char
  position : Position
  deriving DecidableEq, Repr

def Lexeme.text (l : Lexeme) : String :=
  String.ofList l.chars

/-- The blanks that may stand between lexemes. -/
def isSeparator (c : Char) : Bool :=
  c = ' ' || c = '\t' || c = '\x0c' || c = '\r' || c = '\n'

def isOperator (c : Char) : Bool :=
  c = '+' || c = '-' || c = '*' || c = '/'

/-- The lexeme at the start of a text: its kind, its characters, and what follows them. -/
def readLexeme (cs : List Char) : Option (LexemeKind × List Char × List Char) :=
  match cs with
  | [] => none
  | c :: rest =>
    if c = '(' then some (.openParen, [c], rest)
    else if c = ')' then some (.closeParen, [c], rest)
    else if isOperator c then some (.operator, [c], rest)
    else if isNameStart c then
      some (.name, c :: rest.takeWhile isNamePart, rest.dropWhile isNamePart)
    else (Numeral.read? cs).map fun (n, after) => (.number, n.chars, after)

/-! ### Nothing is lost -/

theorem readLexeme_append {cs chars rest : List Char} {kind : LexemeKind}
    (h : readLexeme cs = some (kind, chars, rest)) : chars ++ rest = cs := by
  unfold readLexeme at h
  split at h
  · simp at h
  · repeat' split at h
    iterate 4
      · simp only [Option.some.injEq, Prod.mk.injEq] at h
        obtain ⟨-, rfl, rfl⟩ := h
        simp
    simp only [Option.map_eq_some_iff, Prod.mk.injEq] at h
    obtain ⟨⟨n, after⟩, hn, -, rfl, rfl⟩ := h
    exact Numeral.chars_append_of_read? hn

theorem readLexeme_ne_nil {cs chars rest : List Char} {kind : LexemeKind}
    (h : readLexeme cs = some (kind, chars, rest)) : chars ≠ [] := by
  unfold readLexeme at h
  split at h
  · simp at h
  · repeat' split at h
    iterate 4
      · simp only [Option.some.injEq, Prod.mk.injEq] at h
        obtain ⟨-, rfl, -⟩ := h
        simp
    simp only [Option.map_eq_some_iff, Prod.mk.injEq] at h
    obtain ⟨⟨n, after⟩, hn, -, rfl, -⟩ := h
    exact Numeral.chars_ne_nil_of_read? hn

theorem readLexeme_length {cs chars rest : List Char} {kind : LexemeKind}
    (h : readLexeme cs = some (kind, chars, rest)) : rest.length < cs.length := by
  rw [← readLexeme_append h, List.length_append]
  have := List.length_pos_iff.mpr (readLexeme_ne_nil h)
  omega

/-! ### Scanning -/

/-- What was found in a text: its lexemes, and the character that stopped the scan with its
column. -/
structure Scan where
  lexemes : List Lexeme
  fault : Option (Char × Nat)

def scanFrom (p : Position) (cs : List Char) : Scan :=
  match cs with
  | [] => ⟨[], none⟩
  | c :: rest =>
    if isSeparator c then scanFrom (p.next c) rest
    else
      match _h : readLexeme (c :: rest) with
      | none => ⟨[], some (c, p.column)⟩
      | some (kind, chars, after) =>
        let more := scanFrom (p.advance chars) after
        ⟨⟨kind, chars, p⟩ :: more.lexemes, more.fault⟩
termination_by cs.length
decreasing_by
  · simp
  · exact readLexeme_length _h

def scan (text : String) : Scan :=
  scanFrom .start text.toList

end Recalc.Formula
