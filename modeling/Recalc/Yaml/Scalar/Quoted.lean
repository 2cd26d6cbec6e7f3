import Recalc.Json.Reader
import Recalc.Yaml.Fault
import Recalc.Yaml.Place

/-!
# Quoted scalars

Text between single or double quotes. A single quote is written twice inside single quotes; inside
double quotes a backslash starts an escape. Line ends are folded, and blanks around them dropped.
-/

namespace Recalc.Yaml

/-- The characters that one-letter escapes stand for. -/
def escapes : List (Char × Char) := [
  ('0', '\x00'), ('a', '\x07'), ('b', '\x08'), ('t', '\t'), ('\t', '\t'), ('n', '\n'),
  ('v', '\x0b'), ('f', '\x0c'), ('r', '\r'), ('e', '\x1b'), (' ', ' '), ('"', '"'), ('\\', '\\'),
  ('/', '/'), ('N', '\x85'), ('_', '\xa0'), ('L', '\u2028'), ('P', '\u2029')]

/-- The digits of an escape by number. -/
def escapeLength? (c : Char) : Option Nat :=
  [('x', 2), ('u', 4), ('U', 8)].lookup c

/-- The code point of a number. Surrogates are not joined. -/
def codePoint (n : Nat) : Except Fault CodePoint :=
  if 0x110000 ≤ n then .error (.characterNumber n) else .ok (.ofNat n)

/-- What an escape stands for, in reverse order, at the place after its backslash. -/
def readEscape (p : Place) : Except Fault (CodePoints × Place) :=
  match p.next with
  | none => .error (.malformed .badEscape)
  | some c =>
    match escapes.lookup c, escapeLength? c with
    | some d, _ => .ok ([.char d], p.skip 1)
    | none, some n =>
      let digits := (p.rest.drop 1).take n
      match Json.hexValues? digits with
      | some value =>
        if digits.length < n then .error (.malformed .badEscape)
        else (codePoint value).map fun d => ([d], p.skip (n + 1))
      | none => .error (.malformed .badEscape)
    | none, none =>
      match p.break? with
      | none => .error (.malformed .badEscape)
      | some (_, p) =>
        let (ends, atSeparator, p) := p.emptyLines isBlank [] (p.rest.length + 1)
        if atSeparator then .error (.malformed .separatorInQuote) else .ok (ends.map .char, p)

/-- The rest of a quoted text; `read` is what was read of it, in reverse order. It has fewer parts
than a number. -/
def quotedFrom (double : Bool) (read : CodePoints) (p : Place) :
    Nat → Except Fault (CodePoints × Place)
  | 0 => .error (.malformed .unclosedQuote)
  | parts + 1 =>
    let (plain, p) := p.span fun c => c ≠ '\'' && c ≠ '"' && c ≠ '\\' && !isBlank c && !isBreak c
    let read := plain.reverse.map .char ++ read
    match p.next with
    | none => .error (.malformed .unclosedQuote)
    | some c =>
      if c = (if double then '"' else '\'') then
        if !double && p.after 1 = some '\'' then
          quotedFrom double (.char '\'' :: read) (p.skip 2) parts
        else .ok (read.reverse, p.skip 1)
      else if double && c = '\\' then
        match readEscape (p.skip 1) with
        | .ok (cs, p) => quotedFrom double (cs ++ read) p parts
        | .error f => .error f
      else if isBlank c || isBreak c then
        let (blanks, after) := p.span isBlank
        match after.gap? isBlank with
        | some gap =>
          if gap.atSeparator then .error (.malformed .separatorInQuote)
          else quotedFrom double (gap.folded.map .char ++ read) gap.place parts
        | none => quotedFrom double (blanks.reverse.map .char ++ read) after parts
      else quotedFrom double (.char c :: read) (p.skip 1) parts

/-- The quoted text whose opening quote is here. -/
def readQuoted (double : Bool) (p : Place) : Except Fault (CodePoints × Place) :=
  quotedFrom double [] (p.skip 1) (p.rest.length + 1)

end Recalc.Yaml
