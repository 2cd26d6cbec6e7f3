/-!
# Text without styling

Terminals take some sequences of characters as orders to change colours and other styles of text:
an escape character and a bracket, then parameters, then a letter. Plain text has none of them.
-/

namespace Recalc.Text

/-- The rest of a text after the parameters and the letter that end a sequence, if they follow. -/
def skipStyling? : List Char → Option (List Char)
  | [] => none
  | c :: rest =>
    if c.isDigit || c = ';' || c = '?' then skipStyling? rest
    else if c.isAlpha then some rest
    else none

theorem length_skipStyling? {cs rest : List Char} (h : skipStyling? cs = some rest) :
    rest.length < cs.length := by
  fun_induction skipStyling? cs with
  | case1 => simp at h
  | case2 c cs _ ih => exact Nat.lt_succ_of_lt (ih h)
  | case3 c cs _ _ => simp_all
  | case4 => simp at h

def withoutStylingChars : List Char → List Char
  | '\x1b' :: '[' :: rest =>
    match h : skipStyling? rest with
    | some plain =>
      have := length_skipStyling? h
      withoutStylingChars plain
    | none => '\x1b' :: '[' :: withoutStylingChars rest
  | c :: rest => c :: withoutStylingChars rest
  | [] => []
termination_by cs => cs.length
decreasing_by all_goals (simp only [List.length_cons]; omega)

def withoutStyling (s : String) : String :=
  String.ofList (withoutStylingChars s.toList)

end Recalc.Text
