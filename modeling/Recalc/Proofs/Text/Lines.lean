import Mathlib
import Recalc.Text.Lines

/-!
# Lines

A text that consists of lines with a line feed after each of them falls into these lines, when no
character inside of them ends a line.
-/

namespace Recalc.Text

variable {line cs rest : List Char}

/-- Without line ends, characters are added to the line. -/
lemma linesFrom_append (h : ∀ c ∈ cs, isLineEnd c = false) :
    linesFrom line (cs ++ '\n' :: rest) = (line.reverse ++ cs) :: linesFrom [] rest := by
  induction cs generalizing line with
  | nil =>
    rw [List.nil_append, List.append_nil, linesFrom, if_pos (by decide)]
    simp
  | cons c cs ih =>
    obtain ⟨hc, hcs⟩ := List.forall_mem_cons.mp h
    have hreturn : c ≠ '\r' := by
      rintro rfl
      cases hc
    rw [List.cons_append, linesFrom, hc, if_neg (by decide), ih hcs, List.reverse_cons,
      List.append_assoc, List.singleton_append]
    simp [hreturn]

theorem linesFrom_terminated {ls : List (List Char)} (h : ∀ l ∈ ls, ∀ c ∈ l, isLineEnd c = false) :
    linesFrom [] (ls.flatMap fun l => l ++ ['\n']) = ls := by
  induction ls with
  | nil => rfl
  | cons l ls ih =>
    obtain ⟨hl, hls⟩ := List.forall_mem_cons.mp h
    rw [List.flatMap_cons, List.append_assoc, List.singleton_append, linesFrom_append hl, ih hls]
    rfl

end Recalc.Text
