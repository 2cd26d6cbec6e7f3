import Recalc.Proofs.Sheet.Outcome
import Recalc.Proofs.Sheet.Undone

/-!
# Texts of numbers

The text that is written for a finite number enters this number in every bit, into every cell of
every sheet. Only zero with a sign is entered without it.
-/

namespace Recalc

open Recalc.Number Recalc.Text

namespace Number

variable {x : Float}

lemma toBits_negativeZero : negativeZero.toBits = 0x8000000000000000 := by
  decide +kernel

lemma toBits_dropZeroSign (x : Float) :
    (dropZeroSign x).toBits = if x.toBits = 0x8000000000000000 then 0 else x.toBits := by
  have hzero : (ofMagnitudeBits false 0).toBits = 0 := by decide +kernel
  rw [dropZeroSign, toBits_negativeZero]
  split
  next => exact hzero
  next => rfl

/-- The text of a number is converted to it. -/
lemma parse?_plainText (h : isFinite x = true) : parse? (plainText x) = some (dropZeroSign x) := by
  have hread := Contents.parse?_of_readNumber? (Contents.readNumber?_plainText h)
  rwa [Contents.not_isSeparatorControl_plainText h, if_neg Bool.false_ne_true] at hread

end Number

variable {x : Float}

/-- The text of the number `x` enters the number `y`, and whoever reads the cell gets `y`. -/
structure EntersAs (x y : Float) : Prop where
  ofText_eq : ∀ naming, Contents.ofText naming (Contents.number x).toText = .ok (.number y)
  parse?_eq : parse? (Contents.number x).toText = some y
  /-- No sheet refuses the text, whatever is in the cell and refers to it. -/
  entered : ∀ s : Sheet, s.Reachable → ∀ name n, s.checkName name = .ok n →
    ∃ order t, s.setContents name (.text (Contents.number x).toText) = (.ok order, t) ∧
      t.contents name = .ok (.number y) ∧ t.value name = .ok (.number y)

namespace Sheet

variable {s : Sheet} {name : Datum} {n text : String} {x y : Float}

/-- A number closes no cycle. -/
lemma Consistent.not_transGen_store_number (hs : s.Consistent) (n k : String) (y : Float) :
    ¬Relation.TransGen (s.cells.store n (.number y)).References k k := by
  intro hloop
  refine hs.not_transGen_references k (Relation.TransGen.mono (fun t u href => ?_) _ _ hloop)
  rcases Cells.references_store.mp href with ⟨-, hu⟩ | ⟨-, href⟩
  · exact absurd hu Std.ExtTreeSet.not_mem_empty
  · exact href

/-- A number is accepted, and the cell shows it. -/
lemma Consistent.exists_setContents_number (hs : s.Consistent) (hname : s.checkName name = .ok n)
    (hread : Contents.ofText s.naming text = .ok (.number y)) :
    ∃ order t, s.setContents name (.text text) = (.ok order, t) ∧ t.naming = s.naming ∧
      t.cells[n]? = some ⟨.number y, .number y⟩ := by
  have hset := setContents_eq_commit hname hread
  obtain ⟨order, hdone⟩ := hs.exists_commit (hs.not_transGen_store_number n · y)
  rw [hdone] at hset
  have hcontents : (order.foldl Cells.recalculate (s.cells.store n (.number y)))[n]?.map
      Cell.contents = some (.number y) := by
    rw [Cells.map_contents_foldl, Cells.map_contents_store_self]
    rfl
  obtain ⟨⟨c, v⟩, hcell, rfl⟩ := Option.map_eq_some_iff.mp hcontents
  have hcurrent := hs.setContents name (.text text)
  rw [hset] at hcurrent
  have hvalue : v = .number y := hcurrent.current n _ hcell
  exact ⟨order, _, hset, rfl, hvalue ▸ hcell⟩

end Sheet

/-- The text of a finite number enters the number in every bit, but zero without its sign. -/
theorem exists_entersAs (hx : isFinite x = true) :
    ∃ y, EntersAs x y ∧ y.toBits = if x.toBits = 0x8000000000000000 then 0 else x.toBits := by
  refine ⟨dropZeroSign x, ?_, toBits_dropZeroSign x⟩
  constructor
  · exact fun naming => Contents.ofText_plainText hx
  · exact parse?_plainText hx
  · intro s hs name n hname
    obtain ⟨order, t, hset, hnaming, hcell⟩ :=
      hs.consistent.exists_setContents_number hname (Contents.ofText_plainText hx)
    have hname' : t.checkName name = .ok n := by rwa [Sheet.checkName, hnaming]
    refine ⟨order, t, hset, ?_, ?_⟩
    · rw [Sheet.contents, hname', Except.map, hcell]
      rfl
    · rw [Sheet.value, hname', Except.map, hcell]
      rfl

/-- The least double from which on the integers are written in scientific notation. -/
theorem exists_entersAs_scientific : isFinite 1e16 = true ∧
    ∃ y, EntersAs 1e16 y ∧
      y.toBits =
        if (1e16 : Float).toBits = 0x8000000000000000 then 0 else (1e16 : Float).toBits := by
  have hfinite : isFinite 1e16 = true := by decide +kernel
  exact ⟨hfinite, exists_entersAs hfinite⟩

/-- Zero can be entered with a sign, but its text is that of zero. -/
theorem not_entersAs_negativeZero :
    isFinite negativeZero = true ∧ negativeZero.toBits = 0x8000000000000000 ∧
    Contents.ofText .free "-0" = .ok (.number negativeZero) ∧
    (Contents.number negativeZero).toText = "0" ∧ ¬EntersAs negativeZero negativeZero := by
  have hfinite : isFinite negativeZero = true := by decide +kernel
  have hread : Contents.readNumber? "-0".toList = some negativeZero := rfl
  have htext : plainText negativeZero = "0" := by decide +kernel
  have henter : Contents.ofText .free "-0" = .ok (.number negativeZero) := by
    rw [Contents.ofText, hread]
    simp only [hfinite, if_true]
    rfl
  refine ⟨hfinite, toBits_negativeZero, henter, htext, fun henters => ?_⟩
  have hlost : dropZeroSign negativeZero = negativeZero :=
    Option.some.inj ((parse?_plainText hfinite).symm.trans henters.parse?_eq)
  have hbits := toBits_dropZeroSign negativeZero
  rw [hlost, toBits_negativeZero] at hbits
  exact absurd hbits (by decide)

end Recalc
