import Recalc.Proofs.Xml.Pieces

/-!
# Declared encodings

Octets are no document either for a fault with a place in their text, or because the declaration
names an encoding in which nothing can be read.
-/

namespace Recalc.Xml

variable {α : Type} {octets : List UInt8} {text body : List Char} {d : Declaration}
  {r : Except Fault α} {error : ReadError}

/-- The text of octets in the encoding that they show, without the mark of the byte order. -/
def shownText (octets : List UInt8) : List Char :=
  let text := (Encoding.detect octets).decode octets
  match text with
  | '\uFEFF' :: rest => rest
  | _ => text

/-- The text opens with a declaration, and goes on with the body. -/
def Opens (octets : List UInt8) (d : Declaration) (body : List Char) : Prop :=
  ∃ rest settings, shownText octets = '<' :: '?' :: 'x' :: 'm' :: 'l' :: rest ∧
    readInstruction ('x' :: 'm' :: 'l' :: rest) = .ok ((['x', 'm', 'l'], settings), body) ∧
    readDeclaration settings = .ok d

/-- The declaration names an encoding in which nothing can be read. -/
def Undecodable (octets : List UInt8) : Prop :=
  ∃ d body name here fault, Opens octets d body ∧ d.encoding = some (name, here) ∧
    (Encoding.detect octets).named name = .unusable fault

/-- The failure is told without a place in the text. -/
def ReadError.IsUnplaced : ReadError → Prop
  | .malformed .. => False
  | .encoding .. => True

lemma not_isUnplaced_of_placed (h : placed text r = .error error) : ¬error.IsUnplaced := by
  cases r with
  | ok a => cases h
  | error f =>
    cases h
    exact id

lemma chooseEncoding_unplaced_iff {first : Encoding} :
    (∃ error, chooseEncoding first octets text body d = .error error ∧ error.IsUnplaced) ↔
      ∃ name here fault, d.encoding = some (name, here) ∧ first.named name = .unusable fault := by
  unfold chooseEncoding
  cases hencoding : d.encoding with
  | none => simp
  | some pair =>
    obtain ⟨name, here⟩ := pair
    have hname : (∃ name' here' fault, some (name, here) = some (name', here') ∧
        first.named name' = .unusable fault) ↔ ∃ fault, first.named name = .unusable fault := by
      simp
    rw [hname]
    cases hnamed : first.named name with
    | unusable fault => simp [hnamed, ReadError.IsUnplaced]
    | differing =>
      refine iff_of_false ?_ (by simp)
      rintro ⟨error, herror, hunplaced⟩
      simp only [hnamed] at herror
      exact not_isUnplaced_of_placed herror hunplaced
    | known e =>
      refine iff_of_false ?_ (by simp)
      rintro ⟨error, herror, hunplaced⟩
      simp only [hnamed] at herror
      split at herror
      · exact not_isUnplaced_of_placed herror hunplaced
      · cases e <;> cases herror

lemma readOpening_of_opens (h : Opens octets d body) :
    readOpening octets = chooseEncoding (Encoding.detect octets) octets
      ((Encoding.detect octets).decode octets) body d := by
  obtain ⟨rest, settings, hstart, hinstruction, hdeclaration⟩ := h
  unfold shownText at hstart
  dsimp only at hstart
  split at hstart
  next text hdecode =>
    subst hstart
    simp [readOpening, hdecode, hinstruction, hdeclaration]
  next => simp [readOpening, hstart, hinstruction, hdeclaration]

/-- Before a declaration is read, no encoding is refused. -/
lemma exists_opens_of_unplaced (h : readOpening octets = .error error)
    (hunplaced : error.IsUnplaced) : ∃ d body, Opens octets d body := by
  unfold readOpening at h
  dsimp only at h
  split at h
  next rest hstart =>
    split at h
    next target settings body hinstruction =>
      split at h
      next => cases h
      next htarget =>
        rw [ne_eq, not_not] at htarget
        subst htarget
        split at h
        next d hdeclaration =>
          exact ⟨d, body, rest, settings, hstart, hinstruction, hdeclaration⟩
        next => exact absurd hunplaced (not_isUnplaced_of_placed h)
    next => cases h
  next => cases h

/-- A document is refused without a place in the text just when the declaration names an encoding
in which nothing can be read. -/
theorem read_unplaced_iff :
    (∃ error, read octets = .error error ∧ error.IsUnplaced) ↔ Undecodable octets := by
  have hopening : (∃ error, read octets = .error error ∧ error.IsUnplaced) ↔
      ∃ error, readOpening octets = .error error ∧ error.IsUnplaced := by
    refine exists_congr fun error => and_congr_left fun hunplaced => ?_
    unfold read
    cases readOpening octets with
    | error error' => simp [Bind.bind, Except.bind]
    | ok opening =>
      refine iff_of_false (fun h => ?_) nofun
      exact not_isUnplaced_of_placed h hunplaced
  rw [hopening]
  constructor
  · rintro ⟨error, herror, hunplaced⟩
    obtain ⟨d, body, hopens⟩ := exists_opens_of_unplaced herror hunplaced
    rw [readOpening_of_opens hopens] at herror
    obtain ⟨name, here, fault, hencoding, hnamed⟩ :=
      chooseEncoding_unplaced_iff.mp ⟨error, herror, hunplaced⟩
    exact ⟨d, body, name, here, fault, hopens, hencoding, hnamed⟩
  · rintro ⟨d, body, name, here, fault, hopens, hencoding, hnamed⟩
    rw [readOpening_of_opens hopens]
    exact chooseEncoding_unplaced_iff.mpr ⟨name, here, fault, hencoding, hnamed⟩

end Recalc.Xml
