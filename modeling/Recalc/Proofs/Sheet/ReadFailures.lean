import Recalc.Proofs.Sheet.Outcome
import Recalc.Proofs.Sheet.WriteFailures
import Recalc.Proofs.Xml.Declared

/-!
# Failures to read

A file that cannot be read is told as a fault of the file, whether the disk, the markup, the
structure, the version or a cell is the cause. Only a declaration that names an encoding in which
nothing can be read, and a path that no system has, are told in another way. No stored number fails
to be converted, since the separator control characters are no characters of documents.
-/

namespace Recalc

open Recalc.Text Recalc.Xml

/-- The failures to read a file. All of them are faults of the file, but for those of the encoding,
which come about when the file is there and declares an encoding in which nothing can be read, and
those of the disk, which come about when the path has a code point that no path can have. -/
structure ReadFails {α : Type} (d : Disk) (path : CodePoints) (outcome : Except SheetFailure α) :
    Prop where
  ofFile_or : ∀ failure, outcome = .error failure →
    failure.OfFile path ∨ (∃ error, failure = .encoding error) ∨ ∃ error, failure = .disk error
  encoding_iff : (∃ error, outcome = .error (.encoding error)) ↔
    ∃ octets, d.read (.ofText path) = .ok octets ∧ Undecodable octets
  disk_iff : (∃ error, outcome = .error (.disk error)) ↔
    ∃ c ∈ path, c = .char '\x00' ∨ c.isNameable = false

variable {α β : Type} {d : Disk} {path : CodePoints} {name text : String} {failure : SheetFailure}
  {x : Except SheetFailure α} {f : α → Except SheetFailure β}

/-- Whatever is done after reading adds faults of the file only. -/
lemma ReadFails.bind (h : ReadFails d path x)
    (hf : ∀ a, x = .ok a → ∀ failure, f a = .error failure → failure.OfFile path) :
    ReadFails d path (x >>= f) := by
  cases x with
  | error failure =>
    have hsame (failure' : SheetFailure) : (.error failure >>= f) = .error failure' ↔
        (.error failure : Except SheetFailure α) = .error failure' := by
      constructor <;> (rintro ⟨⟩; rfl)
    refine ⟨fun failure' h' => h.ofFile_or failure' ((hsame failure').mp h'), ?_, ?_⟩
    · simp only [hsame, h.encoding_iff]
    · simp only [hsame, h.disk_iff]
  | ok a =>
    refine ⟨fun failure h' => .inl (hf a rfl failure h'), ?_, ?_⟩
    · rw [← h.encoding_iff]
      refine iff_of_false ?_ nofun
      rintro ⟨error, herror⟩
      exact hf a rfl _ herror
    · rw [← h.disk_iff]
      refine iff_of_false ?_ nofun
      rintro ⟨error, herror⟩
      exact hf a rfl _ herror

/-- The system is not asked about a path with a code point that no path can have. -/
lemma fault?_ofText_ne_none_iff : (Path.ofText path).fault? ≠ none ↔
    ∃ c ∈ path, c = .char '\x00' ∨ c.isNameable = false := by
  rw [Ne, Path.fault?_ofText_eq_none_iff]
  constructor
  · intro h
    by_contra hnone
    push Not at hnone
    exact h ⟨fun c hc => Bool.of_not_eq_false (hnone c hc).2, fun hnul => (hnone _ hnul).1 rfl⟩
  · rintro ⟨c, hc, rfl | hforeign⟩ ⟨hnameable, hnul⟩
    · exact hnul hc
    · exact Bool.false_ne_true (hforeign.symm.trans (hnameable c hc))

namespace StoredSheet

/-- A file that is not read is a fault of the file, unless the system is not asked for it. -/
lemma readFails_of_read_error {e : DiskError} (hread : d.read (.ofText path) = .error e) :
    ReadFails d path (readRoot d path) := by
  have hunasked := (Disk.isUnasked_of_read hread).trans fault?_ofText_ne_none_iff
  unfold readRoot
  simp only [hread]
  split
  next he =>
    refine ⟨fun failure h => ?_, by simp [hread], by simp [hunasked.mp he]⟩
    cases h
    exact .inr (.inr ⟨e, rfl⟩)
  next he =>
    refine ⟨fun failure h => ?_, by simp [hread], by simpa using mt hunasked.mpr he⟩
    cases h
    exact .inl (.inr rfl)

/-- What is read fails for its encoding, or is a fault of the file. -/
lemma readFails_of_read_ok {octets : Octets} (hread : d.read (.ofText path) = .ok octets) :
    ReadFails d path (readRoot d path) := by
  have hundecodable : (∃ octets', d.read (.ofText path) = .ok octets' ∧ Undecodable octets') ↔
      ∃ error, Xml.read octets = .error error ∧ error.IsUnplaced := by
    simp [hread, read_unplaced_iff]
  have hasked : ¬∃ c ∈ path, c = .char '\x00' ∨ c.isNameable = false := by
    obtain ⟨l, hl, -⟩ := Disk.read_eq_ok_iff.mp hread
    exact fun h => fault?_ofText_ne_none_iff.mpr h (Disk.locate_eq_ok_iff.mp hl).1
  unfold readRoot
  simp only [hread]
  refine ⟨fun failure h => ?_, ?_, ?_⟩
  · split at h
    next =>
      cases h
      exact .inl (.inr rfl)
    next error _ _ =>
      cases h
      exact .inr (.inl ⟨error, rfl⟩)
    next root _ =>
      split at h
      next =>
        cases h
        exact .inl (.inr rfl)
      next => cases h
  · rw [hundecodable]
    cases hxml : Xml.read octets with
    | error error => cases error <;> simp [ReadError.IsUnplaced]
    | ok root => cases hversion : versionOf root <;> simp [hversion]
  · refine iff_of_false ?_ hasked
    rintro ⟨error, herror⟩
    split at herror
    next => cases herror
    next => cases herror
    next => split at herror <;> cases herror

lemma readFails_readRoot : ReadFails d path (readRoot d path) := by
  cases hread : d.read (.ofText path) with
  | error e => exact readFails_of_read_error hread
  | ok octets => exact readFails_of_read_ok hread

/-- What is wrong with the structure of a document is a fault of the file. -/
lemma ofFile_of_structured {r : Except StructureFault α}
    (h : (r.mapError fun fault => .file ⟨.structured fault, path⟩) = .error failure) :
    failure.OfFile path := by
  cases r with
  | ok a => cases h
  | error fault =>
    cases h
    exact .inl rfl

lemma readFails_read : ReadFails d path (read d path) :=
  readFails_readRoot.bind fun _ _ _ h => ofFile_of_structured h

lemma readFails_readVersion : ReadFails d path (readVersion d path) :=
  readFails_readRoot.bind fun _ _ _ h => ofFile_of_structured h

end StoredSheet

/-- No character of a document stands beside a number without being a blank there. -/
lemma isSeparatorControl_eq_false {c : Char} (h : isXmlChar c = true) :
    Contents.isSeparatorControl c = false := by
  rw [StoredSheet.isXmlChar_iff] at h
  unfold StoredSheet.IsStandardChar at h
  simp only [Contents.isSeparatorControl, Bool.and_eq_false_iff, decide_eq_false_iff_not]
  omega

namespace Sheet

variable {s : Sheet} {cells : List (String × String)} {e : EditError}

/-- The first cell that is refused is one of the cells, entered under the same policy. -/
lemma exists_of_enterAll_error (h : s.enterAll cells = .error (name, e)) :
    ∃ (s' : Sheet) (text : String), (name, text) ∈ cells ∧
      (s'.setContents (.text name) (.text text)).1 = .error e := by
  induction cells generalizing s with
  | nil => cases h
  | cons cell cells ih =>
    obtain ⟨name', text'⟩ := cell
    unfold enterAll at h
    split at h
    next s' _ =>
      obtain ⟨s'', text, hmem, herror⟩ := ih h
      exact ⟨s'', text, List.mem_cons_of_mem _ hmem, herror⟩
    next herror =>
      cases h
      exact ⟨s, text', List.mem_cons_self, by rw [herror]⟩

/-- Texts of documents are never taken for numbers that cannot be converted. -/
lemma ne_unreadableNumber (htext : Xml.IsText text.toList) {given : String} :
    (s.setContents (.text name) (.text text)).1 ≠ .error (.unreadableNumber given) := by
  intro h
  obtain ⟨-, given', hc⟩ := undocumented_iff_unreadable.mp ⟨_, h, id⟩
  obtain ⟨-, ⟨x, hread⟩, hparse⟩ := Contents.ofText_eq_unreadable_iff.mp hc
  rw [Contents.parse?_of_readNumber? hread] at hparse
  split at hparse
  next hseparator =>
    obtain ⟨c, hchar, hcontrol⟩ := List.any_eq_true.mp hseparator
    rw [isSeparatorControl_eq_false (htext c hchar)] at hcontrol
    cases hcontrol
  next => cases hparse

lemma readFails_load (naming : Naming) (version : CodePoints) :
    ReadFails d path (load d path naming version) := by
  refine StoredSheet.readFails_read.bind fun stored hread failure h => ?_
  obtain ⟨-, -, hcells⟩ := StoredSheet.yields_read stored hread
  simp only [Bind.bind, Except.bind] at h
  split at h
  next =>
    cases h
    exact .inl rfl
  next =>
    simp only [pure, Except.pure] at h
    split at h
    next => cases h
    next herror =>
      obtain ⟨s, text, hmem, hrefused⟩ := exists_of_enterAll_error herror
      exact absurd hrefused (ne_unreadableNumber (hcells _ hmem).2)
    next =>
      cases h
      exact .inl rfl

/-- Whatever is on the disk, the failures to read a stored sheet, its version or a sheet are faults
of the file, except when the file declares an encoding in which nothing can be read, or when the
path has a code point that no path can have. -/
theorem readFails (d : Disk) (path : CodePoints) (naming : Naming) (version : CodePoints) :
    ReadFails d path (StoredSheet.read d path) ∧ ReadFails d path (StoredSheet.readVersion d path) ∧
      ReadFails d path (load d path naming version) :=
  ⟨StoredSheet.readFails_read, StoredSheet.readFails_readVersion, readFails_load naming version⟩

/-- A disk with a sheet whose declaration names an encoding that does not exist. -/
def foreign : Disk :=
  (Disk.blank "home").put ["home", "sheet.xml"] (.file (toUtf8
    "<?xml version='1.0' encoding='foo'?><spreadsheet version=\"default\"/>"))

/-- That the encoding is not known is told, and not that the file cannot be read. -/
theorem escapes_foreign : .char '\x00' ∉ CodePoints.ofString "sheet.xml" ∧
    ∃ failure, load foreign "sheet.xml" .free defaultVersion = .error failure ∧
      ¬failure.OfFile "sheet.xml" := by
  have hlocate : foreign.locate (.ofText "sheet.xml") = .ok ["home", "sheet.xml"] := by cbv
  have hread := Disk.read_of_locate hlocate (Disk.node?_put_self (by simp))
  have hundecodable : Undecodable (toUtf8
      "<?xml version='1.0' encoding='foo'?><spreadsheet version=\"default\"/>") := by
    refine ⟨⟨some ("foo".toList, "foo'".toList), false⟩,
      "<spreadsheet version=\"default\"/>".toList, "foo".toList, "foo'".toList, .unknown,
      ⟨" version='1.0' encoding='foo'?><spreadsheet version=\"default\"/>".toList,
        " version='1.0' encoding='foo'".toList, ?_, ?_, ?_⟩, rfl, ?_⟩
    · decide +kernel
    · rfl
    · rfl
    · decide +kernel
  obtain ⟨error, herror⟩ := (readFails_load .free defaultVersion).encoding_iff.mpr
    ⟨_, hread, hundecodable⟩
  exact ⟨by decide, .encoding error, herror, id⟩

end Sheet

end Recalc
