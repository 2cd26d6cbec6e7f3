import Recalc.Proofs.Xml.Guarded

/-!
# Texts of read documents

Whatever octets are read, the texts and the values of attributes in the tree hold only characters of
documents. The text of an entity needs no property: it is read like the document itself when it is
put in the place of a reference.
-/

namespace Recalc.Xml

variable {d : Doctype} {free : Bool} {value : List Char} {b : Building} {e : Element}
  {s : PrologState} {n : Nat} {active : List (List Char)} {token : PrologToken} {start : Nat}

/-! ### Values of attributes -/

lemma isText_appendValue {c : Char} (hvalue : IsText value) (hc : isXmlChar c = true) :
    IsText (appendValue free value c) := by
  unfold appendValue
  split
  · exact hvalue
  · exact isText_cons.mpr ⟨hc, hvalue⟩

lemma yields_appendPart
    {expand : List Char → List Char → List Char → Except ValueFault (List Char)}
    (hexpand : ∀ name text value, IsText value → Yields IsText (expand name text value))
    {part : ValuePart} (hpart : part.IsText) (hvalue : IsText value) :
    Yields IsText (appendPart d free expand value part) := by
  unfold appendPart
  split
  next c =>
    refine yields_ok.mpr (isText_appendValue hvalue ?_)
    split
    · decide
    · exact hpart
  next c left => exact yields_ok.mpr (isText_appendValue hvalue (hpart c rfl))
  next => exact yields_error
  next name left =>
    split
    next c hc => exact yields_ok.mpr (isText_cons.mpr ⟨isXmlChar_of_predefined? hc, hvalue⟩)
    next =>
      split
      next =>
        split
        · exact yields_error
        · exact yields_ok.mpr hvalue
      next => exact yields_error
      next => exact yields_error
      next text _ => exact hexpand name text value hvalue

lemma yields_appendEntity (n : Nat) (active : List (List Char)) (name text value : List Char)
    (hvalue : IsText value) : Yields IsText (appendEntity d free n active name text value) := by
  induction n generalizing active name text value with
  | zero => exact yields_error
  | succ n ih =>
    unfold appendEntity
    split
    next => exact yields_error
    have hparts := isText_valueParts text (text.length + 1)
    generalize valueParts text (text.length + 1) = found at hparts ⊢
    obtain ⟨parts, stop?⟩ := found
    have hfold : Yields IsText (parts.foldlM
        (appendPart d free (appendEntity d free n (name :: active))) value) :=
      Yields.foldlM hvalue fun value hvalue part hpart =>
        yields_appendPart (ih _) (hparts part hpart) hvalue
    refine hfold.mapError.bind fun value hvalue => ?_
    cases stop? with
    | some stop => exact yields_error
    | none => exact yields_ok.mpr hvalue

lemma yields_valueOf {parts : List ValuePart} (hparts : ∀ part ∈ parts, part.IsText) :
    Yields IsText (valueOf d free parts) := by
  have hfold : Yields IsText
      (parts.foldlM (appendPart d free (appendEntity d free (d.entities.length + 1) [])) []) :=
    Yields.foldlM isText_nil fun value hvalue part hpart =>
      yields_appendPart (yields_appendEntity _ _) (hparts part hpart) hvalue
  refine hfold.bind fun value hvalue => yields_pure fun c hc => ?_
  rw [List.mem_reverse] at hc
  split at hc
  · exact hvalue c (List.mem_of_mem_tail hc)
  · exact hvalue c hc

/-! ### Document types -/

/-- The default values of attributes have characters of documents. -/
def Doctype.IsText (d : Doctype) : Prop :=
  ∀ r ∈ d.attributes, ∀ value ∈ r.value, Xml.IsText value

lemma Doctype.isText_declareEntity {name : List Char} {text : EntityText} (hd : d.IsText) :
    (d.declareEntity name text).IsText := by
  unfold declareEntity
  split <;> exact hd

lemma Doctype.isText_declareAttribute {r : AttributeRule} (hd : d.IsText)
    (hr : ∀ value ∈ r.value, Xml.IsText value) : (d.declareAttribute r).IsText := by
  unfold declareAttribute
  split
  · exact hd
  · exact List.forall_mem_append.mpr ⟨hd, List.forall_mem_singleton.mpr hr⟩

lemma yields_defaultValue {cs : List Char} {after : Nat} :
    Yields IsText (defaultValue d free cs after start) := by
  have hparts := isText_valueParts cs (cs.length + 1)
  unfold defaultValue
  generalize valueParts cs (cs.length + 1) = found at hparts ⊢
  obtain ⟨parts, stop?⟩ := found
  refine (yields_valueOf (isText_unifyLineEndParts hparts)).mapError.bind fun value hvalue => ?_
  split
  · exact yields_pure hvalue
  · exact yields_throw
  · exact yields_throw

namespace PrologState

/-- What has been declared so far has texts of documents. -/
def IsText (s : PrologState) : Prop :=
  s.doctype.IsText

lemma yields_expect (hs : s.IsText) (next : Expecting) : Yields IsText (s.expect next) :=
  yields_ok.mpr hs

lemma isText_declareEntity (hs : s.IsText) {name : Option (List Char)} {text : EntityText}
    {next : Expecting} : (s.declareEntity name text next).IsText := by
  unfold declareEntity
  split
  · unfold IsText
    dsimp only
    split
    · exact Doctype.isText_declareEntity hs
    · exact hs
  · exact hs

lemma isText_declareAttribute (hs : s.IsText) {r : AttributeRule}
    (hr : ∀ value ∈ r.value, Xml.IsText value) : (s.declareAttribute r).IsText := by
  unfold declareAttribute IsText
  dsimp only
  split
  · exact Doctype.isText_declareAttribute hs hr
  · exact hs

lemma yields_declareDefault (hs : s.IsText) {element name cs : List Char} {after : Nat} :
    Yields IsText (s.declareDefault element name free cs after start) := by
  unfold declareDefault
  split
  · exact yields_expect hs _
  · refine yields_defaultValue.bind fun value hvalue => yields_pure ?_
    refine isText_declareAttribute hs fun v hv => ?_
    rw [Option.mem_some_iff] at hv
    exact hv ▸ hvalue

lemma yields_publicId (hs : s.IsText) {cs : List Char} {after : Nat} {next : Expecting} :
    Yields IsText (s.publicId cs after next) := by
  unfold publicId
  split
  · exact yields_expect hs _
  · exact yields_error

lemma yields_subset (hs : s.IsText) : Yields IsText (s.subset token start) := by
  unfold subset
  split
  · exact yields_ok.mpr hs
  · split <;> simp [yields_expect hs]
  · exact yields_ok.mpr hs
  · exact yields_expect hs _
  · exact yields_error

lemma yields_doctypePart (hs : s.IsText) : Yields IsText (s.doctypePart token start) := by
  have houtside : PrologState.IsText { s with doctype := { s.doctype with incomplete := true } } :=
    hs
  unfold doctypePart
  dsimp only
  split <;> repeat' split
  all_goals
    simp [yields_expect hs, yields_expect houtside, yields_publicId houtside, hs]

lemma yields_entityPart (hs : s.IsText) : Yields IsText (s.entityPart token start) := by
  -- What an entity stands for is not content before it is read where it is referred to.
  have hinternal (name : Option (List Char)) (text : Except Fault (List Char)) :
      Yields IsText (text.map fun cs => s.declareEntity name (.internal cs) .declarationEnd) :=
    Yields.map_of_forall fun _ => isText_declareEntity hs
  unfold entityPart
  split <;> repeat' split
  all_goals
    simp [yields_expect hs, yields_publicId hs, isText_declareEntity hs, hinternal]

lemma yields_notationPart (hs : s.IsText) : Yields IsText (s.notationPart token start) := by
  unfold notationPart
  split <;> repeat' split
  all_goals simp [yields_expect hs, yields_publicId hs]

lemma yields_attributePart (hs : s.IsText) : Yields IsText (s.attributePart token start) := by
  unfold attributePart
  dsimp only
  split <;> repeat' split
  all_goals
    simp [yields_expect hs, yields_declareDefault hs, isText_declareAttribute hs]

lemma yields_elementPart (hs : s.IsText) : Yields IsText (s.elementPart token start) := by
  have hconnect (token : PrologToken) (connectors : List (Option PrologToken)) :
      Yields IsText (s.connect token connectors start) := by
    unfold connect
    split <;> simp [yields_expect hs]
  unfold elementPart
  split <;> repeat' split
  all_goals simp [yields_expect hs, hconnect]

/-- One token of the prolog. -/
lemma yields_accept (hs : s.IsText) : Yields IsText (s.accept token start) := by
  unfold accept
  split
  · exact yields_ok.mpr hs
  · split <;> try split
    all_goals
      simp only [yields_doctypePart hs, yields_subset hs, yields_entityPart hs,
        yields_notationPart hs, yields_attributePart hs, yields_elementPart hs, yields_expect hs,
        yields_error]

end PrologState

lemma yields_readProlog {standalone : Bool} {cs : List Char} :
    Yields (fun found => found.1.IsText) (readProlog standalone cs) := by
  have hempty : (⟨.doctype, .empty standalone, true⟩ : PrologState).IsText := List.forall_mem_nil _
  unfold readProlog
  refine Yields.bind (P := PrologState.IsText) ?_ fun state hstate => ?_
  · exact Yields.foldlM hempty fun s hs token _ => PrologState.yields_accept hs
  refine Yields.of_forall fun rest => ?_
  split
  · exact yields_pure hstate
  · exact yields_pure hstate
  · exact yields_throw

/-! ### Tags -/

lemma yields_attributeValues {element here : List Char} {bindings : Bindings}
    {seen : List (List Char)} {raws : List RawAttribute} (hraws : ∀ raw ∈ raws, raw.IsText) :
    Yields (fun found => ∀ a ∈ found.1, IsText a.2)
      (attributeValues d element here bindings seen raws) := by
  induction raws generalizing bindings seen with
  | nil => exact yields_ok.mpr (List.forall_mem_nil _)
  | cons raw raws ih =>
    obtain ⟨hraw, hraws⟩ := List.forall_mem_cons.mp hraws
    change Yields _ (ite (raw.name ∈ seen) _ _)
    split
    next => exact yields_error
    refine (yields_valueOf hraw).mapError.bind fun value hvalue => ?_
    split
    · exact Yields.of_forall fun bindings => ih hraws
    · refine (ih hraws).bind fun (values, bindings) hvalues => ?_
      exact yields_pure (List.forall_mem_cons.mpr ⟨hvalue, hvalues⟩)

lemma yields_defaultValues {rules : List AttributeRule} {present : List (List Char)}
    {bindings : Bindings} (hrules : ∀ r ∈ rules, ∀ value ∈ r.value, IsText value) :
    Yields (fun found => ∀ a ∈ found.1, IsText a.2) (defaultValues rules present bindings) := by
  induction rules generalizing present bindings with
  | nil => exact yields_ok.mpr (List.forall_mem_nil _)
  | cons r rules ih =>
    obtain ⟨element, name, free, value⟩ := r
    obtain ⟨hvalue, hrest⟩ := List.forall_mem_cons.mp hrules
    cases value with
    | none => exact ih hrest
    | some value =>
      change Yields _ (ite (name ∈ present) _ _)
      split
      next => exact ih hrest
      split
      next => exact Yields.of_forall fun bindings => ih hrest
      next =>
        refine (ih hrest).bind fun _ hvalues => ?_
        exact yields_pure (List.forall_mem_cons.mpr ⟨hvalue value rfl, hvalues⟩)

lemma yields_expandAttributes {bindings : Bindings} {seen : List String}
    {values : List (List Char × List Char)} (hvalues : ∀ a ∈ values, IsText a.2) :
    Yields (fun attributes => ∀ a ∈ attributes, IsText a.2.toList)
      (expandAttributes bindings seen values) := by
  induction values generalizing seen with
  | nil => exact yields_ok.mpr (List.forall_mem_nil _)
  | cons a values ih =>
    obtain ⟨name, value⟩ := a
    obtain ⟨hvalue, hvalues⟩ := List.forall_mem_cons.mp hvalues
    unfold expandAttributes
    refine Yields.of_forall fun expanded => ?_
    dsimp only
    split
    next => exact yields_error
    refine (ih hvalues).bind fun more hmore => ?_
    refine yields_pure (List.forall_mem_cons.mpr ⟨?_, hmore⟩)
    rw [String.toList_ofList]
    exact hvalue

def ExpandedTag.IsText (tag : ExpandedTag) : Prop :=
  ∀ a ∈ tag.attributes, Xml.IsText a.2.toList

lemma yields_expandTag (hd : d.IsText) {bindings : Bindings} {name here : List Char}
    {raws : List RawAttribute} (hraws : ∀ raw ∈ raws, raw.IsText) :
    Yields ExpandedTag.IsText (expandTag d bindings name raws here) := by
  unfold expandTag
  refine (yields_attributeValues hraws).bind fun (given, bindings) hgiven => ?_
  have hrules : ∀ r ∈ d.rules name, ∀ value ∈ r.value, IsText value :=
    fun r hr => hd r (List.mem_of_mem_filter hr)
  refine (yields_defaultValues hrules).mapError.bind fun (added, bindings) hadded => ?_
  have hvalues : ∀ a ∈ given ++ added, IsText a.2 := List.forall_mem_append.mpr ⟨hgiven, hadded⟩
  refine (yields_expandAttributes hvalues).mapError.bind fun attributes hattributes => ?_
  exact Yields.of_forall fun name => yields_pure hattributes

/-! ### Trees -/

/-- The texts and the values of attributes have characters of documents. -/
inductive Node.IsText : Node → Prop where
  | text {t : String} (h : Xml.IsText t.toList) : Node.IsText (.text t)
  | element {name : String} {attributes : List (String × String)} {content : List Node}
      (hattributes : ∀ a ∈ attributes, Xml.IsText a.2.toList)
      (hcontent : ∀ n ∈ content, n.IsText) : Node.IsText (.element name attributes content)

def Element.IsText (e : Element) : Prop :=
  e.toNode.IsText

def OpenElement.IsText (e : OpenElement) : Prop :=
  e.tag.IsText ∧ ∀ n ∈ e.content, n.IsText

namespace Building

/-- What has been built so far has texts of documents. -/
def IsText (b : Building) : Prop :=
  (∀ e ∈ b.stack, e.IsText) ∧ ∀ root ∈ b.root, root.IsText

lemma isText_add {node : Node} (hb : b.IsText) (hnode : node.IsText) : (b.add node).IsText := by
  obtain ⟨hstack, hroot⟩ := hb
  unfold add
  split
  next e outer heq =>
    rw [heq, List.forall_mem_cons] at hstack
    obtain ⟨he, houter⟩ := hstack
    refine ⟨List.forall_mem_cons.mpr ⟨⟨he.1, ?_⟩, houter⟩, hroot⟩
    exact List.forall_mem_cons.mpr ⟨hnode, he.2⟩
  next =>
    split
    next name attributes content =>
      refine ⟨hstack, fun root h => ?_⟩
      rw [Option.mem_some_iff] at h
      exact h ▸ hnode
    next => exact ⟨hstack, hroot⟩

lemma isText_addChar {c : Char} (hb : b.IsText) (hc : isXmlChar c = true) :
    (b.add (.text (String.singleton c))).IsText := by
  refine isText_add hb (.text ?_)
  rw [String.toList_singleton]
  exact List.forall_mem_singleton.mpr hc

lemma isText_close (hb : b.IsText) : b.close.IsText := by
  unfold close
  split
  next e outer heq =>
    obtain ⟨hstack, hroot⟩ := hb
    rw [heq, List.forall_mem_cons] at hstack
    obtain ⟨he, houter⟩ := hstack
    refine isText_add ⟨houter, hroot⟩ (.element he.1 fun n hn => ?_)
    exact he.2 n (List.mem_reverse.mp hn)
  next => exact hb

/-- One piece of the content. -/
lemma yields_accept (hd : d.IsText) {base : Nat}
    {expand : List Char → List Char → Building → Except Problem Building}
    (hexpand : ∀ name text b, IsText b → Yields IsText (expand name text b)) (hb : b.IsText)
    {piece : Piece} (hpiece : piece.IsText) {here : List Char} :
    Yields IsText (b.accept d base expand piece here) := by
  unfold accept
  split
  next cs =>
    refine yields_ok.mpr (isText_add hb (.text ?_))
    rw [String.toList_ofList]
    exact hpiece
  next => exact yields_ok.mpr hb
  next => exact yields_ok.mpr hb
  next => exact yields_error
  next name attributes closed =>
    refine (yields_expandTag hd hpiece).bind fun tag htag => ?_
    have hopened : IsText { b with stack := ⟨name, tag, []⟩ :: b.stack } :=
      ⟨List.forall_mem_cons.mpr ⟨⟨htag, List.forall_mem_nil _⟩, hb.1⟩, hb.2⟩
    refine yields_pure ?_
    split
    · exact isText_close hopened
    · exact hopened
  next =>
    split
    · exact yields_error
    · split
      · split
        · exact yields_ok.mpr (isText_close hb)
        · exact yields_error
      · exact yields_error
  next c => exact yields_ok.mpr (isText_addChar hb (hpiece c rfl))
  next => exact yields_error
  next name =>
    split
    next c hc => exact yields_ok.mpr (isText_addChar hb (isXmlChar_of_predefined? hc))
    next =>
      dsimp only
      split
      next => exact yields_error
      next => exact yields_error
      next => exact yields_error
      next text _ => exact (hexpand name text b hb).mapError

lemma yields_acceptEntity (hd : d.IsText) (n : Nat) (active : List (List Char))
    (name text : List Char) (b : Building) (hb : b.IsText) :
    Yields IsText (acceptEntity d n active name text b) := by
  induction n generalizing active name text b with
  | zero => exact yields_error
  | succ n ih =>
    change Yields _ (ite (name ∈ active) _ _)
    split
    next => exact yields_error
    have hbuilt : Yields IsText ((pieces false 0 text (text.length + 1)).1.foldlM
        (fun b' found => accept d b.stack.length (acceptEntity d n (name :: active)) b' found.1
          found.2) b) :=
      Yields.foldlM hb fun b hb found hfound =>
        yields_accept hd (ih (name :: active)) hb
          (isText_pieces false 0 text (text.length + 1) found hfound)
    dsimp only
    split
    next => exact yields_error
    next => exact yields_error
    next built hok _ =>
      split
      · exact yields_ok.mpr (hbuilt _ hok)
      · exact yields_error

end Building

lemma yields_readElement (hd : d.IsText) {cs : List Char} :
    Yields (fun found => found.1.IsText) (readElement d cs) := by
  have hempty : Building.IsText ⟨[], none⟩ := ⟨List.forall_mem_nil _, by simp⟩
  unfold readElement
  refine Yields.bind (P := Building.IsText) ?_ fun built hbuilt => ?_
  · exact Yields.foldlM hempty fun b hb found hfound =>
      Building.yields_accept hd (Building.yields_acceptEntity hd _ _) hb
        (isText_pieces true 0 cs (cs.length + 1) found hfound).unifyLineEnds
  dsimp only
  split
  next root _ hroot => exact yields_pure (hbuilt.2 root hroot)
  next => exact yields_throw
  next => exact yields_throw

/-- The tree of any document has texts of documents. -/
theorem yields_read (octets : List UInt8) : Yields Element.IsText (read octets) := by
  unfold read
  refine Yields.of_forall fun opening => (Yields.guarded ?_).mapError
  unfold readBody
  refine yields_readProlog.bind fun (doctype, rest) hdoctype => ?_
  refine (yields_readElement hdoctype).bind fun (root, rest) hroot => ?_
  exact Yields.of_forall fun _ => yields_pure hroot

end Recalc.Xml
