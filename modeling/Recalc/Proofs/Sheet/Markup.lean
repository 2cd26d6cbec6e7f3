import Recalc.Proofs.Sheet.Stored
import Recalc.Proofs.Xml.Agreement

/-!
# What stands between elements

Comments and instructions are not kept in the tree of a document. What else may stand between the
elements of a sheet and its cells are texts, which are no part of the fields. So documents with the
same tags and the same fields store the same sheet.
-/

namespace Recalc.Xml

/-! ### Trees that differ in texts -/

/-- So many levels deep the contents have the same elements, and below they are the same. -/
def SameElements : Nat → List Node → List Node → Prop
  | 0, content, content' => content = content'
  | level + 1, content, content' =>
    List.Forall₂ (fun e e' => e.name = e'.name ∧ e.attributes = e'.attributes ∧
      SameElements level e.content e'.content) (elementsOf content) (elementsOf content')

variable {level : Nat} {content content' more more' : List Node} {name : String}
  {attributes : List (String × String)}

lemma sameElements_refl (level : Nat) (content : List Node) :
    SameElements level content content := by
  induction level generalizing content with
  | zero => rfl
  | succ level ih => exact List.forall₂_same.mpr fun e _ => ⟨rfl, rfl, ih e.content⟩

lemma SameElements.append (h : SameElements level content content')
    (hmore : SameElements level more more') :
    SameElements level (content ++ more) (content' ++ more') := by
  cases level with
  | zero =>
    cases h
    cases hmore
    rfl
  | succ level =>
    rw [SameElements, elementsOf_append, elementsOf_append]
    exact List.rel_append h hmore

lemma SameElements.reverse (h : SameElements level content content') :
    SameElements level content.reverse content'.reverse := by
  cases level with
  | zero =>
    cases h
    rfl
  | succ level =>
    have helements (content : List Node) :
        elementsOf content.reverse = (elementsOf content).reverse := List.filterMap_reverse
    rw [SameElements, helements, helements]
    exact List.forall₂_reverse_iff.mpr h

lemma SameElements.symm (h : SameElements level content content') :
    SameElements level content' content := by
  induction level generalizing content content' with
  | zero => exact Eq.symm h
  | succ level ih =>
    refine (List.Forall₂.imp (fun e e' h => ?_) h).flip
    exact ⟨h.1.symm, h.2.1.symm, ih h.2.2⟩

/-- An element around contents that are the same one level less deep. -/
lemma SameElements.element (h : SameElements (level - 1) content content') :
    SameElements level [.element name attributes content] [.element name attributes content'] := by
  cases level with
  | zero =>
    cases h
    rfl
  | succ level => exact .cons ⟨rfl, rfl, h⟩ .nil

lemma SameElements.text {s : String} (h : SameElements (level + 1) content content') :
    SameElements (level + 1) (.text s :: content) content' :=
  h

/-! ### Trees on the way -/

/-- The stacks of two readers that are equally deep inside a sheet. Below the fields there is no
difference. -/
inductive SameStacks : List OpenElement → List OpenElement → Prop
  | nil : SameStacks [] []
  | cons {name : List Char} {tag : ExpandedTag} {content content' : List Node}
      {outer outer' : List OpenElement}
      (hcontent : SameElements (2 - outer.length) content content') (h : SameStacks outer outer') :
      SameStacks (⟨name, tag, content⟩ :: outer) (⟨name, tag, content'⟩ :: outer')

lemma SameStacks.length_eq {stack stack' : List OpenElement} (h : SameStacks stack stack') :
    stack.length = stack'.length := by
  induction h with
  | nil => rfl
  | cons _ _ ih => rw [List.length_cons, List.length_cons, ih]

lemma SameStacks.symm {stack stack' : List OpenElement} (h : SameStacks stack stack') :
    SameStacks stack' stack := by
  induction h with
  | nil => exact .nil
  | cons hcontent h ih =>
    rw [h.length_eq] at hcontent
    exact .cons hcontent.symm ih

namespace Building

structure Same (b b' : Building) : Prop where
  stack : SameStacks b.stack b'.stack
  root : Option.Rel (fun e e' => SameElements 3 [e.toNode] [e'.toNode]) b.root b'.root

variable {b b' : Building} {n n' : Node}

lemma Same.add (h : Same b b') (hn : SameElements (3 - b.stack.length) [n] [n']) :
    Same (b.add n) (b'.add n') := by
  obtain ⟨stack, root⟩ := b
  obtain ⟨stack', root'⟩ := b'
  obtain ⟨hstack, hroot⟩ := h
  cases hstack with
  | nil =>
    cases n with
    | text s =>
      cases n' with
      | text s' => exact ⟨.nil, hroot⟩
      | element name' attributes' content' => cases hn
    | element name attributes content =>
      cases n' with
      | text s' => cases hn
      | element name' attributes' content' => exact ⟨.nil, .some hn⟩
  | @cons name tag content content' outer outer' hcontent hstack =>
    rw [List.length_cons, Nat.add_comm, ← Nat.sub_sub] at hn
    exact ⟨.cons (hn.append hcontent) hstack, hroot⟩

/-- A text between the elements of a sheet or a cell makes no difference. -/
lemma Same.addText (h : Same b b') (hdepth : b.stack.length ≤ 2) (s : String) :
    Same (b.add (.text s)) b' := by
  obtain ⟨stack, root⟩ := b
  obtain ⟨stack', root'⟩ := b'
  obtain ⟨hstack, hroot⟩ := h
  cases hstack with
  | nil => exact ⟨.nil, hroot⟩
  | @cons name tag content content' outer outer' hcontent hstack =>
    refine ⟨.cons ?_ hstack, hroot⟩
    obtain ⟨level, hlevel⟩ : ∃ level, 2 - outer.length = level + 1 := by
      rw [List.length_cons] at hdepth
      exact ⟨1 - outer.length, by omega⟩
    rw [hlevel] at hcontent ⊢
    exact hcontent.text

lemma Same.symm (h : Same b b') : Same b' b := by
  obtain ⟨stack, root⟩ := b
  obtain ⟨stack', root'⟩ := b'
  obtain ⟨hstack, hroot⟩ := h
  refine ⟨hstack.symm, ?_⟩
  cases hroot with
  | none => exact .none
  | some h => exact .some h.symm

lemma Same.close (h : Same b b') : Same b.close b'.close := by
  obtain ⟨stack, root⟩ := b
  obtain ⟨stack', root'⟩ := b'
  obtain ⟨hstack, hroot⟩ := h
  cases hstack with
  | nil => exact ⟨.nil, hroot⟩
  | @cons name tag content content' outer outer' hcontent hstack =>
    have houter : Same ⟨outer, root⟩ ⟨outer', root'⟩ := ⟨hstack, hroot⟩
    refine houter.add (.element ?_)
    have hlevel : 3 - outer.length - 1 = 2 - outer.length := by omega
    rw [hlevel]
    exact hcontent.reverse

/-! ### Reading pieces -/

variable {d : Doctype} {base : Nat} {piece piece' : Piece} {here here' : List Char}
  {expand : List Char → List Char → Building → Except Problem Building}

lemma Same.bindings_eq (h : Same b b') : b.bindings = b'.bindings := by
  obtain ⟨stack, root⟩ := b
  obtain ⟨stack', root'⟩ := b'
  cases h.stack with
  | nil => rfl
  | cons _ _ => rfl

lemma Same.agree_accept (h : Same b b') (hpiece : piece.Same piece')
    (hexpand : ∀ name text b b', Same b b' →
      Agree Same (expand name text b) (expand name text b')) :
    Agree Same (b.accept d base expand piece here) (b'.accept d base expand piece' here') := by
  have hadd (s : String) : Same (b.add (.text s)) (b'.add (.text s)) :=
    h.add (sameElements_refl _ _)
  cases hpiece with
  | @openTag name attributes attributes' closed hattributes =>
    unfold accept
    rw [h.bindings_eq]
    refine (agree_expandTag hattributes).bind ?_
    rintro tag _ rfl
    have hopened : Same { b with stack := ⟨name, tag, []⟩ :: b.stack }
        { b' with stack := ⟨name, tag, []⟩ :: b'.stack } :=
      ⟨.cons (sameElements_refl _ _) h.stack, h.root⟩
    cases closed with
    | false => exact agree_ok hopened
    | true => exact agree_ok hopened.close
  | other hpiece =>
    cases piece with
    | text cs => exact agree_ok (hadd _)
    | aside => exact agree_ok h
    | rawText => exact agree_ok h
    | declaration => exact agree_error_left
    | openTag name attributes closed => exact absurd rfl (hpiece name attributes closed)
    | closeTag name =>
      obtain ⟨stack, root⟩ := b
      obtain ⟨stack', root'⟩ := b'
      simp only [accept, ← h.stack.length_eq]
      split
      next => exact agree_error_left
      cases h.stack with
      | nil => exact agree_error_left
      | cons _ _ =>
        dsimp only
        split
        next => exact agree_ok h.close
        next => exact agree_error_left
    | reference r =>
      cases r with
      | character c =>
        cases c with
        | none => exact agree_error_left
        | some c => exact agree_ok (hadd _)
      | entity name =>
        simp only [accept]
        cases predefined? name with
        | some c => exact agree_ok (hadd _)
        | none =>
          cases d.entities.lookup name with
          | none => exact agree_error_left
          | some text =>
            cases text with
            | internal text => exact (hexpand name text b b' h).mapError
            | external => exact agree_error_left
            | binary => exact agree_error_left

/-- The test at the end of an entity. -/
lemma Same.agree_complete (h : Same b b') (base : Nat) :
    Agree Same
      (if b.stack.length = base then .ok b else .error Problem.asynchronousEntity)
      (if b'.stack.length = base then .ok b' else .error Problem.asynchronousEntity) := by
  rw [← h.stack.length_eq]
  split
  next => exact agree_ok h
  next => exact agree_error_left

lemma agree_acceptEntity (d : Doctype) (n : Nat) (active : List (List Char))
    (name text : List Char) (b b' : Building) (h : Same b b') :
    Agree Same (acceptEntity d n active name text b) (acceptEntity d n active name text b') := by
  induction n generalizing active name text b b' with
  | zero => exact agree_error_left
  | succ n ih =>
    change Agree _ (ite (name ∈ active) _ _) (ite (name ∈ active) _ _)
    split
    next => exact agree_error_left
    have hbuilt : Agree Same
        ((pieces false 0 text (text.length + 1)).1.foldlM (fun c found => accept d b.stack.length
          (acceptEntity d n (name :: active)) c found.1 found.2) b)
        ((pieces false 0 text (text.length + 1)).1.foldlM (fun c found => accept d b.stack.length
          (acceptEntity d n (name :: active)) c found.1 found.2) b') := by
      refine Agree.foldlM (T := Eq) (List.forall₂_same.mpr fun _ _ => rfl) h ?_
      rintro c c' hc found _ rfl
      exact hc.agree_accept found.1.same_refl (ih (name :: active))
    dsimp only
    rw [← h.stack.length_eq]
    generalize List.foldlM (m := Except Fault) _ b _ = x at hbuilt ⊢
    generalize List.foldlM (m := Except Fault) _ b' _ = y at hbuilt ⊢
    cases x with
    | error f => exact agree_error_left
    | ok built =>
      cases y with
      | error f => exact agree_error_right
      | ok built' =>
        have hsame := hbuilt built built' rfl rfl
        have hcomplete := hsame.agree_complete b.stack.length
        cases (pieces false 0 text (text.length + 1)).2 with
        | fault f => exact agree_error_left
        | ranOut => exact hcomplete
        | closed rest => exact hcomplete

/-! ### How deep the reader is -/

lemma length_add (b : Building) (n : Node) : (b.add n).stack.length = b.stack.length := by
  unfold add
  split
  next heq => rw [heq, List.length_cons, List.length_cons]
  next => split <;> rfl

lemma length_close (b : Building) : b.close.stack.length = b.stack.length - 1 := by
  unfold close
  split
  next heq => rw [length_add, heq, List.length_cons, Nat.add_sub_cancel]
  next heq => rw [heq, List.length_nil]

lemma length_acceptEntity {n : Nat} {active : List (List Char)} {name text : List Char}
    (h : acceptEntity d n active name text b = .ok b') : b'.stack.length = b.stack.length := by
  cases n with
  | zero => cases h
  | succ n =>
    change ite (name ∈ active) _ _ = _ at h
    split at h
    next => cases h
    dsimp only at h
    split at h
    next => cases h
    next => cases h
    next =>
      split at h
      next hlength =>
        cases h
        exact hlength
      next => cases h

lemma length_accept
    (hexpand : ∀ name text b b', expand name text b = .ok b' → b'.stack.length = b.stack.length)
    (h : b.accept d base expand piece here = .ok b') :
    b'.stack.length = piece.depthAfter b.stack.length := by
  cases piece with
  | text cs =>
    cases h
    exact length_add _ _
  | aside =>
    cases h
    rfl
  | rawText =>
    cases h
    rfl
  | declaration => cases h
  | openTag name attributes closed =>
    obtain ⟨tag, -, h⟩ := Disk.exists_of_bind h
    cases h
    cases closed with
    | false => exact List.length_cons
    | true =>
      rw [if_pos rfl, length_close]
      rfl
  | closeTag name =>
    simp only [accept] at h
    split at h
    next => cases h
    split at h
    next =>
      split at h
      next =>
        cases h
        exact length_close b
      next => cases h
    next => cases h
  | reference r =>
    cases r with
    | character c =>
      cases c with
      | none => cases h
      | some c =>
        cases h
        exact length_add _ _
    | entity name =>
      simp only [accept] at h
      split at h
      next =>
        cases h
        exact length_add _ _
      next =>
        split at h
        next => cases h
        next => cases h
        next => cases h
        next text _ =>
          cases hexpanded : expand name text b with
          | error p =>
            rw [hexpanded] at h
            cases h
          | ok expanded =>
            rw [hexpanded] at h
            cases h
            exact hexpand name text b _ hexpanded

end Building

/-! ### Documents with the same markup -/

/-- From a place inside so many elements on, the pieces are the same, apart from comments and
instructions and from texts between the elements of a sheet or a cell. -/
inductive SameMarkup : Nat → List Piece → List Piece → Prop
  | nil (depth : Nat) : SameMarkup depth [] []
  | piece {depth : Nat} {piece piece' : Piece} {rest rest' : List Piece}
      (hpiece : piece.Same piece') (h : SameMarkup (piece.depthAfter depth) rest rest') :
      SameMarkup depth (piece :: rest) (piece' :: rest')
  | aside {depth : Nat} {rest rest' : List Piece} (h : SameMarkup depth rest rest') :
      SameMarkup depth (.aside :: rest) rest'
  | text {depth : Nat} {cs : List Char} {rest rest' : List Piece} (hdepth : depth ≤ 2)
      (h : SameMarkup depth rest rest') : SameMarkup depth (.text cs :: rest) rest'
  | symm {depth : Nat} {rest rest' : List Piece} (h : SameMarkup depth rest rest') :
      SameMarkup depth rest' rest

section

open Building

variable {d : Doctype} {depth : Nat} {b b' : Building} {found found' : List (Piece × List Char)}

/-- The pieces as they are taken, with their line ends unified. -/
def takenPieces (found : List (Piece × List Char)) : List Piece :=
  found.map fun p => p.1.unifyLineEnds

lemma SameMarkup.agree_takeAll {rest rest' : List Piece} (h : SameMarkup depth rest rest')
    (hfound : takenPieces found = rest) (hfound' : takenPieces found' = rest') (hb : b.Same b')
    (hdepth : b.stack.length = depth) :
    Agree Building.Same (b.takeAll d found) (b'.takeAll d found') := by
  induction h generalizing found found' b b' with
  | nil depth =>
    rw [takenPieces, List.map_eq_nil_iff] at hfound hfound'
    subst hfound hfound'
    exact agree_ok hb
  | @piece depth piece piece' rest rest' hpiece h ih =>
    obtain ⟨⟨p, here⟩, more, rfl, rfl, hmore⟩ := List.map_eq_cons_iff.mp hfound
    obtain ⟨⟨p', here'⟩, more', rfl, rfl, hmore'⟩ := List.map_eq_cons_iff.mp hfound'
    have hexpand (name text : List Char) (b b' : Building)
        (h : acceptEntity d (d.entities.length + 1) [] name text b = .ok b') :
        b'.stack.length = b.stack.length := length_acceptEntity h
    rw [takeAll_cons rfl, takeAll_cons rfl]
    refine Agree.bind (R := fun next next' => Same next next' ∧ next.stack.length = _)
      (fun next next' hok hok' => ⟨?_, length_accept hexpand hok⟩) ?_
    · exact hb.agree_accept hpiece (agree_acceptEntity d _ _) next next' hok hok'
    · rintro next next' ⟨hnext, hlength⟩
      exact ih hmore hmore' hnext (by rw [hlength, hdepth])
  | @aside depth rest rest' h ih =>
    obtain ⟨⟨p, here⟩, more, rfl, hp, hmore⟩ := List.map_eq_cons_iff.mp hfound
    have hrest : Agree Same (b.takeAll d more) (b'.takeAll d found') :=
      ih hmore hfound' hb hdepth
    rw [takeAll_cons hp]
    exact hrest
  | @text depth cs rest rest' hlevel h ih =>
    obtain ⟨⟨p, here⟩, more, rfl, hp, hmore⟩ := List.map_eq_cons_iff.mp hfound
    have hadded := hb.addText (hdepth ▸ hlevel) (String.ofList cs)
    have hrest : Agree Same ((b.add (.text (String.ofList cs))).takeAll d more)
        (b'.takeAll d found') := ih hmore hfound' hadded (by rw [length_add, hdepth])
    rw [takeAll_cons hp]
    exact hrest
  | symm h ih =>
    rw [hb.stack.length_eq] at hdepth
    exact (ih hfound' hfound hb.symm hdepth).symm Building.Same.symm

end

/-- The pieces of a text from a place inside so many elements on, to the end of the outermost. -/
def piecesFrom (depth : Nat) (cs : List Char) : List Piece :=
  takenPieces (pieces true depth cs (cs.length + 1)).1

lemma SameMarkup.agree_readElement {d : Doctype} {cs cs' : List Char}
    (h : SameMarkup 0 (piecesFrom 0 cs) (piecesFrom 0 cs')) :
    Agree (fun found found' => SameElements 3 [found.1.toNode] [found'.1.toNode])
      (readElement d cs) (readElement d cs') := by
  have hempty : Building.Same ⟨[], none⟩ ⟨[], none⟩ := ⟨.nil, .none⟩
  unfold piecesFrom at h
  unfold readElement
  generalize pieces true 0 cs (cs.length + 1) = pieces at h ⊢
  generalize Xml.pieces true 0 cs' (cs'.length + 1) = pieces' at h ⊢
  obtain ⟨found, ending⟩ := pieces
  obtain ⟨found', ending'⟩ := pieces'
  refine Agree.bind (R := Building.Same) (h.agree_takeAll rfl rfl hempty rfl) ?_
  rintro ⟨stack, root⟩ ⟨stack', root'⟩ ⟨-, hroot⟩
  cases hroot with
  | none => cases ending <;> exact agree_error_left
  | some hroot =>
    cases ending with
    | closed rest =>
      cases ending' with
      | closed rest' => exact agree_ok hroot
      | ranOut => exact agree_error_right
      | fault f => exact agree_error_right
    | ranOut => exact agree_error_left
    | fault f => exact agree_error_left

end Recalc.Xml
