import Recalc.Proofs.Xml.Markup
import Recalc.Xml.Content

/-!
# Written content

The content of an element is read back with the same elements and the same text between them. The
reader may cut a text into several nodes, at references and at markup, so what is read is compared
with what was written up to such cuts. Reading goes through the content from piece to piece and
adds to the innermost open element.
-/

namespace Recalc.Xml

/-- Content that can be written. -/
inductive Storable : List Node → Prop
  | nil : Storable []
  | text {s : String} {rest : List Node} (hs : IsText s.toList)
      (hrest : Storable rest) : Storable (.text s :: rest)
  | element {name : String} {attributes : List (String × String)} {content rest : List Node}
      (htag : StorableTag name.toList attributes) (hcontent : Storable content)
      (hrest : Storable rest) : Storable (.element name attributes content :: rest)

/-- The text nodes of some texts. -/
def textNodes (texts : List String) : List Node :=
  texts.map .text

/-- The second content is the first one behind some text, perhaps with its texts cut. -/
inductive Rereads : List Char → List Node → List Node → Prop
  | nil {before : List Char} {texts : List String} (h : texts.flatMap String.toList = before) :
      Rereads before [] (textNodes texts)
  | text {before : List Char} {s : String} {rest rest' : List Node}
      (h : Rereads (before ++ s.toList) rest rest') : Rereads before (.text s :: rest) rest'
  | element {before : List Char} {texts : List String} {name : String}
      {attributes : List (String × String)} {content content' rest rest' : List Node}
      (h : texts.flatMap String.toList = before) (hcontent : Rereads [] content content')
      (hrest : Rereads [] rest rest') :
      Rereads before (.element name attributes content :: rest)
        (textNodes texts ++ .element name attributes content' :: rest')

variable {standalone : Bool} {depth n : Nat} {name cs mid rest here : List Char} {piece : Piece}
  {attributes : List (String × String)} {nodes nodes' content : List Node} {c : Char}

/-! ### From piece to piece -/

/-- Takes a piece with the text from it on, in a document that declares nothing. -/
def Building.take (standalone : Bool) (b : Building) (found : Piece × List Char) :
    Except Fault Building :=
  b.accept (.empty standalone) 0 (acceptEntity (.empty standalone) 1 []) found.1.unifyLineEnds
    found.2

/-- On the way from one text to another the reader adds nodes to the innermost open element, so
many elements deep. -/
def Adds (standalone : Bool) (depth : Nat) (cs : List Char) (nodes : List Node)
    (rest : List Char) : Prop :=
  ∀ n, cs.length < n → ∃ found m, rest.length < m ∧
    pieces true depth cs n =
      (found ++ (pieces true depth rest m).1, (pieces true depth rest m).2) ∧
    ∀ (e : OpenElement) outer root, e.tag.bindings = .initial →
      found.foldlM (Building.take standalone) ⟨e :: outer, root⟩ =
        .ok ⟨{ e with content := nodes.reverse ++ e.content } :: outer, root⟩

lemma Adds.refl : Adds standalone depth cs [] cs :=
  fun n hn => ⟨[], n, hn, rfl, fun _ _ _ _ => rfl⟩

lemma Adds.trans (h : Adds standalone depth cs nodes mid)
    (h' : Adds standalone depth mid nodes' rest) :
    Adds standalone depth cs (nodes ++ nodes') rest := by
  intro n hn
  obtain ⟨found, m, hm, hpieces, hfold⟩ := h n hn
  obtain ⟨found', m', hm', hpieces', hfold'⟩ := h' m hm
  refine ⟨found ++ found', m', hm', ?_, fun e outer root he => ?_⟩
  · rw [hpieces, hpieces', List.append_assoc]
  · rw [List.foldlM_append, hfold e outer root he]
    have hnext := hfold' { e with content := nodes.reverse ++ e.content } outer root he
    simpa [Bind.bind, Except.bind] using hnext

/-- A piece that leaves an element open is followed by the other pieces. -/
lemma pieces_cons (hread : readPiece cs = .ok (piece, rest)) (hpiece : piece ≠ .rawText)
    (hopen : piece.depthAfter depth ≠ 0) :
    pieces true depth cs (n + 1) =
      ((piece, cs) :: (pieces true (piece.depthAfter depth) rest n).1,
        (pieces true (piece.depthAfter depth) rest n).2) := by
  have hcs : cs.isEmpty = false := by
    cases cs with
    | nil => cases hread
    | cons => rfl
  rw [pieces, if_neg (by simp [hcs]), hread]
  cases piece with
  | rawText => exact absurd rfl hpiece
  | _ => simp [hopen]

/-- One piece that changes no depth adds a node. -/
lemma Adds.of_piece {node : Node} (hread : readPiece cs = .ok (piece, rest))
    (hpiece : piece ≠ .rawText) (hdepth : piece.depthAfter (depth + 1) = depth + 1)
    (hlength : rest.length < cs.length)
    (htake : ∀ b : Building, b.bindings = .initial →
      b.take standalone (piece, cs) = .ok (b.add node)) :
    Adds standalone (depth + 1) cs [node] rest := by
  intro n hn
  obtain ⟨n, rfl⟩ : ∃ k, n = k + 1 := ⟨n - 1, by omega⟩
  refine ⟨[(piece, cs)], n, by omega, ?_, fun e outer root he => ?_⟩
  · rw [pieces_cons hread hpiece (by omega), hdepth]
    rfl
  · rw [List.foldlM_cons, htake ⟨e :: outer, root⟩ he]
    rfl

/-! ### Texts -/

lemma unifyLineEnds_of_unescaped (hcs : IsUnescaped cs) : Text.unifyLineEnds cs = cs := by
  induction cs with
  | nil => rfl
  | cons c cs ih =>
    obtain ⟨⟨-, hc⟩, hcs⟩ := List.forall_mem_cons.mp hcs
    simp only [List.mem_cons, List.not_mem_nil, or_false, not_or] at hc
    rw [Text.unifyLineEnds, ih hcs, if_neg hc.2.2.2]
    exact fun _ hreturn => absurd hreturn hc.2.2.2

lemma Adds.text (hcs : IsUnescaped cs) (hne : cs ≠ [])
    (hc : c = '<' ∨ c = '&') :
    Adds standalone (depth + 1) (cs ++ c :: rest) [.text (String.ofList cs)] (c :: rest) := by
  have hread : readPiece (cs ++ c :: rest) = .ok (.text cs, c :: rest) := by
    obtain ⟨d, ds, rfl⟩ := List.exists_cons_of_ne_nil hne
    obtain ⟨-, hd⟩ := (List.forall_mem_cons.mp hcs).1
    simp only [List.mem_cons, not_or] at hd
    exact readPiece_text hd.2.1 hd.1 (readText_append hcs hc) (List.cons_ne_nil d ds)
  apply Adds.of_piece hread
  · simp
  · rfl
  · have hpos := List.length_pos_iff.mpr hne
    rw [List.length_append]
    omega
  · intro b _
    rw [Building.take, Piece.unifyLineEnds, unifyLineEnds_of_unescaped hcs]
    rfl

lemma Adds.reference (hrefers : Refers cs c) :
    Adds standalone (depth + 1) ('&' :: (cs ++ rest)) [.text (String.singleton c)] rest := by
  obtain ⟨r, hstands, hread⟩ := hrefers
  have hpiece : readPiece ('&' :: (cs ++ rest)) = .ok (.reference r, rest) := by
    rw [readPiece, hread]
    rfl
  apply Adds.of_piece hpiece
  · simp
  · rfl
  · rw [List.length_cons, List.length_append]
    omega
  · intro b _
    rcases hstands with rfl | ⟨name, rfl, hname⟩
    · rfl
    · simp only [Building.take, Piece.unifyLineEnds, Building.accept, hname]

lemma adds_plain (plain : List Char) (hplain : IsUnescaped plain) (hc : c = '<' ∨ c = '&') :
    ∃ texts, texts.flatMap String.toList = plain ∧
      Adds standalone (depth + 1) (plain ++ c :: rest) (textNodes texts) (c :: rest) := by
  by_cases hne : plain = []
  · subst hne
    exact ⟨[], rfl, .refl⟩
  · exact ⟨[String.ofList plain], by simp, .text hplain hne hc⟩

/-- Of the node at the beginning of an escaped text some characters may have been seen. -/
lemma adds_plain_escaped (plain : List Char) (hplain : IsUnescaped plain)
    (hcs : IsText cs) :
    ∃ texts, texts.flatMap String.toList = plain ++ cs ∧
      Adds standalone (depth + 1) (plain ++ (cs.flatMap escapeText ++ '<' :: rest))
        (textNodes texts) ('<' :: rest) := by
  induction cs generalizing plain with
  | nil =>
    rw [List.append_nil]
    exact adds_plain plain hplain (.inl rfl)
  | cons c cs ih =>
    obtain ⟨hc, hcs⟩ := List.forall_mem_cons.mp hcs
    rw [List.flatMap_cons]
    rcases escapeText_cases c with ⟨hself, hunescaped⟩ | ⟨reference, hescape, hrefers⟩
    · have hmore : IsUnescaped (plain ++ [c]) := by
        intro d hd
        rcases List.mem_append.mp hd with hd | hd
        · exact hplain d hd
        · rw [List.mem_singleton.mp hd]
          exact ⟨hc, hunescaped⟩
      obtain ⟨texts, htexts, hadds⟩ := ih (plain ++ [c]) hmore hcs
      rw [hself]
      refine ⟨texts, ?_, ?_⟩
      · simpa using htexts
      · simpa using hadds
    · obtain ⟨texts, htexts, hadds⟩ := adds_plain plain hplain (.inr rfl)
      obtain ⟨texts', htexts', hadds'⟩ := ih [] (List.forall_mem_nil _) hcs
      rw [hescape]
      refine ⟨texts ++ String.singleton c :: texts', ?_, ?_⟩
      · simp [htexts, htexts']
      · have hall := (hadds.trans (Adds.reference hrefers)).trans hadds'
        simpa [textNodes] using hall

/-- Escaped text is read up to the next tag, cut where it is escaped. -/
lemma exists_adds_escaped (hcs : IsText cs) (depth : Nat) (rest : List Char) :
    ∃ texts, texts.flatMap String.toList = cs ∧
      Adds standalone (depth + 1) (cs.flatMap escapeText ++ '<' :: rest) (textNodes texts)
        ('<' :: rest) :=
  adds_plain_escaped [] (List.forall_mem_nil _) hcs

/-! ### Elements -/

variable {raws : List RawAttribute} {b : Building}

lemma unifyLineEnds_of_reads (hraws : List.Forall₂ RawAttribute.Reads raws attributes) :
    raws.map RawAttribute.unifyLineEnds = raws := by
  induction hraws with
  | nil => rfl
  | cons hraw _ ih => rw [List.map_cons, hraw.unifyLineEnds_eq, ih]

lemma take_openTag (htag : StorableTag name attributes)
    (hraws : List.Forall₂ RawAttribute.Reads raws attributes) (hb : b.bindings = .initial)
    (closed : Bool) :
    b.take standalone (.openTag name raws closed, here) =
      let opened : Building :=
        { b with stack := ⟨name, ⟨String.ofList name, attributes, .initial⟩, []⟩ :: b.stack }
      .ok (if closed then opened.close else opened) := by
  rw [Building.take, Piece.unifyLineEnds, unifyLineEnds_of_reads hraws, Building.accept, hb,
    expandTag_eq htag hraws]
  rfl

/-- An element without content is one piece. -/
lemma Adds.emptyElement (htag : StorableTag name attributes) :
    Adds standalone (depth + 1) ('<' :: (tagChars name attributes .emptyElement ++ rest))
      [.element (String.ofList name) attributes []] rest := by
  obtain ⟨raws, hraws, hread⟩ := readPiece_openTag htag .emptyElement rest
  apply Adds.of_piece hread
  · simp
  · rfl
  · rw [List.length_cons, List.length_append]
    omega
  · intro b hb
    rw [take_openTag htag hraws hb]
    rfl

/-- What is read from a start tag up to an end tag. -/
lemma pieces_opened (htag : StorableTag name attributes)
    (h : Adds standalone (depth + 1) cs nodes mid)
    (hn : ('<' :: (tagChars name attributes .opened ++ cs)).length < n) :
    ∃ found m, mid.length < m ∧
      pieces true depth ('<' :: (tagChars name attributes .opened ++ cs)) n =
        (found ++ (pieces true (depth + 1) mid m).1, (pieces true (depth + 1) mid m).2) ∧
      ∀ b : Building, b.bindings = .initial →
        found.foldlM (Building.take standalone) b = .ok { b with
          stack :=
            ⟨name, ⟨String.ofList name, attributes, .initial⟩, nodes.reverse⟩ :: b.stack } := by
  obtain ⟨n, rfl⟩ : ∃ k, n = k + 1 := ⟨n - 1, by omega⟩
  obtain ⟨raws, hraws, hread⟩ := readPiece_openTag htag .opened cs
  have hlength : cs.length < n := by
    rw [List.length_cons, List.length_append] at hn
    omega
  obtain ⟨found, m, hm, hpieces, hfold⟩ := h n hlength
  refine ⟨(.openTag name raws false, '<' :: (tagChars name attributes .opened ++ cs)) :: found, m,
    hm, ?_, fun b hb => ?_⟩
  · rw [pieces_cons hread (by simp) (Nat.succ_ne_zero depth)]
    rw [show Piece.depthAfter depth (.openTag name raws TagEnd.opened.closes) = depth + 1 from rfl,
      hpieces]
    rfl
  · rw [List.foldlM_cons, take_openTag htag hraws hb]
    have hnext := hfold ⟨name, ⟨String.ofList name, attributes, .initial⟩, []⟩ b.stack b.root rfl
    rw [List.append_nil] at hnext
    exact hnext

lemma take_closeTag {e : OpenElement} {outer : List OpenElement} {root : Option Element}
    (he : e.rawName = name) :
    Building.take standalone ⟨e :: outer, root⟩ (.closeTag name, here) =
      .ok (Building.add ⟨outer, root⟩
        (.element e.tag.name e.tag.attributes e.content.reverse)) := by
  change Building.accept _ 0 _ _ (.closeTag name) here = _
  rw [Building.accept, if_neg (by simp)]
  simp only [he, if_true]
  rfl

lemma Adds.element (htag : StorableTag name attributes)
    (h : Adds standalone (depth + 2) cs nodes (endTagChars name ++ rest)) :
    Adds standalone (depth + 1) ('<' :: (tagChars name attributes .opened ++ cs))
      [.element (String.ofList name) attributes nodes] rest := by
  intro n hn
  obtain ⟨found, m, hm, hpieces, hfold⟩ := pieces_opened htag h hn
  obtain ⟨m, rfl⟩ : ∃ k, m = k + 1 := ⟨m - 1, by omega⟩
  have hclose : readPiece (endTagChars name ++ rest) = .ok (.closeTag name, rest) :=
    readPiece_endTag htag.isPlainName
  have hlength : rest.length < m := by
    rw [endTagChars_append, List.length_cons, List.length_cons, List.length_append,
      List.length_cons] at hm
    omega
  refine ⟨found ++ [(.closeTag name, endTagChars name ++ rest)], m, hlength, ?_,
    fun e outer root he => ?_⟩
  · rw [hpieces, pieces_cons hclose (by simp) (by simp [Piece.depthAfter])]
    simp [Piece.depthAfter]
  · rw [List.foldlM_append, hfold ⟨e :: outer, root⟩ he]
    simp only [Bind.bind, Except.bind]
    rw [List.foldlM_cons, take_closeTag rfl, List.reverse_reverse]
    rfl

/-! ### Reading written content -/

lemma chars_of_empty (name : String) (attributes : List (String × String))
    (h : contentChars content = []) :
    (Node.element name attributes content).chars =
      '<' :: tagChars name.toList attributes .emptyElement := by
  rw [Node.chars, h]
  rfl

lemma chars_of_ne_nil (name : String) (attributes : List (String × String))
    (h : contentChars content ≠ []) :
    (Node.element name attributes content).chars =
      '<' :: (tagChars name.toList attributes .opened ++
        (contentChars content ++ endTagChars name.toList)) := by
  rw [Node.chars]
  split
  next hnil => exact absurd hnil h
  next => simp [tagChars, endTagChars, TagEnd.chars]

lemma exists_chars_element (name : String) (attributes : List (String × String))
    (content : List Node) : ∃ cs, (Node.element name attributes content).chars = '<' :: cs := by
  by_cases h : contentChars content = []
  · exact ⟨_, chars_of_empty name attributes h⟩
  · exact ⟨_, chars_of_ne_nil name attributes h⟩

lemma escapedText_eq_nil_iff {s : String} : escapedText s = [] ↔ s.toList = [] := by
  constructor
  · intro h
    cases hs : s.toList with
    | nil => rfl
    | cons c cs =>
      rw [escapedText, hs, List.flatMap_cons, List.append_eq_nil_iff] at h
      rcases escapeText_cases c with ⟨hself, -⟩ | ⟨reference, hescape, -⟩
      · rw [hself] at h
        cases h.1
      · rw [hescape] at h
        cases h.1
  · intro h
    rw [escapedText, h]
    rfl

/-- Content for which nothing is written has no elements and no text. -/
lemma Rereads.of_contentChars (h : contentChars content = []) : Rereads [] content [] := by
  induction content with
  | nil => exact .nil (List.flatMap_nil (f := String.toList))
  | cons node content ih =>
    rw [contentChars, List.append_eq_nil_iff] at h
    obtain ⟨hnode, hcontent⟩ := h
    cases node with
    | text s =>
      rw [Node.chars, escapedText_eq_nil_iff] at hnode
      apply Rereads.text
      rw [hnode]
      exact ih hcontent
    | element name attributes inside =>
      obtain ⟨cs, hcs⟩ := exists_chars_element name attributes inside
      rw [hcs] at hnode
      cases hnode

/-- Content that is read up to every tag after it, at every depth. -/
def Readable (standalone : Bool) (before : List Char) (content : List Node) : Prop :=
  ∀ depth rest, ∃ content', Rereads before content content' ∧
    Adds standalone (depth + 1)
      (before.flatMap escapeText ++ (contentChars content ++ '<' :: rest)) content' ('<' :: rest)

/-- An element is read when its content is. -/
lemma exists_adds_element {name : String} (htag : StorableTag name.toList attributes)
    (h : Readable standalone [] content) (depth : Nat) (rest : List Char) :
    ∃ content', Rereads [] content content' ∧
      Adds standalone (depth + 1) ((Node.element name attributes content).chars ++ rest)
        [.element name attributes content'] rest := by
  by_cases hempty : contentChars content = []
  · refine ⟨[], .of_contentChars hempty, ?_⟩
    rw [chars_of_empty name attributes hempty]
    simpa using Adds.emptyElement htag
  · obtain ⟨content', hrereads, hadds⟩ := h (depth + 1) ('/' :: (name.toList ++ '>' :: rest))
    rw [← endTagChars_append] at hadds
    have helement := Adds.element htag hadds
    rw [chars_of_ne_nil name attributes hempty]
    refine ⟨content', hrereads, ?_⟩
    simpa using helement

/-- What is written for content is read again, also behind some text. -/
theorem Storable.readable (h : Storable content) (before : List Char)
    (hbefore : IsText before) : Readable standalone before content := by
  induction h generalizing before with
  | nil =>
    intro depth rest
    obtain ⟨texts, htexts, hadds⟩ := exists_adds_escaped hbefore depth rest
    exact ⟨textNodes texts, .nil htexts, hadds⟩
  | @text s content hs _ ih =>
    intro depth rest
    obtain ⟨content', hrereads, hadds⟩ :=
      ih (before ++ s.toList) (isText_append.mpr ⟨hbefore, hs⟩) depth rest
    refine ⟨content', .text hrereads, ?_⟩
    rw [List.flatMap_append, List.append_assoc] at hadds
    rw [contentChars, Node.chars, escapedText, List.append_assoc]
    exact hadds
  | @element name attributes inside content htag _ _ ihinside ihcontent =>
    intro depth rest
    obtain ⟨content', hcontent', hadds⟩ := ihcontent [] (List.forall_mem_nil _) depth rest
    obtain ⟨inside', hinside', helement⟩ :=
      exists_adds_element htag (ihinside [] (List.forall_mem_nil _)) depth
        (contentChars content ++ '<' :: rest)
    obtain ⟨cs, hcs⟩ := exists_chars_element name attributes inside
    obtain ⟨texts, htexts, htext⟩ := exists_adds_escaped hbefore depth
      (cs ++ (contentChars content ++ '<' :: rest))
    refine ⟨_, .element htexts hinside' hcontent', ?_⟩
    rw [contentChars, hcs]
    rw [hcs] at helement
    simpa using htext.trans (helement.trans hadds)

/-! ### The outermost element -/

/-- The outermost element is what the pieces build, when they end behind it. -/
lemma readElement_of_pieces {found : List (Piece × List Char)} {root : Element}
    (hpieces : pieces true 0 cs (cs.length + 1) = (found, .closed rest))
    (hfold : found.foldlM (Building.take standalone) ⟨[], none⟩ = .ok ⟨[], some root⟩) :
    readElement (.empty standalone) cs = .ok (root, rest) := by
  rw [readElement, hpieces]
  change (found.foldlM (Building.take standalone) ⟨[], none⟩ >>= _) = _
  rw [hfold]
  rfl

lemma pieces_close (hread : readPiece cs = .ok (.closeTag name, rest)) :
    pieces true 1 cs (n + 1) = ([(.closeTag name, cs)], .closed rest) := by
  have hcs : cs.isEmpty = false := by
    cases cs with
    | nil => cases hread
    | cons => rfl
  rw [pieces, if_neg (by simp [hcs]), hread]
  simp [Piece.isTag, Piece.depthAfter]

lemma readElement_opened (htag : StorableTag name attributes)
    (h : Adds standalone 1 cs nodes (endTagChars name ++ rest)) :
    readElement (.empty standalone) ('<' :: (tagChars name attributes .opened ++ cs)) =
      .ok (⟨String.ofList name, attributes, nodes⟩, rest) := by
  obtain ⟨found, m, hm, hpieces, hfold⟩ := pieces_opened htag h (Nat.lt_succ_self _)
  obtain ⟨m, rfl⟩ : ∃ k, m = k + 1 := ⟨m - 1, by omega⟩
  rw [pieces_close (readPiece_endTag htag.isPlainName)] at hpieces
  apply readElement_of_pieces hpieces
  rw [List.foldlM_append, hfold ⟨[], none⟩ rfl]
  simp only [Bind.bind, Except.bind]
  rw [List.foldlM_cons, take_closeTag rfl, List.reverse_reverse]
  rfl

lemma readElement_emptyElement (htag : StorableTag name attributes) :
    readElement (.empty standalone) ('<' :: (tagChars name attributes .emptyElement ++ rest)) =
      .ok (⟨String.ofList name, attributes, []⟩, rest) := by
  obtain ⟨raws, hraws, hread⟩ := readPiece_openTag htag .emptyElement rest
  have hpieces : pieces true 0 ('<' :: (tagChars name attributes .emptyElement ++ rest))
      (('<' :: (tagChars name attributes .emptyElement ++ rest)).length + 1) =
        ([(.openTag name raws true, '<' :: (tagChars name attributes .emptyElement ++ rest))],
          .closed rest) := by
    rw [pieces, if_neg (by simp), hread]
    rfl
  apply readElement_of_pieces hpieces
  rw [List.foldlM_cons, take_openTag htag hraws rfl]
  rfl

/-- An element that is written is read again, and nothing behind it. -/
theorem exists_readElement (standalone : Bool) {name : String}
    (htag : StorableTag name.toList attributes) (h : Storable content) (rest : List Char) :
    ∃ content', Rereads [] content content' ∧
      readElement (.empty standalone) ((Node.element name attributes content).chars ++ rest) =
        .ok (⟨name, attributes, content'⟩, rest) := by
  by_cases hempty : contentChars content = []
  · refine ⟨[], .of_contentChars hempty, ?_⟩
    rw [chars_of_empty name attributes hempty]
    simpa using readElement_emptyElement htag
  · obtain ⟨content', hrereads, hadds⟩ :=
      h.readable [] (List.forall_mem_nil _) 0 ('/' :: (name.toList ++ '>' :: rest))
    rw [← endTagChars_append] at hadds
    rw [chars_of_ne_nil name attributes hempty]
    refine ⟨content', hrereads, ?_⟩
    simpa using readElement_opened htag hadds

end Recalc.Xml
