import Mathlib.Data.List.Chain
import UserConfigs.Proofs.BlockReading
import UserConfigs.Proofs.Filling

/-!
# Templates in segments

A `Segment` is literal text, a tag around a name, a comment or a block of raw text. Where no two
literal texts touch (`Layout`), a row of segments can be told from the text that they make
together : each segment is one node of the template (`reads_nodes`), and the dashes that would
trim the text around a tag are missing (`trimAll_nodes`). Rendering then goes from segment to
segment, each of which gives its piece of the text (`Segment.Piece`), up to the first tag whose name
is not bound (`renderAll_nodes`).

An empty comment is the exception. It is no comment in the template language, and a template with
one is refused (`parse_empty_comment`).
-/

namespace UserConfigs.Template

open Reader

/-! ## Segments -/

/-- A part of a template that stands for itself. -/
inductive Segment where
  /-- Literal text. -/
  | literal (s : String)
  /-- The value of a name. -/
  | tag (x : String)
  | comment (t : String)
  /-- Text that is not read as template. -/
  | raw (t : String)
  deriving Repr, DecidableEq

namespace Segment

/-- The segment in a template. -/
def source : Segment → String
  | literal s => s
  | tag x => "\x7b\x7b " ++ x ++ " \x7d\x7d"
  | comment t => "\x7b#" ++ t ++ "#\x7d"
  | raw t => "\x7b% raw %\x7d" ++ t ++ "\x7b% endraw %\x7d"

/-- The starts of tags, comments and statements. -/
def signs : List String := ["\x7b\x7b", "\x7b%", "\x7b#"]

/-- The names that mean something else than a variable in some place of a template. -/
def keywords : List String :=
  ["and", "or", "in", "is", "loop", "self", "super", "__tera_context"]

/-- What a segment may hold. -/
def Valid : Segment → Prop
  | literal s => (∀ w ∈ signs, ¬w.toList <:+: s.toList) ∧ s.toList.getLast? ≠ some '\x7b'
  | tag x => IsPlainName x.toList ∧ x ∉ keywords
  | comment t => '#' ∉ t.toList ∧ '-' ∉ t.toList
  | raw t => ¬"endraw".toList <:+: t.toList

/-- The segment is literal text. -/
def isText : Segment → Bool
  | literal _ => true
  | _ => false

/-- The nodes of a segment. Literal text without a character has none. -/
def nodes : Segment → List Node
  | literal s => if s.toList = [] then [] else [.text s.toList]
  | tag x => [.value ⟨false, false⟩ (.mk (.path x) false [])]
  | comment _ => [.comment ⟨false, false⟩]
  | raw t => [.raw ⟨false, false⟩ t.toList ⟨false, false⟩]

theorem toList_source_tag (x : String) :
    (tag x).source.toList = valueText ⟨false, false⟩ [' '] x.toList [' '] := by
  simp [source, valueText]

theorem toList_source_comment (t : String) :
    (comment t).source.toList = commentText t.toList := by
  simp [source, commentText]

theorem toList_source_raw (t : String) : (raw t).source.toList = rawBlock t.toList := by
  simp [source, rawBlock, wordText]

end Segment

/-- Segments in a row, no two literal texts next to each other. -/
structure Layout (segs : List Segment) : Prop where
  valid : ∀ s ∈ segs, s.Valid
  apart : segs.IsChain fun a b => ¬(a.isText = true ∧ b.isText = true)

/-- The characters of a template in segments. -/
def chars (segs : List Segment) : List Char := segs.flatMap fun s => s.source.toList

theorem chars_cons (s : Segment) (segs : List Segment) :
    chars (s :: segs) = s.source.toList ++ chars segs := List.flatMap_cons

theorem Layout.of_suffix {segs rest : List Segment} (h : Layout segs) (hrest : rest <:+ segs) :
    Layout rest :=
  ⟨fun s hs => h.valid s (hrest.subset hs), h.apart.suffix hrest⟩

theorem Layout.of_cons {s : Segment} {segs : List Segment} (h : Layout (s :: segs)) : Layout segs :=
  h.of_suffix (List.suffix_cons s segs)

/-! ## Reading segments -/

/-- No tag starts in a text without the starts of tags, if no brace is at its end. -/
theorem isLiteral_of_notInfix : ∀ {s : List Char},
    (∀ w ∈ Segment.signs, ¬w.toList <:+: s) → s.getLast? ≠ some '\x7b' → isLiteral s = true
  | [], _, _ => rfl
  | [c], _, hlast => by simpa [isLiteral] using hlast
  | c :: d :: s, hsigns, hlast => by
    have hrest : isLiteral (d :: s) = true := by
      refine isLiteral_of_notInfix (fun w hw hinfix => hsigns w hw ?_) (by simpa using hlast)
      exact hinfix.trans (List.suffix_cons c (d :: s)).isInfix
    have hstart : startsTag (c :: d :: s) = false := by
      rw [Bool.eq_false_iff]
      intro hstart
      obtain ⟨rfl, hd⟩ : c = '\x7b' ∧ (d = '\x7b' ∨ d = '%' ∨ d = '#') := by
        simpa [startsTag, or_assoc] using hstart
      rcases hd with rfl | rfl | rfl
      · exact hsigns "\x7b\x7b" (by decide) (List.prefix_append ['\x7b', '\x7b'] s).isInfix
      · exact hsigns "\x7b%" (by decide) (List.prefix_append ['\x7b', '%'] s).isInfix
      · exact hsigns "\x7b#" (by decide) (List.prefix_append ['\x7b', '#'] s).isInfix
    simp only [isLiteral, hstart, hrest, Bool.not_false, Bool.and_self]

theorem Segment.Valid.isLiteral {s : String} (h : (Segment.literal s).Valid) :
    isLiteral s.toList = true :=
  isLiteral_of_notInfix h.1 h.2

theorem startsTag_source {s : Segment} (hs : s.isText = false) (r : List Char) :
    startsTag (s.source.toList ++ r) = true := by
  cases s with
  | literal s => simp [Segment.isText] at hs
  | tag x => simp [Segment.toList_source_tag, valueText, startsTag]
  | comment t => simp [Segment.toList_source_comment, commentText, startsTag]
  | raw t => simp [Segment.toList_source_raw, rawBlock, wordText, startsTag]

/-- After literal text the next tag starts, or the text ends. -/
theorem Layout.startsTag_chars {s : String} {segs : List Segment}
    (h : Layout (.literal s :: segs)) : chars segs = [] ∨ startsTag (chars segs) = true := by
  rcases segs with _ | ⟨next, segs⟩
  · exact Or.inl rfl
  · obtain ⟨hnext, -⟩ := List.isChain_cons_cons.mp h.apart
    have htext : next.isText = false := by simpa [Segment.isText] using hnext
    rw [chars_cons]
    exact Or.inr (startsTag_source htext _)

/-- A segment that is not literal text is one node. -/
theorem node_source {n : Nat} (body : Setting → Reader (List Node)) {s : Segment} (hs : s.Valid)
    (htext : s.isText = false) (hempty : s ≠ .comment "") (r : List Char) :
    ∃ a, s.nodes = [a] ∧ node (level (n + 1)) body .plain (s.source.toList ++ r) = some (a, r) := by
  cases s with
  | literal s => simp [Segment.isText] at htext
  | tag x =>
    have hblank : ∀ c ∈ [' '], isSpace c = true := List.all_eq_true.mp (by decide)
    have hnode := node_valueText (n := n) body (by decide : Setting.plain ≠ .block)
      ⟨false, false⟩ hs.1 hblank hblank r
    rw [String.ofList_toList] at hnode
    exact ⟨_, rfl, by rw [Segment.toList_source_tag, hnode]⟩
  | comment t =>
    have hne : t.toList ≠ [] := fun h => hempty (by rw [String.toList_eq_nil_iff.mp h])
    refine ⟨_, rfl, ?_⟩
    rw [Segment.toList_source_comment, node_commentText hne hs.1 hs.2]
  | raw t =>
    refine ⟨_, rfl, ?_⟩
    rw [Segment.toList_source_raw, node_rawBlock hs]

theorem length_source_pos {s : Segment} (htext : s.isText = false) :
    0 < s.source.toList.length := by
  refine List.length_pos_iff.mpr fun h => ?_
  have hstart := startsTag_source htext []
  simp [h, startsTag] at hstart

/-- Literal text in front of a tag or the end is its nodes. -/
theorem reads_literal_append {exprs : Level} {body : Setting → Reader (List Node)} {s : String}
    (hs : isLiteral s.toList = true) {rest r : List Char} {nodes : List Node}
    (hrest : rest = [] ∨ startsTag rest = true)
    (h : Reads (node exprs body .plain) rest nodes r) :
    Reads (node exprs body .plain) (s.toList ++ rest) ((Segment.literal s).nodes ++ nodes) r := by
  by_cases hnil : s.toList = []
  · simpa [Segment.nodes, hnil] using h
  · have hnode := node_literal exprs body .plain hs hnil hrest
    have hpos := List.length_pos_iff.mpr hnil
    simp only [Segment.nodes, if_neg hnil]
    refine .cons hnode ?_ h
    rw [List.length_append]
    omega

/-- A row of segments is read as the row of their nodes. -/
theorem reads_nodes (n : Nat) (body : Setting → Reader (List Node)) :
    ∀ {segs : List Segment}, Layout segs → .comment "" ∉ segs →
      Reads (node (level (n + 1)) body .plain) (chars segs) (segs.flatMap Segment.nodes) []
  | [], _, _ => .nil (node_nil _ _ _)
  | s :: segs, hlayout, hempty => by
    obtain ⟨hs, hempty⟩ := List.ne_and_not_mem_of_not_mem_cons hempty
    have ih := reads_nodes n body hlayout.of_cons hempty
    have hvalid : s.Valid := hlayout.valid s List.mem_cons_self
    rw [chars_cons, List.flatMap_cons]
    cases htext : s.isText with
    | false =>
      obtain ⟨a, ha, hnode⟩ := node_source (n := n) body hvalid htext hs.symm (chars segs)
      have hpos := length_source_pos htext
      rw [ha]
      refine .cons hnode ?_ ih
      rw [List.length_append]
      omega
    | true =>
      obtain ⟨t, rfl⟩ : ∃ t, s = .literal t := by
        cases s <;> simp [Segment.isText] at htext ⊢
      exact reads_literal_append hvalid.isLiteral hlayout.startsTag_chars ih

/-- The comments at the front are read first, as the parent of a template would stand behind
them. No parent follows. -/
theorem reads_comments : ∀ {segs : List Segment}, Layout segs → .comment "" ∉ segs →
    ∃ comments rest, rest <:+ segs ∧ Reads comment (chars segs) comments (chars rest) ∧
      parentTag (chars rest) = none ∧
      segs.flatMap Segment.nodes = comments ++ rest.flatMap Segment.nodes
  | [], _, _ => by
    refine ⟨[], [], List.suffix_refl _, .nil ?_, ?_, rfl⟩
    · exact bind_eq_none (openTag_eq_none rfl) _
    · exact bind_eq_none (openTag_eq_none rfl) _
  | s :: segs, hlayout, hempty => by
    have hvalid : s.Valid := hlayout.valid s List.mem_cons_self
    -- a segment that is no comment ends the front
    have hstop : comment (chars (s :: segs)) = none → parentTag (chars (s :: segs)) = none →
        ∃ comments rest, rest <:+ s :: segs ∧
          Reads comment (chars (s :: segs)) comments (chars rest) ∧
          parentTag (chars rest) = none ∧
          (s :: segs).flatMap Segment.nodes = comments ++ rest.flatMap Segment.nodes :=
      fun hcomment hparent =>
        ⟨[], s :: segs, List.suffix_refl _, .nil hcomment, hparent, rfl⟩
    obtain ⟨hs, htail⟩ := List.ne_and_not_mem_of_not_mem_cons hempty
    rw [chars_cons] at hstop ⊢
    cases s with
    | literal t =>
      by_cases ht : t.toList = []
      · obtain ⟨comments, rest, hrest, hreads, hparent, hnodes⟩ :=
          reads_comments hlayout.of_cons htail
        refine ⟨comments, rest, hrest.trans (List.suffix_cons _ segs), ?_, hparent, ?_⟩
        · simpa [Segment.source, ht] using hreads
        · simpa [Segment.nodes, ht] using hnodes
      · have hopen := fun w hw => openTag_literal (w := w) hw hvalid.isLiteral ht (chars segs)
        exact hstop (bind_eq_none (hopen "\x7b#" (by simp)) _)
          (bind_eq_none (hopen "\x7b%" (by simp)) _)
    | tag x =>
      rw [Segment.toList_source_tag] at hstop ⊢
      exact hstop (bind_eq_none (openTag_eq_none (by simp [valueText, dropFront?])) _)
        (bind_eq_none (openTag_eq_none (by simp [valueText, dropFront?])) _)
    | comment t =>
      have hne : t.toList ≠ [] := fun h => hs (by rw [String.toList_eq_nil_iff.mp h])
      obtain ⟨comments, rest, hrest, hreads, hparent, hnodes⟩ :=
        reads_comments hlayout.of_cons htail
      refine ⟨.comment ⟨false, false⟩ :: comments, rest, hrest.trans (List.suffix_cons _ segs),
        .cons ?_ ?_ hreads, hparent, ?_⟩
      · rw [Segment.toList_source_comment, comment_commentText hne hvalid.1 hvalid.2]
      · have hpos := length_source_pos (s := .comment t) rfl
        rw [List.length_append]
        omega
      · rw [List.flatMap_cons, hnodes]
        rfl
    | raw t =>
      rw [Segment.toList_source_raw] at hstop ⊢
      exact hstop (comment_rawBlock _) (parentTag_rawBlock _)

/-! ## Trimming -/

theorem dashAhead_nodes : ∀ segs : List Segment,
    Node.dashAhead false (segs.flatMap Segment.nodes) = false
  | [] => rfl
  | .literal s :: segs => by
    by_cases hs : s.toList = []
    · simpa [Segment.nodes, hs] using dashAhead_nodes segs
    · simp [Segment.nodes, hs, Node.dashAhead, Node.dashLeft]
  | .tag _ :: _ => rfl
  | .comment _ :: _ => rfl
  | .raw _ :: _ => rfl

/-- No segment has a dash, so nothing is trimmed. -/
theorem trimAll_nodes : ∀ segs : List Segment,
    Node.trimAll false false (segs.flatMap Segment.nodes) = segs.flatMap Segment.nodes
  | [] => by simp [Node.trimAll]
  | .literal s :: segs => by
    by_cases hs : s.toList = []
    · simpa [Segment.nodes, hs] using trimAll_nodes segs
    · simp [Segment.nodes, hs, Node.trimAll, Node.trimText, dashAhead_nodes, trimAll_nodes segs]
  | .tag x :: segs => by
    simp [Segment.nodes, Node.trimAll, Node.trim, Node.dashRight, trimAll_nodes segs]
  | .comment t :: segs => by
    simp [Segment.nodes, Node.trimAll, Node.trim, Node.dashRight, trimAll_nodes segs]
  | .raw t :: segs => by
    simp [Segment.nodes, Node.trimAll, Node.trim, Node.dashRight, Node.trimText, trimAll_nodes segs]

theorem unshared_nodes : ∀ segs : List Segment, Unshared (segs.flatMap Segment.nodes)
  | [] => by simp [Unshared, partsAll]
  | s :: segs => by
    have hrest := unshared_nodes segs
    rw [Unshared, forall_mem_partsAll] at hrest ⊢
    rw [List.flatMap_cons, List.forall_mem_append]
    refine ⟨?_, hrest⟩
    cases s with
    | literal s => by_cases hs : s.toList = [] <;> simp [Segment.nodes, hs, Node.parts, Node.shares]
    | _ => simp [Segment.nodes, Node.parts, Node.shares]

/-- A row of segments is a template of their nodes. -/
theorem parse_source {segs : List Segment} (hlayout : Layout segs) (hempty : .comment "" ∉ segs) :
    parse (String.join (segs.map Segment.source)) = .ok ⟨segs.flatMap Segment.nodes⟩ := by
  have hchars : (String.join (segs.map Segment.source)).toList = chars segs := by
    rw [String.toList_join, List.flatMap_map]
    rfl
  obtain ⟨comments, rest, hrest, hreads, hparent, hnodes⟩ := reads_comments hlayout hempty
  have hread := read?_of_reads hreads hparent
    (reads_nodes _ _ (hlayout.of_suffix hrest) fun hmem => hempty (hrest.subset hmem))
  rw [← hchars, ← hnodes] at hread
  exact parse_eq_ok_iff_read.mpr ⟨_, hread, accepted_of_unshared (unshared_nodes segs), by
    rw [trimAll_nodes]⟩

/-! ## Rendering segments -/

theorem Segment.Valid.ne_wholeContext {x : String} (h : (Segment.tag x).Valid) :
    x ≠ wholeContext := by
  rintro rfl
  exact h.2 (by decide)

/-- The piece of the text that a segment gives. -/
inductive Segment.Piece (c : Context) : Segment → String → Prop where
  | literal (s : String) : Piece c (.literal s) s
  | tag {x : String} {v : Value} {r : String} (hv : Fields.get? x c = some v)
    (hr : v.PlainText r) : Piece c (.tag x) r
  | comment (t : String) : Piece c (.comment t) ""
  | raw (t : String) : Piece c (.raw t) t

section Rendering

variable [World] {c : Context}

/-- A segment gives its piece and leaves the rest to the segments after it. -/
theorem exists_piece {s : Segment} (hs : s.Valid)
    (hbound : ∀ x, s = .tag x → (Fields.get? x c).isSome) :
    ∃ p, s.Piece c p ∧ ∀ rest, renderAll (s.nodes ++ rest) ⟨[], [], c⟩ =
      (renderAll rest ⟨[], [], c⟩).map fun o => { o with text := p ++ o.text } := by
  cases s with
  | literal s =>
    refine ⟨s, .literal s, fun rest => ?_⟩
    by_cases hnil : s.toList = []
    · have hs : s = "" := String.toList_eq_nil_iff.mp hnil
      cases h : renderAll rest ⟨[], [], c⟩ <;> simp [Segment.nodes, hs, h, Except.map]
    · simp [Segment.nodes, hnil, renderAll_text]
  | tag x =>
    obtain ⟨v, hv⟩ := Option.isSome_iff_exists.mp (hbound x rfl)
    have hvalue : (Expr.mk (.path x) false []).value ⟨[], [], c⟩ = .ok v := by
      rw [value_path, read_plain hs.1 hs.ne_wholeContext, hv]
    exact ⟨v.render, .tag hv v.plainText_render, fun rest => renderAll_value _ rest _ hvalue⟩
  | comment t =>
    refine ⟨"", .comment t, fun rest => ?_⟩
    cases h : renderAll rest ⟨[], [], c⟩ <;> simp [Segment.nodes, renderAll_comment, h, Except.map]
  | raw t =>
    refine ⟨t, .raw t, fun rest => ?_⟩
    simp [Segment.nodes, renderAll_raw]

theorem renderAll_unbound {x : String} (hx : (Segment.tag x).Valid)
    (hunbound : Fields.get? x c = none) (rest : List Node) :
    renderAll ((Segment.tag x).nodes ++ rest) ⟨[], [], c⟩ = .error (.unbound x) :=
  renderAll_value_error _ rest _
    (by rw [value_path, read_plain hx.1 hx.ne_wholeContext, hunbound])

/-- The first tag whose name is not bound. -/
structure FirstUnbound (c : Context) (segs : List Segment) (x : String) : Prop where
  unbound : Fields.get? x c = none
  before : ∃ before after, segs = before ++ .tag x :: after ∧
    ∀ y, .tag y ∈ before → (Fields.get? y c).isSome

/-- Rendering gives the pieces in order, up to a tag whose name is not bound. -/
theorem renderAll_nodes (c : Context) : ∀ {segs : List Segment}, (∀ s ∈ segs, s.Valid) →
    (∀ x, .tag x ∈ segs → (Fields.get? x c).isSome) ∧
        (∃ pieces, List.Forall₂ (Segment.Piece c) segs pieces ∧
          renderAll (segs.flatMap Segment.nodes) ⟨[], [], c⟩ =
            .ok ⟨⟨[], [], c⟩, String.join pieces, .next⟩) ∨
      ∃ x, FirstUnbound c segs x ∧
        renderAll (segs.flatMap Segment.nodes) ⟨[], [], c⟩ = .error (.unbound x)
  | [], _ => Or.inl ⟨by simp, [], .nil, renderAll_nil _⟩
  | s :: segs, hvalid => by
    obtain ⟨hs, hvalid⟩ := List.forall_mem_cons.mp hvalid
    rw [List.flatMap_cons]
    by_cases hbound : ∀ x, s = .tag x → (Fields.get? x c).isSome
    · obtain ⟨p, hp, hrender⟩ := exists_piece hs hbound
      rw [hrender]
      rcases renderAll_nodes c hvalid with ⟨hall, pieces, hpieces, hok⟩ | ⟨x, hx, herror⟩
      · refine Or.inl ⟨fun x hx => ?_, p :: pieces, .cons hp hpieces, ?_⟩
        · rcases List.mem_cons.mp hx with h | h
          · exact hbound x h.symm
          · exact hall x h
        · rw [hok, String.join_cons]
          rfl
      · obtain ⟨before, after, hsegs, hbefore⟩ := hx.before
        refine Or.inr ⟨x, ⟨hx.unbound, s :: before, after, ?_, fun y hy => ?_⟩, ?_⟩
        · rw [hsegs, List.cons_append]
        · rcases List.mem_cons.mp hy with h | h
          · exact hbound y h.symm
          · exact hbefore y h
        · rw [herror]
          rfl
    · obtain ⟨x, rfl, hunbound⟩ : ∃ x, s = .tag x ∧ Fields.get? x c = none := by
        simpa using hbound
      refine Or.inr ⟨x, ⟨hunbound, [], segs, rfl, by simp⟩, ?_⟩
      exact renderAll_unbound hs hunbound _

theorem render_nodes (c : Context) {segs : List Segment} (hvalid : ∀ s ∈ segs, s.Valid) :
    (∀ x, .tag x ∈ segs → (Fields.get? x c).isSome) ∧
        (∃ pieces, List.Forall₂ (Segment.Piece c) segs pieces ∧
          Template.render ⟨segs.flatMap Segment.nodes⟩ c = .ok (String.join pieces)) ∨
      ∃ x, FirstUnbound c segs x ∧
        Template.render ⟨segs.flatMap Segment.nodes⟩ c = .error (.render (.unbound x)) := by
  rcases renderAll_nodes c hvalid with ⟨hall, pieces, hpieces, hok⟩ | ⟨x, hx, herror⟩
  · exact Or.inl ⟨hall, pieces, hpieces, by rw [Template.render, hok]⟩
  · exact Or.inr ⟨x, hx, by rw [Template.render, herror]⟩

end Rendering

theorem getLast?_causes_unbound (x : String) :
    (Error.render (.unbound x)).causes.getLast? =
      some ("Variable \x60" ++ x ++ "\x60 not found in context while rendering 'config.yml'") := by
  have hcauses : (Error.render (.unbound x)).causes.getLast? =
      some ("Variable \x60" ++ x ++ "\x60 not found in context while rendering '" ++ documentName ++
        "'") := rfl
  have hend : "\x60 not found in context while rendering '" ++ documentName ++ "'" =
      "\x60 not found in context while rendering 'config.yml'" := by decide +kernel
  rw [hcauses, ← hend]
  simp only [String.append_assoc]

/-- A row of segments is a template. It can be rendered where the names of all its tags are bound,
and the text is then made of the pieces of the segments in order. Elsewhere the last cause names the
first tag that is not bound. -/
theorem segments_render [World] {segs : List Segment} (hlayout : Layout segs)
    (hempty : .comment "" ∉ segs) :
    ∃ t, parse (String.join (segs.map Segment.source)) = .ok t ∧ ∀ c : Context,
      ((∃ r, t.render c = .ok r) ↔ ∀ x, .tag x ∈ segs → (Fields.get? x c).isSome) ∧
      (∀ r, t.render c = .ok r →
        ∃ pieces, List.Forall₂ (Segment.Piece c) segs pieces ∧ r = String.join pieces) ∧
      ∀ e, t.render c = .error e → ∃ x, FirstUnbound c segs x ∧ e.causes.getLast? =
        some ("Variable \x60" ++ x ++
          "\x60 not found in context while rendering 'config.yml'") := by
  refine ⟨_, parse_source hlayout hempty, fun c => ?_⟩
  rcases render_nodes c hlayout.valid with ⟨hall, pieces, hpieces, hrender⟩ | ⟨x, hx, hrender⟩
  · rw [hrender]
    refine ⟨⟨fun _ => hall, fun _ => ⟨_, rfl⟩⟩, fun r hr => ⟨pieces, hpieces, ?_⟩, nofun⟩
    exact (Except.ok.inj hr).symm
  · rw [hrender]
    refine ⟨⟨nofun, fun hall => ?_⟩, nofun, fun e he => ⟨x, hx, ?_⟩⟩
    · obtain ⟨before, after, hsegs, -⟩ := hx.before
      have hbound := hall x (by simp [hsegs])
      simp [hx.unbound] at hbound
    · rw [← Except.error.inj he, getLast?_causes_unbound]

/-- Lone braces, the start of a tag in raw text, and a comment at the front. -/
theorem segments_render_braces :
    ∃ t, parse (String.join ([.comment " $ ", .literal "\x7b$\x7d", .tag "uid",
          .raw "\x7b\x7b uid"].map Segment.source)) = .ok t ∧
      t.render [("uid", .text "\x7b%")] = .ok "\x7b$\x7d\x7b%\x7b\x7b uid" ∧
      ∃ e, t.render [] = .error e ∧ e.causes.getLast? =
        some "Variable \x60uid\x60 not found in context while rendering 'config.yml'" := by
  have hlayout : Layout [.comment " $ ", .literal "\x7b$\x7d", .tag "uid",
      .raw "\x7b\x7b uid"] := by
    refine ⟨?_, by simp [Segment.isText]⟩
    simp only [List.forall_mem_cons, Segment.Valid]
    refine ⟨by decide, ⟨?_, by decide⟩, ⟨Document.isPlainName_uidKey, ?_⟩, fun hword => ?_, by simp⟩
    · simp only [Segment.signs, List.forall_mem_cons]
      exact ⟨by decide, by decide, by decide, by simp⟩
    · simp [Segment.keywords]
    · have hletter : 'e' ∈ "\x7b\x7b uid".toList := hword.subset (by decide)
      simp at hletter
  obtain ⟨t, ht, hrender⟩ := segments_render hlayout (by simp)
  refine ⟨t, ht, ?_, ?_⟩
  · obtain ⟨hok, htext, -⟩ := hrender [("uid", .text "\x7b%")]
    obtain ⟨r, hr⟩ := hok.mpr (by simp [Fields.get?])
    obtain ⟨pieces, hpieces, rfl⟩ := htext r hr
    obtain _ | ⟨⟨⟩, _ | ⟨⟨⟩, _ | ⟨_ | ⟨hv, hplain⟩, _ | ⟨⟨⟩, ⟨⟩⟩⟩⟩⟩ := hpieces
    obtain rfl := Option.some.inj hv
    cases hplain
    rw [hr]
    rfl
  · obtain ⟨hok, -, herror⟩ := hrender []
    cases h : t.render [] with
    | ok r =>
      have hbound := hok.mp ⟨r, h⟩ "uid" (by simp)
      simp [Fields.get?] at hbound
    | error e =>
      obtain ⟨x, ⟨-, before, after, hsegs, -⟩, hcause⟩ := herror e h
      have hx : Segment.tag x ∈ [.comment " $ ", .literal "\x7b$\x7d", .tag "uid",
          .raw "\x7b\x7b uid"] := by simp [hsegs]
      obtain rfl : x = "uid" := by simpa using hx
      exact ⟨e, rfl, hcause⟩

/-- A template with an empty comment is refused, though the comment is free of the signs that end
one. -/
theorem parse_empty_comment :
    Layout [.comment ""] ∧
      parse (String.join ([Segment.comment ""].map Segment.source)) = .error .malformed := by
  refine ⟨⟨by simp [Segment.Valid], .singleton _⟩, ?_⟩
  rfl

end UserConfigs.Template
