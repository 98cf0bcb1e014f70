import UserConfigs.Proofs.Segments
import UserConfigs.Proofs.Sources

/-!
# Dashes around names

A row of tags around names, with literal texts before, between and behind them (`TagRow`). A dash on
one side of a tag asks for the text of the row without dashes in which the literal text on that side
has lost its blanks at that end (`TagRow.plain`). Reading keeps no literal text that is empty, while
trimming leaves one that has become empty in its place, and both give no text. So what a row renders
as can be told from its plain one (`renderAll_trimAll_tags`), where the texts of the values stand
between the literal texts as they are.
-/

namespace UserConfigs

/-! ## Blanks at the end -/

namespace Text

theorem trimEnd_concat {c : Char} (hc : isBlank c = true) : ∀ s : List Char,
    trimEnd (s ++ [c]) = trimEnd s
  | [] => by simp [trimEnd, hc]
  | d :: s => by simp only [List.cons_append, trimEnd, trimEnd_concat hc s]

/-- The blanks at the end are dropped from the right. -/
theorem trimEnd_eq (s : List Char) : trimEnd s = s.rdropWhile isBlank := by
  induction s using List.reverseRecOn with
  | nil => rfl
  | append_singleton s c ih =>
    by_cases hc : isBlank c = true
    · rw [List.rdropWhile_concat_pos _ _ _ hc, trimEnd_concat hc, ih]
    · rw [List.rdropWhile_concat_neg _ _ _ hc, trimEnd_append_cons s (Bool.eq_false_iff.mpr hc),
        trimEnd_nil]

end Text

namespace Template

open Reader

/-! ## Rows of tags -/

/-- A tag around a name with its dashes, and the literal text behind it. -/
structure DashedTag where
  dashes : Dashes
  name : String
  after : String
  deriving Repr, DecidableEq

/-- Tags around names with literal text before, between and behind them. -/
structure TagRow where
  first : String
  tags : List DashedTag
  deriving Repr, DecidableEq

/-- The tag in a template. -/
def DashedTag.source (t : DashedTag) : String :=
  "\x7b\x7b" ++ (if t.dashes.left then "-" else "") ++ " " ++ t.name ++ " " ++
    (if t.dashes.right then "-" else "") ++ "\x7d\x7d"

/-- A text without the blanks at its front, if `front`, and those at its back, if `back`. -/
def stripped (front back : Bool) (s : String) : String :=
  let t := if front then s.toList.dropWhile Text.isBlank else s.toList
  String.ofList (if back then t.rdropWhile Text.isBlank else t)

/-- The next tag has a dash on its left. -/
def dashNext : List DashedTag → Bool
  | [] => false
  | t :: _ => t.dashes.left

/-- The tags without their dashes, and the literal texts behind them without the blanks that the
dashes on both sides ask for. -/
def plainTags : List DashedTag → List DashedTag
  | [] => []
  | t :: rest =>
    ⟨⟨false, false⟩, t.name, stripped t.dashes.right (dashNext rest) t.after⟩ :: plainTags rest

namespace TagRow

/-- The template. -/
def text (r : TagRow) : String := r.first ++ String.join (r.tags.map fun t => t.source ++ t.after)

/-- The row without dashes. -/
def plain (r : TagRow) : TagRow := ⟨stripped false (dashNext r.tags) r.first, plainTags r.tags⟩

/-- The text with one text in place of each tag. -/
def filled (r : TagRow) (texts : List String) : String :=
  r.first ++ String.join (List.zipWith (fun t s => s ++ t.after) r.tags texts)

/-- The literal texts have no braces, and the names are plain. -/
structure Valid (r : TagRow) : Prop where
  first : '\x7b' ∉ r.first.toList
  tags : ∀ t ∈ r.tags, (Segment.tag t.name).Valid ∧ '\x7b' ∉ t.after.toList

end TagRow

/-! ## Stripped texts -/

theorem stripped_none (s : String) : stripped false false s = s := by simp [stripped]

theorem stripped_empty (front back : Bool) : stripped front back "" = "" := by
  cases front <;> cases back <;> rfl

theorem toList_stripped (front back : Bool) (s : String) :
    (stripped front back s).toList = Node.trimText front back s.toList := by
  simp [stripped, Node.trimText, Text.trimStart, Text.trimEnd_eq]

/-- Nothing is added to a text that is trimmed. -/
theorem stripped_sublist (front back : Bool) (s : String) :
    (stripped front back s).toList.Sublist s.toList := by
  rw [stripped, String.toList_ofList]
  have hfront : (if front then s.toList.dropWhile Text.isBlank else s.toList).Sublist s.toList := by
    cases front with
    | true => exact List.dropWhile_sublist _
    | false => exact List.Sublist.refl _
  cases back with
  | true => exact (List.rdropWhile_prefix _ _).sublist.trans hfront
  | false => exact hfront

/-- Without dashes nothing is removed. -/
theorem plainTags_eq_self : ∀ {tags : List DashedTag},
    (∀ t ∈ tags, t.dashes = ⟨false, false⟩) → plainTags tags = tags
  | [], _ => rfl
  | t :: rest, h => by
    obtain ⟨ht, hrest⟩ := List.forall_mem_cons.mp h
    have hnext : dashNext rest = false := by
      cases rest with
      | nil => rfl
      | cons t' rest => simp [dashNext, hrest t' List.mem_cons_self]
    rw [plainTags, plainTags_eq_self hrest, hnext, ht, stripped_none, ← ht]

theorem dashes_of_mem_plainTags : ∀ {tags : List DashedTag}, ∀ t ∈ plainTags tags,
    t.dashes = ⟨false, false⟩
  | [], _, ht => absurd ht List.not_mem_nil
  | _ :: rest, t, ht => by
    rcases List.mem_cons.mp ht with rfl | ht
    · rfl
    · exact dashes_of_mem_plainTags t ht

namespace TagRow

/-- A row without dashes is not changed. -/
theorem plain_eq_self {r : TagRow} (h : ∀ t ∈ r.tags, t.dashes = ⟨false, false⟩) : r.plain = r := by
  have hnext : dashNext r.tags = false := by
    cases htags : r.tags with
    | nil => rfl
    | cons t rest => simp [dashNext, h t (htags ▸ List.mem_cons_self)]
  rw [plain, plainTags_eq_self h, hnext, stripped_none]

theorem plain_plain (r : TagRow) : r.plain.plain = r.plain :=
  plain_eq_self dashes_of_mem_plainTags

theorem Valid.plain {r : TagRow} (h : r.Valid) : r.plain.Valid := by
  refine ⟨fun hmem => h.first ((stripped_sublist _ _ _).subset hmem), ?_⟩
  have htags : ∀ {tags : List DashedTag},
      (∀ t ∈ tags, (Segment.tag t.name).Valid ∧ '\x7b' ∉ t.after.toList) →
        ∀ t ∈ plainTags tags, (Segment.tag t.name).Valid ∧ '\x7b' ∉ t.after.toList := by
    intro tags
    induction tags with
    | nil => exact fun _ => nofun
    | cons t rest ih =>
      intro h
      obtain ⟨ht, hrest⟩ := List.forall_mem_cons.mp h
      exact List.forall_mem_cons.mpr
        ⟨⟨ht.1, fun hmem => ht.2 ((stripped_sublist _ _ _).subset hmem)⟩, ih hrest⟩
  exact htags h.tags

end TagRow

/-! ## Reading rows -/

/-- The nodes of tags and of the literal texts behind them. -/
def tagNodes (tags : List DashedTag) : List Node :=
  tags.flatMap fun t =>
    .value t.dashes (.mk (.path t.name) false []) :: (Segment.literal t.after).nodes

theorem tagNodes_cons (t : DashedTag) (rest : List DashedTag) : tagNodes (t :: rest) =
    .value t.dashes (.mk (.path t.name) false []) ::
      ((Segment.literal t.after).nodes ++ tagNodes rest) := rfl

/-- The characters of tags and of the literal texts behind them. -/
def tagChars (tags : List DashedTag) : List Char :=
  tags.flatMap fun t => t.source.toList ++ t.after.toList

theorem tagChars_cons (t : DashedTag) (rest : List DashedTag) : tagChars (t :: rest) =
    valueText t.dashes [' '] t.name.toList [' '] ++ (t.after.toList ++ tagChars rest) := by
  rw [tagChars, List.flatMap_cons, List.append_assoc]
  congr 1
  cases hl : t.dashes.left <;> cases hr : t.dashes.right <;>
    simp [DashedTag.source, valueText, hl, hr]

theorem isLiteral_of_notMem : ∀ {s : List Char}, '\x7b' ∉ s → isLiteral s = true
  | [], _ => rfl
  | [c], h => decide_eq_true fun hc => h (hc ▸ List.mem_cons_self)
  | c :: d :: s, h => by
    have hrest : isLiteral (d :: s) = true := isLiteral_of_notMem (List.not_mem_of_not_mem_cons h)
    have hc : c ≠ '\x7b' := fun hc => h (hc ▸ List.mem_cons_self)
    simp [isLiteral, startsTag, hrest, hc]

/-- Behind a text there is a tag or nothing. -/
theorem startsTag_tagChars : ∀ tags : List DashedTag,
    tagChars tags = [] ∨ startsTag (tagChars tags) = true
  | [] => .inl rfl
  | t :: rest => .inr (by simp [tagChars_cons, valueText, startsTag])

/-- Tags are read with the literal texts behind them, whatever dashes they carry. -/
theorem reads_tags (n : Nat) (body : Setting → Reader (List Node)) : ∀ {tags : List DashedTag},
    (∀ t ∈ tags, (Segment.tag t.name).Valid ∧ '\x7b' ∉ t.after.toList) →
      Reads (node (level (n + 1)) body .plain) (tagChars tags) (tagNodes tags) []
  | [], _ => .nil (node_nil _ _ _)
  | t :: rest, h => by
    obtain ⟨⟨hname, hafter⟩, hrest⟩ := List.forall_mem_cons.mp h
    have hblank : ∀ c ∈ [' '], isSpace c = true := List.all_eq_true.mp (by decide)
    have hnode := node_valueText body (by decide : Setting.plain ≠ .block) (n := n) t.dashes
      hname.1 hblank hblank (t.after.toList ++ tagChars rest)
    rw [String.ofList_toList] at hnode
    rw [tagChars_cons, tagNodes_cons]
    refine .cons hnode ?_ (reads_literal_append (isLiteral_of_notMem hafter)
      (startsTag_tagChars rest) (reads_tags n body hrest))
    simp only [valueText, List.cons_append, List.length_cons, List.length_append]
    omega

theorem TagRow.toList_text (r : TagRow) : r.text.toList = r.first.toList ++ tagChars r.tags := by
  rw [text, String.toList_append, String.toList_join, List.flatMap_map]
  simp [tagChars]

theorem TagRow.unshared_nodes (r : TagRow) :
    Unshared ((Segment.literal r.first).nodes ++ tagNodes r.tags) := by
  have hliteral : ∀ s, ∀ n ∈ (Segment.literal s).nodes, ∀ m ∈ n.parts, m.shares = false := by
    intro s
    by_cases hs : s.toList = [] <;> simp [Segment.nodes, hs, Node.parts, Node.shares]
  rw [Unshared, forall_mem_partsAll, List.forall_mem_append]
  refine ⟨hliteral r.first, fun n hn => ?_⟩
  obtain ⟨t, -, hn⟩ := List.mem_flatMap.mp hn
  rcases List.mem_cons.mp hn with rfl | hn
  · simp [Node.parts, Node.shares]
  · exact hliteral _ n hn

/-- A row is a template of its nodes. -/
theorem TagRow.Valid.parse_text {r : TagRow} (h : r.Valid) : parse r.text =
    .ok ⟨Node.trimAll false false ((Segment.literal r.first).nodes ++ tagNodes r.tags)⟩ := by
  refine parse_eq_ok_of_body (n := r.text.toList.length + 1) (m := 1) (Nat.lt_succ_self _) ?_
    (accepted_of_unshared r.unshared_nodes)
  rw [r.toList_text]
  exact many_of_reads (reads_literal_append (isLiteral_of_notMem h.first) (startsTag_tagChars _)
    (reads_tags _ _ h.tags))

/-! ## Rendering rows -/

/-- The texts of the values that the tags are around, or the fault of the first that has none. -/
def tagTexts (sc : Scope) : List DashedTag → Except Fault (List String)
  | [] => .ok []
  | t :: rest => do
    let v ← sc.read t.name
    let texts ← tagTexts sc rest
    pure (v.render :: texts)

/-- The values that are written do not depend on the dashes. -/
theorem tagTexts_plainTags (sc : Scope) : ∀ tags : List DashedTag,
    tagTexts sc (plainTags tags) = tagTexts sc tags
  | [] => rfl
  | t :: rest => by rw [plainTags, tagTexts, tagTexts, tagTexts_plainTags sc rest]

/-- The dash that trims the end of a text is that of the tag behind it. -/
theorem dashAhead_tagNodes (tags : List DashedTag) :
    Node.dashAhead false (tagNodes tags) = dashNext tags := by
  cases tags <;> rfl

/-- What stands in front of a tag does not matter to it. -/
theorem trimAll_tagNodes (before : Bool) (tags : List DashedTag) :
    Node.trimAll before false (tagNodes tags) = Node.trimAll false false (tagNodes tags) := by
  cases tags with
  | nil => simp [tagNodes, Node.trimAll]
  | cons t rest => simp [tagNodes_cons, Node.trimAll]

section

variable [World] {sc : Scope}

/-- Literal text in front of tags gives the text that the dashes on both sides leave of it. -/
theorem renderAll_trimAll_literal (before : Bool) (s : String) (tags : List DashedTag) :
    renderAll (Node.trimAll before false ((Segment.literal s).nodes ++ tagNodes tags)) sc =
      (renderAll (Node.trimAll false false (tagNodes tags)) sc).map fun o =>
        { o with text := stripped before (dashNext tags) s ++ o.text } := by
  by_cases hnil : s.toList = []
  · obtain rfl := String.toList_eq_nil_iff.mp hnil
    simp only [Segment.nodes, hnil, if_true, List.nil_append, trimAll_tagNodes before,
      stripped_empty]
    cases renderAll (Node.trimAll false false (tagNodes tags)) sc <;> simp [Except.map]
  · simp only [Segment.nodes, hnil, if_false, List.singleton_append, Node.trimAll,
      dashAhead_tagNodes, renderAll_text, ← toList_stripped, String.ofList_toList]

/-- Tags give the texts of their values, with the literal texts of the plain row behind them. -/
theorem renderAll_trimAll_tags : ∀ tags : List DashedTag,
    renderAll (Node.trimAll false false (tagNodes tags)) sc =
      (tagTexts sc tags).map fun texts => ⟨sc, String.join
        (List.zipWith (fun t s => s ++ t.after) (plainTags tags) texts), .next⟩
  | [] => by simp [tagNodes, Node.trimAll, renderAll_nil, tagTexts, plainTags, Except.map]
  | t :: rest => by
    have htrim : Node.trimAll false false (tagNodes (t :: rest)) =
        .value t.dashes (.mk (.path t.name) false []) ::
          Node.trimAll t.dashes.right false
            ((Segment.literal t.after).nodes ++ tagNodes rest) := by
      simp [tagNodes_cons, Node.trimAll, Node.trim, Node.dashRight]
    have hvalue := value_path sc t.name
    rw [htrim, tagTexts]
    cases hread : sc.read t.name with
    | error fault =>
      rw [hread] at hvalue
      rw [renderAll_value_error _ _ _ hvalue]
      rfl
    | ok v =>
      rw [hread] at hvalue
      rw [renderAll_value _ _ _ hvalue, renderAll_trimAll_literal, renderAll_trimAll_tags rest]
      cases tagTexts sc rest <;>
        simp [Except.map, bind, Except.bind, pure, Except.pure, plainTags, String.append_assoc]

end

/-! ## The dashes of a row -/

/-- The texts of the values are there if all names are bound, and else there is a fault. -/
theorem tagTexts_context (c : Context) : ∀ {tags : List DashedTag},
    (∀ t ∈ tags, (Segment.tag t.name).Valid) →
      (∀ t ∈ tags, (Fields.get? t.name c).isSome) ∧
          (∃ texts, tagTexts ⟨[], [], c⟩ tags = .ok texts ∧ List.Forall₂
            (fun t s => ∃ v, Fields.get? t.name c = some v ∧ v.PlainText s) tags texts) ∨
        (∃ t ∈ tags, Fields.get? t.name c = none) ∧
          ∃ fault, tagTexts ⟨[], [], c⟩ tags = .error fault
  | [], _ => .inl ⟨nofun, [], rfl, .nil⟩
  | t :: rest, h => by
    obtain ⟨ht, hrest⟩ := List.forall_mem_cons.mp h
    have hread := read_plain ht.1 ht.ne_wholeContext c
    cases hget : Fields.get? t.name c with
    | none =>
      rw [hget] at hread
      exact .inr ⟨⟨t, List.mem_cons_self, hget⟩, .unbound t.name,
        by simp only [tagTexts, hread, bind, Except.bind]⟩
    | some v =>
      rw [hget] at hread
      rcases tagTexts_context c hrest with
        ⟨hbound, texts, htexts, hsays⟩ | ⟨⟨t', ht', hnone⟩, fault, hfault⟩
      · refine .inl ⟨List.forall_mem_cons.mpr ⟨by rw [hget]; rfl, hbound⟩, v.render :: texts, ?_,
          .cons ⟨v, hget, v.plainText_render⟩ hsays⟩
        simp only [tagTexts, hread, htexts, bind, Except.bind, pure, Except.pure]
      · exact .inr ⟨⟨t', List.mem_cons_of_mem t ht', hnone⟩, fault,
          by simp only [tagTexts, hread, hfault, bind, Except.bind]⟩

/-- What a row renders as. -/
theorem render_row [World] (r : TagRow) (c : Context) :
    Template.render
        ⟨Node.trimAll false false ((Segment.literal r.first).nodes ++ tagNodes r.tags)⟩ c =
      match tagTexts ⟨[], [], c⟩ r.tags with
      | .ok texts => .ok (r.plain.filled texts)
      | .error fault => .error (.render fault) := by
  rw [Template.render, renderAll_trimAll_literal, renderAll_trimAll_tags]
  cases tagTexts ⟨[], [], c⟩ r.tags <;> rfl

/-- Dashes take blanks from the literal texts next to them and do nothing else. -/
theorem dashes_trim_literals [World] {r : TagRow} (h : r.Valid) :
    ((∀ tag ∈ r.tags, tag.dashes = ⟨false, false⟩) → r.plain = r) ∧
    ∃ t u, parse r.text = .ok t ∧ parse r.plain.text = .ok u ∧ ∀ c : Context,
      t.render c = u.render c ∧
      ((∃ s, t.render c = .ok s) ↔ ∀ tag ∈ r.tags, (Fields.get? tag.name c).isSome) ∧
      ∀ s, t.render c = .ok s → ∃ texts, s = r.plain.filled texts ∧
        List.Forall₂ (fun tag s => ∃ v, Fields.get? tag.name c = some v ∧ v.PlainText s) r.tags
          texts := by
  have htexts : ∀ sc, tagTexts sc r.plain.tags = tagTexts sc r.tags := fun sc =>
    tagTexts_plainTags sc r.tags
  refine ⟨TagRow.plain_eq_self, _, _, h.parse_text, h.plain.parse_text, fun c => ⟨?_, ?_⟩⟩
  · rw [render_row, render_row, r.plain_plain, htexts]
  · rw [render_row]
    rcases tagTexts_context c fun t ht => (h.tags t ht).1 with
      ⟨hbound, texts, hok, hsays⟩ | ⟨⟨t, ht, hnone⟩, fault, herror⟩
    · rw [hok]
      refine ⟨⟨fun _ => hbound, fun _ => ⟨_, rfl⟩⟩, fun s hs => ⟨texts, ?_, hsays⟩⟩
      exact (Except.ok.inj hs).symm
    · rw [herror]
      refine ⟨⟨nofun, fun hall => ?_⟩, nofun⟩
      simpa [hnone] using hall t ht

/-- Blanks between two tags that both ask for them, blanks that neither asks for, and the line break
at the end. -/
theorem dashes_trim_literals_between :
    ∃ t, parse "\x7b\x7b- x -\x7d\x7d \n \x7b\x7b- x \x7d\x7d \n" = .ok t ∧
      t.render [("x", .text " y ")] = .ok " y  y  \n" := by
  have hx : (Segment.tag "x").Valid :=
    ⟨⟨⟨'x', [], rfl, rfl, by simp⟩, by decide⟩, by decide⟩
  obtain ⟨-, t, _, hparse, -, hrender⟩ := dashes_trim_literals
    (r := ⟨"", [⟨⟨true, true⟩, "x", " \n "⟩, ⟨⟨true, false⟩, "x", " \n"⟩]⟩)
    ⟨by decide, by simp [hx]⟩
  obtain ⟨-, hok, htext⟩ := hrender [("x", .text " y ")]
  obtain ⟨s, hs⟩ := hok.mpr (by simp [Fields.get?])
  obtain ⟨texts, rfl, _ | ⟨⟨_, ⟨⟩, ⟨⟩⟩, _ | ⟨⟨_, ⟨⟩, ⟨⟩⟩, ⟨⟩⟩⟩⟩ := htext s hs
  exact ⟨t, hparse, hs⟩

end Template

end UserConfigs
