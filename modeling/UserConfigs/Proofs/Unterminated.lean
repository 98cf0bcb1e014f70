import UserConfigs.Proofs.Segments
import UserConfigs.Proofs.Sources

/-!
# Tags without an end

A tag that is opened is closed or the template is refused. Whatever is read between the two signs,
quotes and brackets and further tags included, the readers of it leave an end of the text that they
get (`Leaves`), and so the closing sign that is read at last stands in what follows the opening one
(`Shuts`). No rule for a node starts at a sign without reading its closing sign (`shuts_node`), and
literal text stops in front of every sign, so the body of the template ends there and the text does
not. The text in front of the sign is a template by itself (`render_literal`).
-/

namespace UserConfigs.Template

open Reader

/-! ## Kinds of tags -/

/-- The kinds of tags by their signs. -/
inductive TagKind where
  | value
  | statement
  | comment
  deriving DecidableEq

namespace TagKind

/-- The sign that starts a tag. -/
def opening : TagKind → String
  | value => "\x7b\x7b"
  | statement => "\x7b%"
  | comment => "\x7b#"

/-- The sign that ends a tag. -/
def closing : TagKind → String
  | value => "\x7d\x7d"
  | statement => "%\x7d"
  | comment => "#\x7d"

theorem startsTag_opening (k : TagKind) (b : List Char) :
    startsTag (k.opening.toList ++ b) = true := by
  cases k <;> simp [opening, startsTag]

theorem opening_ne_nil (k : TagKind) (b : List Char) : k.opening.toList ++ b ≠ [] := by
  cases k <;> simp [opening]

end TagKind

/-! ## Readers that leave an end of the text -/

/-- The reader takes its text off the front. -/
def Leaves {α : Type} (p : Reader α) : Prop := ∀ ⦃s a r⦄, p s = some (a, r) → r <:+ s

/-- The reader reads only texts with the sign in them. -/
def Meets {α : Type} (w : String) (p : Reader α) : Prop :=
  ∀ ⦃s x⦄, p s = some x → w.toList <:+: s

/-- The reader starts with the sign of a kind of tag. -/
def Opening {α : Type} (k : TagKind) (p : Reader α) : Prop :=
  ∀ ⦃k' b a r⦄, p (k'.opening.toList ++ b) = some (a, r) → k = k' ∧ r <:+ b

/-- Where the reader starts with the sign of a tag, the closing sign of its kind follows. -/
def Shuts {α : Type} (p : Reader α) : Prop :=
  ∀ ⦃k : TagKind⦄ ⦃b x⦄, p (k.opening.toList ++ b) = some x → k.closing.toList <:+: b

section

variable {α β : Type} {p q : Reader α} {f : α → Reader β} {w : String} {k : TagKind}

/-- The readers of expressions take their texts off the front. -/
theorem leaves_of_twin {taking : Bool} {G : List Char → α → Prop}
    (h : ∀ S, Twin S [] 0 taking p q (G S)) : Leaves p := fun s a r hp => by
  obtain ⟨-, v, -, -, rfl⟩ := (h s).takes (List.suffix_refl s) hp
  exact List.suffix_append v r

/-- Blanks are taken off the front. -/
theorem leaves_gap : Leaves gap := leaves_of_twin fun _ => Twin.gap

theorem leaves_name : Leaves name := leaves_of_twin fun _ => Twin.name

theorem leaves_exact (hw : w.toList ≠ [] ∧ w.toList.all isPassed = true) : Leaves (exact w) :=
  leaves_of_twin fun _ => Twin.exact hw

namespace Meets

theorem bind (h : Meets w p) (f : α → Reader β) : Meets w (p >>= f) := fun _ x hx => by
  obtain ⟨_, _⟩ := x
  obtain ⟨_, _, ha, -⟩ := bind_eq_some hx
  exact h ha

/-- A text up to a sign has the sign behind it. -/
theorem upTo (h : Meets w p) : Meets w (upTo p)
  | [], _, hx => by simp [Reader.upTo] at hx
  | c :: s, _, hx => by
    rw [Reader.upTo] at hx
    cases hp : p (c :: s) with
    | some y => exact h hp
    | none =>
      rw [hp] at hx
      obtain ⟨y, hy, -⟩ := Option.map_eq_some_iff.mp hx
      exact (upTo h hy).trans (List.suffix_cons c s).isInfix

end Meets

/-- What is met behind a reader that leaves an end of the text. -/
theorem Leaves.meets (h : Leaves p) (hf : ∀ a, Meets w (f a)) : Meets w (p >>= f) :=
  fun _ x hx => by
    obtain ⟨_, _⟩ := x
    obtain ⟨a, _, ha, hb⟩ := bind_eq_some hx
    exact (hf a hb).trans (h ha).isInfix

/-- The end of a tag has the closing sign in it, with or without a dash. -/
theorem meets_closeTag (w : String) : Meets w (closeTag w) := fun _ x h => by
  obtain ⟨dash, r⟩ := x
  rw [eq_of_closeTag h]
  exact List.infix_append' _ _ _

namespace Opening

theorem bind (h : Opening k p) (hf : ∀ a, Leaves (f a)) : Opening k (p >>= f) :=
  fun _ _ _ _ hx => by
    obtain ⟨a, _, ha, hb⟩ := bind_eq_some hx
    exact (h ha).imp_right (hf a hb).trans

/-- A tag that is read up to its closing sign. -/
theorem shuts (h : Opening k p) (hf : ∀ a, Meets k.closing (f a)) : Shuts (p >>= f) :=
  fun _ _ x hx => by
    obtain ⟨_, _⟩ := x
    obtain ⟨a, _, ha, hb⟩ := bind_eq_some hx
    obtain ⟨rfl, hsuffix⟩ := h ha
    exact (hf a hb).trans hsuffix.isInfix

end Opening

/-- The start of a tag is read at the sign of its kind only. -/
theorem opening_openTag (k : TagKind) : Opening k (openTag k.opening) := fun k' _ _ _ h => by
  have hlength : k'.opening.toList.length = k.opening.toList.length := by
    cases k <;> cases k' <;> simp [TagKind.opening]
  obtain ⟨hsign, rfl⟩ := List.append_inj (eq_of_openTag h) hlength
  refine ⟨?_, List.suffix_append _ _⟩
  cases k <;> cases k' <;> simp_all [TagKind.opening]

namespace Shuts

/-- Without the closing sign nothing is read. -/
theorem eq_none (h : Shuts p) {b : List Char} (hb : ¬k.closing.toList <:+: b) :
    p (k.opening.toList ++ b) = none :=
  Option.eq_none_iff_forall_ne_some.mpr fun _ hx => hb (h hx)

theorem bind (h : Shuts p) (f : α → Reader β) : Shuts (p >>= f) := fun _ _ x hx => by
  obtain ⟨_, _⟩ := x
  obtain ⟨_, _, ha, -⟩ := bind_eq_some hx
  exact h ha

theorem map (h : Shuts p) (f : α → β) : Shuts (f <$> p) := fun _ _ _ hx => by
  rw [map_apply, Option.map_eq_some_iff] at hx
  obtain ⟨_, ha, -⟩ := hx
  exact h ha

theorem orElse (h : Shuts p) (h' : Shuts q) : Shuts (p <|> q) := fun _ _ _ hx => by
  rw [orElse_apply] at hx
  rcases Option.or_eq_some_iff.mp hx with hx | ⟨-, hx⟩
  · exact h hx
  · exact h' hx

theorem failure : Shuts (failure : Reader α) := fun _ _ _ hx => nomatch hx

end Shuts

end

/-! ## The rules for nodes -/

/-- A statement with more behind its first word. -/
theorem opening_openWord {w : String} (hw : w.toList ≠ [] ∧ w.toList.all isPassed = true) :
    Opening .statement (openWord w) :=
  (opening_openTag .statement).bind fun _ => leaves_of_twin fun _ => Twin.gap.bind fun _ _ =>
    (Twin.exact hw).loose.bind fun _ _ => Twin.space.loose.bind fun _ _ =>
      .pure (G := fun _ => True) trivial

theorem meets_closeWord : Meets TagKind.statement.closing closeWord :=
  leaves_gap.meets fun _ => meets_closeTag _

/-- A statement of one word. -/
theorem shuts_wordTag {w : String} (hw : w.toList ≠ [] ∧ w.toList.all isPassed = true) :
    Shuts (wordTag w) :=
  (opening_openTag .statement).shuts fun _ => leaves_gap.meets fun _ =>
    (leaves_exact hw).meets fun _ => leaves_gap.meets fun _ => (meets_closeTag _).bind _

/-- A comment goes up to its closing sign. -/
theorem shuts_comment : Shuts comment :=
  (opening_openTag .comment).shuts fun _ => (meets_closeTag _).upTo.bind _

/-- The names of templates are in quotes, which are closed. -/
theorem shuts_insertTag : Shuts insertTag := by
  have hnames : Leaves (List.singleton <$> templateName <|> templateNames) :=
    leaves_of_twin fun _ => (Twin.templateName.map fun _ _ => trivial).orElse Twin.templateNames
  have hmissing : Leaves (given (exact "ignore missing")) :=
    leaves_of_twin fun _ => (Twin.exact (by decide)).given
  exact (opening_openWord (by decide)).shuts fun _ => hnames.meets fun _ =>
    leaves_gap.meets fun _ => hmissing.meets fun _ => meets_closeWord.bind _

theorem shuts_loadTag : Shuts loadTag := by
  have htemplate : Leaves templateName := leaves_of_twin fun _ => Twin.templateName
  have hspace : Leaves space := leaves_of_twin fun _ => Twin.space
  exact (opening_openWord (by decide)).shuts fun _ => htemplate.meets fun _ =>
    hspace.meets fun _ => (leaves_exact (by decide)).meets fun _ => hspace.meets fun _ =>
      leaves_name.meets fun _ => meets_closeWord.bind _

/-- The tag that names a parent stands in front of the template, so it is no node. -/
theorem shuts_parentTag : Shuts parentTag := by
  have hname : Leaves templateName := leaves_of_twin fun _ => Twin.templateName
  exact (opening_openTag .statement).shuts fun _ => leaves_gap.meets fun _ =>
    (leaves_exact (by decide)).meets fun _ => leaves_gap.meets fun _ => hname.meets fun _ =>
      leaves_gap.meets fun _ => (meets_closeTag _).bind _

/-- Literal text stops in front of every sign. -/
theorem shuts_literal : Shuts literal := fun k b x h => by
  rw [literal, literalRun_of_startsTag (k.startsTag_opening b)] at h
  simp at h

section

variable (n : Nat) (body : Setting → Reader (List Node)) (place : Setting)

/-- What a level takes does not depend on the texts in which it reads alike. -/
theorem levelTwin_zero (S : List Char) : LevelTwin S [] 0 (level n) (level n) :=
  levelTwin (Nat.zero_le n) (Nat.zero_le n)

/-- An expression takes its text off the front, however deep it is. -/
theorem leaves_value : Leaves (level n).value :=
  leaves_of_twin fun S => (levelTwin_zero n S).value

theorem leaves_filter : Leaves (level n).filter :=
  leaves_of_twin fun S => (levelTwin_zero n S).filter.mono (Nat.zero_le _) fun _ h => h

theorem leaves_loopContainer : Leaves (loopContainer (level n)) :=
  leaves_of_twin fun S => ((levelTwin_zero n S).sumFiltered.orElse
    (levelTwin_zero n S).arrayFiltered).mono (Nat.zero_le _) fun _ h => h

/-- What stands in a tag around a value, the call for the replaced block included. -/
theorem leaves_superCall_or_value :
    Leaves ((if place = .block then (do superCall; pure none) else failure) <|>
      some <$> (level n).value : Reader (Option Expr)) :=
  leaves_of_twin (G := fun _ _ => True) fun S =>
    (Twin.ite (Twin.superCall.andThen fun _ _ => .pure trivial) .failure).orElse
      ((levelTwin_zero n S).value.map fun _ _ => trivial)

/-- A tag around a value, with the closing sign of values. -/
theorem shuts_valueTag : Shuts (valueTag (level n) place) :=
  (opening_openTag .value).shuts fun _ => leaves_gap.meets fun _ =>
    (leaves_superCall_or_value n place).meets fun _ => leaves_gap.meets fun _ =>
      (meets_closeTag _).bind _

theorem shuts_assignTag {w : String} (hw : w.toList ≠ [] ∧ w.toList.all isPassed = true)
    (global : Bool) : Shuts (assignTag (level n) w global) :=
  (opening_openWord hw).shuts fun _ => leaves_name.meets fun _ => leaves_gap.meets fun _ =>
    (leaves_exact (by decide)).meets fun _ => leaves_gap.meets fun _ =>
      (leaves_value n).meets fun _ => meets_closeWord.bind _

/-- Of a section the first tag is closed. Its body need not be looked at. -/
theorem shuts_blockSection : Shuts (blockSection body) :=
  (opening_openWord (by decide)).shuts fun _ => leaves_name.meets fun _ => meets_closeWord.bind _

theorem shuts_defineSection : Shuts (defineSection body) := by
  have hparameters : Leaves (maybe parameters) := leaves_of_twin fun _ => Twin.parameters.maybe
  exact (opening_openWord (by decide)).shuts fun _ => leaves_name.meets fun _ =>
    leaves_gap.meets fun _ => (leaves_exact (by decide)).meets fun _ => leaves_gap.meets fun _ =>
      hparameters.meets fun _ => leaves_gap.meets fun _ => (leaves_exact (by decide)).meets fun _ =>
        meets_closeWord.bind _

theorem shuts_filterSection : Shuts (filterSection (level n) body) :=
  (opening_openWord (by decide)).shuts fun _ => (leaves_filter n).meets fun _ =>
    meets_closeWord.bind _

/-- The first tag of a loop has most in it that could pass over a sign. -/
theorem shuts_loopSection : Shuts (loopSection (level n) body) := by
  have hkey : Leaves (maybe do exact ","; gap; name) :=
    leaves_of_twin fun _ => ((Twin.exact (by decide)).andThen fun _ _ =>
      Twin.gap.bind fun _ _ => Twin.name.loose).maybe
  have hspace : Leaves space := leaves_of_twin fun _ => Twin.space
  exact (opening_openWord (by decide)).shuts fun _ => leaves_name.meets fun _ =>
    hkey.meets fun _ => hspace.meets fun _ => (leaves_exact (by decide)).meets fun _ =>
      hspace.meets fun _ => (leaves_loopContainer n).meets fun _ => meets_closeWord.bind _

theorem shuts_armOf {w : String} (hw : w.toList ≠ [] ∧ w.toList.all isPassed = true) :
    Shuts (armOf (level n) body w place) :=
  (opening_openWord hw).shuts fun _ => (leaves_value n).meets fun _ => meets_closeWord.bind _

/-- The tags `break` and `continue`. -/
theorem shuts_leaveTag : Shuts leaveTag :=
  ((shuts_wordTag (by decide)).map _).orElse ((shuts_wordTag (by decide)).map _)

/-- No node starts with the sign of a tag that is not closed. -/
theorem shuts_node : Shuts (node (level n) body place) := by
  have hleave : Shuts (if place = .loop then leaveTag else failure) := by
    split
    · exact shuts_leaveTag
    · exact .failure
  have hset : Shuts (assignTag (level n) "set" false) := shuts_assignTag n (by decide) false
  have hglobal : Shuts (assignTag (level n) "set_global" true) :=
    shuts_assignTag n (by decide) true
  have hbranch : Shuts (branchSection (level n) body place) :=
    (shuts_armOf n body place (by decide)).bind _
  -- the first of the two tags around raw text is closed, whatever stands behind it
  have hraw : Shuts rawText := (shuts_wordTag (by decide)).bind _
  exact shuts_insertTag.orElse <| shuts_loadTag.orElse <| (shuts_valueTag n place).orElse <|
    shuts_comment.orElse <| hset.orElse <| hglobal.orElse <| (shuts_defineSection body).orElse <|
    (shuts_blockSection body).orElse <| hbranch.orElse <| (shuts_loopSection n body).orElse <|
    (shuts_filterSection n body).orElse <| hleave.orElse <| hraw.orElse shuts_literal

end

/-! ## Whole templates -/

section

variable {a : String} (ha : isLiteral a.toList = true) {k : TagKind} {b : List Char}
  (hb : ¬k.closing.toList <:+: b)
include ha hb

/-- A body ends at the sign of a tag that is not closed. -/
theorem many_node_opening (n : Nat) (body : Setting → Reader (List Node)) :
    many (node (level n) body .plain) (a.toList ++ (k.opening.toList ++ b)) =
      some ((Segment.literal a).nodes, k.opening.toList ++ b) := by
  have hreads := reads_literal_append ha (.inr (k.startsTag_opening b))
    (.nil ((shuts_node n body .plain).eq_none hb))
  rw [many_of_reads hreads, List.append_nil]

/-- Neither a comment nor the name of a parent stands in front of such a text. -/
theorem front_opening : comment (a.toList ++ (k.opening.toList ++ b)) = none ∧
    parentTag (a.toList ++ (k.opening.toList ++ b)) = none := by
  by_cases hnil : a.toList = []
  · rw [hnil, List.nil_append]
    exact ⟨shuts_comment.eq_none hb, shuts_parentTag.eq_none hb⟩
  · have hopen := fun w hw => openTag_literal (w := w) hw ha hnil (k.opening.toList ++ b)
    exact ⟨bind_eq_none (hopen "\x7b#" (by simp)) _, bind_eq_none (hopen "\x7b%" (by simp)) _⟩

end

/-- A tag of any kind that is not closed makes the template malformed. -/
theorem parse_opening {a : String} (ha : isLiteral a.toList = true) (k : TagKind) {b : String}
    (hb : ¬k.closing.toList <:+: b.toList) : parse (a ++ k.opening ++ b) = .error .malformed := by
  have htext : (a ++ k.opening ++ b).toList = a.toList ++ (k.opening.toList ++ b.toList) := by
    simp
  obtain ⟨hcomment, hparent⟩ := front_opening ha hb
  have hend : atEnd (k.opening.toList ++ b.toList) = none := by
    obtain ⟨c, s, hrest⟩ := List.exists_cons_of_ne_nil (k.opening_ne_nil b.toList)
    rw [hrest, atEnd]
  have hsource : ∀ n, source (n + 1) (a ++ k.opening ++ b).toList = none := fun n => by
    simp only [htext, source, bind_apply, many_of_none hcomment, maybe_apply, hparent,
      Option.map_none, Option.none_or, bodyWithin, many_node_opening ha hb, hend, Option.bind_some,
      Option.bind_none]
  rw [parse, Source.read?, hsource, Option.map_none]

/-- Literal text is a template of itself. -/
theorem render_literal [World] {a : String} (ha : (Segment.literal a).Valid) :
    ∃ t, parse a = .ok t ∧ ∀ c : Context, t.render c = .ok a := by
  have hlayout : Layout [.literal a] := ⟨List.forall_mem_singleton.mpr ha, .singleton _⟩
  have hparse := parse_source hlayout (by simp)
  have htext : String.join ([Segment.literal a].map Segment.source) = a := by
    simp [Segment.source]
  rw [htext] at hparse
  refine ⟨_, hparse, fun c => ?_⟩
  obtain ⟨_, ⟨⟩, hrender⟩ := exists_piece (c := c) ha (by simp)
  rw [Template.render, List.flatMap_cons, List.flatMap_nil, hrender, renderAll_nil]
  simp [Except.map]

/-- Text without signs is a template of itself, but with a tag behind it that is opened and not
closed it is none, whatever follows. -/
theorem parse_unterminated [World] {a : String} (ha : (Segment.literal a).Valid) (b : String) :
    (∃ t, parse a = .ok t ∧ ∀ c : Context, t.render c = .ok a) ∧
      (¬"\x7d\x7d".toList <:+: b.toList →
        parse (a ++ "\x7b\x7b" ++ b) = .error .malformed) ∧
      (¬"%\x7d".toList <:+: b.toList → parse (a ++ "\x7b%" ++ b) = .error .malformed) ∧
      (¬"#\x7d".toList <:+: b.toList → parse (a ++ "\x7b#" ++ b) = .error .malformed) :=
  ⟨render_literal ha, parse_opening ha.isLiteral .value, parse_opening ha.isLiteral .statement,
    parse_opening ha.isLiteral .comment⟩

/-- Quotes, single signs and the start of a further tag. -/
theorem parse_unterminated_quoted :
    (Segment.literal "$\x7d ").Valid ∧ (∃ t, parse "$\x7d " = .ok t) ∧
      parse ("$\x7d " ++ "\x7b\x7b" ++ "-\x22\x7d %\x22 \x7b\x7b uid") = .error .malformed ∧
      parse ("$\x7d " ++ "\x7b%" ++ "-\x22\x7d %\x22 \x7b\x7b uid") = .error .malformed ∧
      parse ("$\x7d " ++ "\x7b#" ++ "-\x22\x7d %\x22 \x7b\x7b uid") = .error .malformed := by
  have ha : (Segment.literal "$\x7d ").Valid := by
    refine ⟨?_, by decide⟩
    simp only [Segment.signs, List.forall_mem_cons]
    exact ⟨by decide, by decide, by decide, by simp⟩
  obtain ⟨⟨t, ht, -⟩, hvalue, hstatement, hcomment⟩ :=
    parse_unterminated ha "-\x22\x7d %\x22 \x7b\x7b uid"
  refine ⟨ha, ⟨t, ht⟩, hvalue ?_, hstatement ?_, hcomment ?_⟩ <;>
    simp [List.infix_cons_iff, List.cons_prefix_cons]

end UserConfigs.Template
