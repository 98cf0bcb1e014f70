import UserConfigs.Proofs.Names
import UserConfigs.Proofs.Parts
import UserConfigs.Proofs.TagReading

/-!
# Filling in the config document

The template of the config document is read as the text before its one tag, the tag, and the text
after it (`Document.template_eq`). Rendering puts the plain text of the value that the tag's name
is bound to between the two, whatever else the context binds (`Template.render_around_name`). The
plain text of a value is given by `Value.PlainText`, a rule for each kind of value. The documents
of two users differ in the line of the key pair alone (`template_fills_tag`).
-/

namespace UserConfigs

/-! ## Plain texts -/

mutual

/-- The plain text of a value : a string as it is, null as nothing, the items of an array in
brackets, an object as a placeholder. -/
inductive Value.PlainText : Value → String → Prop where
  | null : PlainText .null ""
  | yes : PlainText (.bool true) "true"
  | no : PlainText (.bool false) "false"
  | whole (n : Int) : PlainText (.number (.whole n)) (toString n)
  | float (x : Float) : PlainText (.number (.float x)) (Decimal.Layout.plain.write x)
  | text (s : String) : PlainText (.text s) s
  | array {items : List Value} {texts : List String} (h : Value.PlainTexts items texts) :
    PlainText (.array items) ("[" ++ ", ".intercalate texts ++ "]")
  | object (fields : List (String × Value)) : PlainText (.object fields) "[object]"

/-- The plain texts of values in a row. -/
inductive Value.PlainTexts : List Value → List String → Prop where
  | nil : PlainTexts [] []
  | cons {v : Value} {vs : List Value} {s : String} {ss : List String} (h : Value.PlainText v s)
    (hs : Value.PlainTexts vs ss) : PlainTexts (v :: vs) (s :: ss)

end

namespace Value

theorem renderItems_eq : ∀ items : List Value,
    renderItems items = ", ".intercalate (items.map render)
  | [] => rfl
  | [x] => by simp [renderItems]
  | x :: y :: items => by
    have ih := renderItems_eq (y :: items)
    simp only [renderItems, ih, List.map_cons, String.intercalate_cons_cons]

mutual

/-- A value is rendered as its plain text. -/
theorem plainText_render : ∀ v : Value, v.PlainText v.render
  | .null => .null
  | .bool true => .yes
  | .bool false => .no
  | .number (.whole n) => .whole n
  | .number (.float x) => .float x
  | .text s => .text s
  | .array items => by
    rw [render, renderItems_eq]
    exact .array (plainTexts_render items)
  | .object fields => .object fields

theorem plainTexts_render : ∀ items : List Value, PlainTexts items (items.map render)
  | [] => .nil
  | v :: items => .cons (plainText_render v) (plainTexts_render items)

end

end Value

namespace Template

open Reader

/-! ## Names in a context -/

/-- A plain name has no points and no brackets. -/
theorem IsPlainName.notMem {x : List Char} (hx : IsPlainName x) {d : Char}
    (hd : isNameChar d = false) : d ∉ x := by
  obtain ⟨c, cs, rfl, hc, hcs⟩ := hx.shape
  intro hmem
  rcases List.mem_cons.mp hmem with rfl | hmem
  · simp only [isNameStart, isNameChar, Char.isAlphanum, Bool.or_eq_true,
      Bool.or_eq_false_iff] at hc hd
    rcases hc with hc | hc
    · simp [hc] at hd
    · simp [hc] at hd
  · simp [hcs d hmem] at hd

theorem splitPath_of_notMem {p : List Char} (h : '.' ∉ p) :
    splitPath p = (String.ofList p, none) := by
  have hdrop : p.dropWhile (· ≠ '.') = [] := by
    rw [List.dropWhile_eq_nil_iff]
    intro c hc
    simpa using fun e : c = '.' => h (e ▸ hc)
  unfold splitPath
  rw [hdrop]

/-- Outside of loops, with nothing set, a plain name means what the context says. -/
theorem read_name {x : List Char} (hx : IsPlainName x) (hw : String.ofList x ≠ wholeContext)
    (c : Context) :
    (⟨[], [], c⟩ : Scope).read (String.ofList x) =
      match Fields.get? (String.ofList x) c with
      | some v => .ok v
      | none => .error (.unbound (String.ofList x)) := by
  have hdot : '.' ∉ x := hx.notMem (by decide)
  have hbracket : '[' ∉ x := hx.notMem (by decide)
  cases h : Fields.get? (String.ofList x) c <;>
    simp [Scope.read, hw, Scope.readWithin, hbracket, Scope.find?, findIn?,
      splitPath_of_notMem hdot, Fields.get?, h]

theorem read_plain {x : String} (hx : IsPlainName x.toList) (hw : x ≠ wholeContext) (c : Context) :
    (⟨[], [], c⟩ : Scope).read x =
      match Fields.get? x c with
      | some v => .ok v
      | none => .error (.unbound x) := by
  have hread := read_name hx (by rwa [String.ofList_toList]) c
  rwa [String.ofList_toList] at hread

/-! ## Rows of nodes -/

section Rows

variable [World] (sc : Scope) (rest : List Node)

theorem renderAll_nil : renderAll [] sc = .ok ⟨sc, "", .next⟩ := by
  simp [renderAll, nothing]

theorem renderAll_text (s : List Char) :
    renderAll (.text s :: rest) sc =
      (renderAll rest sc).map fun o => { o with text := String.ofList s ++ o.text } := by
  simp only [renderAll, Node.render, written, bind, Except.bind]
  cases renderAll rest sc <;> rfl

theorem renderAll_comment (d : Dashes) : renderAll (.comment d :: rest) sc = renderAll rest sc := by
  simp only [renderAll, Node.render, nothing, bind, Except.bind, String.empty_append]
  cases renderAll rest sc <;> rfl

theorem renderAll_raw (first : Dashes) (s : List Char) (last : Dashes) :
    renderAll (.raw first s last :: rest) sc =
      (renderAll rest sc).map fun o => { o with text := String.ofList s ++ o.text } := by
  simp only [renderAll, Node.render, written, bind, Except.bind]
  cases renderAll rest sc <;> rfl

theorem renderAll_value {e : Expr} {v : Value} (d : Dashes) (h : e.value sc = .ok v) :
    renderAll (.value d e :: rest) sc =
      (renderAll rest sc).map fun o => { o with text := v.render ++ o.text } := by
  simp only [renderAll, Node.render, h, bind, Except.bind, pure, Except.pure]
  cases renderAll rest sc <;> rfl

theorem renderAll_value_error {e : Expr} {fault : Fault} (d : Dashes)
    (h : e.value sc = .error fault) : renderAll (.value d e :: rest) sc = .error fault := by
  simp only [renderAll, Node.render, h, bind, Except.bind]

end Rows

/-- A tag without dashes takes no blanks from the text around it. -/
theorem trimAll_around_value (a b : List Char) (e : Expr) :
    Node.trimAll false false [.text a, .value ⟨false, false⟩ e, .text b] =
      [.text a, .value ⟨false, false⟩ e, .text b] := by
  simp [Node.trimAll, Node.trimText, Node.dashAhead, Node.dashLeft, Node.dashRight, Node.trim]

/-- A template with text around one tag without dashes. -/
theorem parse_around_name {x a b : List Char} (hx : IsPlainName x) (ha : isLiteral a = true)
    (ha' : a ≠ []) (hb : isLiteral b = true) (hb' : b ≠ []) {text : String}
    (htext : text.toList = a ++ (valueText ⟨false, false⟩ [' '] x [' '] ++ b)) :
    parse text = .ok ⟨[.text a, .value ⟨false, false⟩ (.mk (.path (String.ofList x)) false []),
      .text b]⟩ := by
  have hblank : ∀ c ∈ [' '], isSpace c = true := List.all_eq_true.mp (by decide)
  have hcomment : comment text.toList = none := by
    have := openTag_literal (w := "\x7b#") (by simp) ha ha'
    simp [comment, openComment, htext, this]
  have hparent : parentTag text.toList = none := by
    have := openTag_literal (w := "\x7b%") (by simp) ha ha'
    simp [parentTag, openStatement, htext, this]
  have hnodes : ∀ n body, Reads (node (level (n + 1)) body .plain) text.toList
      [.text a, .value ⟨false, false⟩ (.mk (.path (String.ofList x)) false []), .text b] [] := by
    intro n body
    rw [htext]
    have htail := node_literal (level (n + 1)) body .plain hb hb' (Or.inl rfl)
    rw [List.append_nil] at htail
    refine .cons (node_literal _ _ _ ha ha' (Or.inr ?_)) ?_
      (.cons (node_valueText body (by decide) ⟨false, false⟩ hx hblank hblank _) ?_
        (.cons htail (List.length_pos_iff.mpr hb') (.nil (node_nil _ _ _))))
    · simp [valueText, startsTag]
    · simpa using List.length_pos_iff.mpr ha'
    · simp only [valueText, List.cons_append, List.length_cons, List.length_append]
      omega
  have hread := read?_of_reads (.nil hcomment) hparent (hnodes _ _)
  have hunshared : Unshared [.text a,
      .value ⟨false, false⟩ (.mk (.path (String.ofList x)) false []), .text b] := by
    simp [Unshared, partsAll, Node.parts, Node.shares]
  exact parse_eq_ok_iff_read.mpr ⟨_, hread, accepted_of_unshared hunshared, by
    rw [List.nil_append, trimAll_around_value]⟩

section

variable [World]

/-- A path by itself has the value that it leads to. -/
theorem value_path (sc : Scope) (p : String) :
    (Expr.mk (.path p) false []).value sc = sc.read p := by
  simp only [Expr.value, Term.value, defaultValue]
  cases h : sc.read p with
  | error e => simp [assemble]
  | ok v => cases v <;> simp [assemble, settle, applyFilters, bind, Except.bind, pure, Except.pure]

/-- A template with text around one tag, whose name is bound. -/
theorem render_around_name {x : List Char} (hx : IsPlainName x)
    (hw : String.ofList x ≠ wholeContext) (d : Dashes) (a b : List Char) {c : Context}
    {v : Value} (hv : Fields.get? (String.ofList x) c = some v) :
    Template.render ⟨[.text a, .value d (.mk (.path (String.ofList x)) false []), .text b]⟩ c =
      .ok (String.ofList a ++ v.render ++ String.ofList b) := by
  have hvalue : (Expr.mk (.path (String.ofList x)) false []).value ⟨[], [], c⟩ = .ok v := by
    rw [value_path, read_name hx hw, hv]
  simp only [Template.render, renderAll_text, renderAll_value _ _ d hvalue, renderAll_nil,
    Except.map, String.append_empty, String.append_assoc]

/-- Such a template fails where the name is not bound. -/
theorem render_around_name_error {x : List Char} (hx : IsPlainName x)
    (hw : String.ofList x ≠ wholeContext) (d : Dashes) (a b : List Char) {c : Context}
    (hv : Fields.get? (String.ofList x) c = none) :
    Template.render ⟨[.text a, .value d (.mk (.path (String.ofList x)) false []), .text b]⟩ c =
      .error (.render (.unbound (String.ofList x))) := by
  have hvalue : (Expr.mk (.path (String.ofList x)) false []).value ⟨[], [], c⟩ =
      .error (.unbound (String.ofList x)) := by
    rw [value_path, read_name hx hw, hv]
  simp only [Template.render, renderAll_text, renderAll_value_error _ _ d hvalue, Except.map]

end

end Template

/-! ## The config document -/

namespace Document

open Template Reader

/-- The text of the document before its tag. -/
def opening : String :=
  "---\n" ++
  "json_rpc_url: \"https://api.devnet.solana.com\"\n" ++
  "websocket_url: \"\"\n" ++
  "keypair_path: /Users/mfrager/Build/solana/aqua-dex/js/users/"

/-- The text of the document after its tag. -/
def closing : String :=
  ".json\n" ++
  "address_labels:\n" ++
  "  \"11111111111111111111111111111111\": System Program\n" ++
  "commitment: confirmed\n"

/-- The document with a text in the place of its tag. -/
def fill (s : String) : String := opening ++ s ++ closing

theorem isPlainName_uidKey : IsPlainName uidKey.toList where
  shape := ⟨'u', ['i', 'd'], by decide, by decide, List.all_eq_true.mp (by decide)⟩
  noWord := by decide

theorem templateText_eq : templateText = fill "\x7b\x7b uid \x7d\x7d" := by rfl

theorem toList_templateText :
    templateText.toList =
      opening.toList ++ (valueText ⟨false, false⟩ [' '] uidKey.toList [' '] ++ closing.toList) := by
  have htag : "\x7b\x7b uid \x7d\x7d".toList =
      valueText ⟨false, false⟩ [' '] uidKey.toList [' '] := by rfl
  rw [templateText_eq, fill, String.toList_append, String.toList_append, htag, List.append_assoc]

theorem isLiteral_opening : isLiteral opening.toList = true := by decide +kernel

theorem isLiteral_closing : isLiteral closing.toList = true := by decide +kernel

/-- The template of the document : a text, the tag and a text. -/
theorem template_eq :
    template = .ok ⟨[.text opening.toList, .value ⟨false, false⟩ (.mk (.path uidKey) false []),
      .text closing.toList]⟩ := by
  have hopen : opening.toList ≠ [] := by simp [opening, -String.reduceToList]
  have hclose : closing.toList ≠ [] := by simp [closing, -String.reduceToList]
  have h := parse_around_name isPlainName_uidKey isLiteral_opening hopen isLiteral_closing hclose
    toList_templateText
  rwa [String.ofList_toList] at h

section

variable [World]

/-- The template in a context that binds its name. -/
theorem render_template {t : Template} (ht : template = .ok t) {c : Context} {v : Value}
    (hv : Fields.get? uidKey c = some v) : t.render c = .ok (fill v.render) := by
  rw [template_eq, Except.ok.injEq] at ht
  have h := render_around_name isPlainName_uidKey (by decide) ⟨false, false⟩ opening.toList
    closing.toList hv
  simpa only [String.ofList_toList, ← ht, fill] using h

/-- The template in a context that does not. -/
theorem render_template_error {t : Template} (ht : template = .ok t) {c : Context}
    (hv : Fields.get? uidKey c = none) : t.render c = .error (.render (.unbound uidKey)) := by
  rw [template_eq, Except.ok.injEq] at ht
  rw [← ht]
  exact render_around_name_error isPlainName_uidKey (by decide) _ _ _ hv

/-- The document of a user has the user's number in the place of the tag. It takes nothing from the
world. -/
theorem render_eq (u : Uid) : Document.render u = .ok (fill u.decimal) := by
  have hget : Fields.get? uidKey (context u) = some (.number (.whole u.toNat)) := by
    rw [context, Fields.get?_insert, if_pos rfl]
  have hdecimal : (Value.number (.whole u.toNat)).render = u.decimal := rfl
  have hbind : Document.render u = template.bind fun t => t.render (context u) := rfl
  rw [hbind, template_eq, Except.bind, render_template template_eq hget, hdecimal]

end

/-! ## Lines -/

/-- The lines of a document; the last one is empty if the document ends with a line break. -/
def lines (s : String) : List (List Char) := Text.pieces '\n' s.toList

/-- The line of the key pair, for a text in the place of the tag. -/
def keyLine (s : String) : List Char :=
  ("keypair_path: " ++ keypairDir ++ "/" ++ s ++ ".json").toList

/-- The line of the key pair holds what is in the place of the tag, and no other line does. -/
theorem lines_fill : ∃ before after, ∀ s : String, '\n' ∉ s.toList →
    lines (fill s) = before ++ keyLine s :: after := by
  obtain ⟨top, htop⟩ : ∃ top, opening = top ++ ("\n" ++ ("keypair_path: " ++ keypairDir ++ "/")) :=
    ⟨"---\n" ++ "json_rpc_url: \"https://api.devnet.solana.com\"\n" ++ "websocket_url: \"\"",
      rfl⟩
  obtain ⟨bottom, hbottom⟩ : ∃ bottom, closing = ".json" ++ ("\n" ++ bottom) :=
    ⟨"address_labels:\n" ++ "  \"11111111111111111111111111111111\": System Program\n" ++
      "commitment: confirmed\n", rfl⟩
  have hdir : '\n' ∉ keypairDir.toList := by simp [keypairDir]
  refine ⟨Text.pieces '\n' top.toList, Text.pieces '\n' bottom.toList, fun s hs => ?_⟩
  have hline : '\n' ∉ keyLine s := by simp [keyLine, hs, hdir]
  have hfill : (fill s).toList = top.toList ++ '\n' :: (keyLine s ++ '\n' :: bottom.toList) := by
    simp [fill, htop, hbottom, keyLine]
  rw [lines, hfill, Text.pieces_append_cons, Text.pieces_append_cons,
    Text.pieces_of_notMem hline, List.singleton_append]

/-- Rows that differ in one place. -/
theorem getElem?_ne_iff {α : Type} {x y : α} (hxy : x ≠ y) (before after : List α) (k : Nat) :
    (before ++ x :: after)[k]? ≠ (before ++ y :: after)[k]? ↔ k = before.length := by
  rcases Nat.lt_trichotomy k before.length with h | rfl | h
  · simp [List.getElem?_append_left h, Nat.ne_of_lt h]
  · simp [hxy]
  · obtain ⟨j, rfl⟩ := Nat.exists_eq_add_of_lt h
    rw [List.getElem?_append_right (by omega), List.getElem?_append_right (by omega),
      Nat.add_assoc, Nat.add_sub_cancel_left, List.getElem?_cons_succ, List.getElem?_cons_succ]
    simp

theorem lines_fill_decimal {u w : Uid} (h : u ≠ w) :
    (lines (fill u.decimal)).length = (lines (fill w.decimal)).length ∧
      ∃ i : Nat, (lines (fill u.decimal))[i]? = some (keyLine u.decimal) ∧
        (lines (fill w.decimal))[i]? = some (keyLine w.decimal) ∧
        ∀ k : Nat, (lines (fill u.decimal))[k]? ≠ (lines (fill w.decimal))[k]? ↔ k = i := by
  obtain ⟨before, after, hlines⟩ := lines_fill
  have hbreak : ∀ v : Uid, '\n' ∉ v.decimal.toList := fun v hv =>
    absurd (Uid.isDigit_of_mem_decimal hv) (by decide)
  have hkey : keyLine u.decimal ≠ keyLine w.decimal := fun hk => by
    simp only [keyLine, String.toList_inj, String.append_left_inj, String.append_right_inj,
      Uid.decimal_inj] at hk
    exact h hk
  rw [hlines _ (hbreak u), hlines _ (hbreak w)]
  refine ⟨by simp, before.length, by simp, by simp, getElem?_ne_iff hkey before after⟩

/-- Rendering puts the plain text of what the name is bound to in the place of the tag, and fails
if it is not bound. The documents of two users differ in the line of the key pair alone. -/
theorem template_fills_tag [World] :
    ∃ t, template = .ok t ∧ templateText = fill "\x7b\x7b uid \x7d\x7d" ∧
      (∀ (c : Context) (v : Value), Fields.get? uidKey c = some v →
        ∃ r, v.PlainText r ∧ t.render c = .ok (fill r)) ∧
      (∀ c : Context, Fields.get? uidKey c = none →
        ∃ e, t.render c = .error e ∧
          e.causes = ["Failed to render 'config.yml'",
            "Variable \x60uid\x60 not found in context while rendering 'config.yml'"]) ∧
      (∀ u : Uid, Document.render u = .ok (fill u.decimal)) ∧
      ∀ u w : Uid, u ≠ w →
        (lines (fill u.decimal)).length = (lines (fill w.decimal)).length ∧
          ∃ i : Nat, (lines (fill u.decimal))[i]? = some (keyLine u.decimal) ∧
            (lines (fill w.decimal))[i]? = some (keyLine w.decimal) ∧
            ∀ k : Nat, (lines (fill u.decimal))[k]? ≠ (lines (fill w.decimal))[k]? ↔ k = i := by
  refine ⟨_, template_eq, templateText_eq, ?_, ?_, render_eq, fun u w => lines_fill_decimal⟩
  · intro c v hv
    exact ⟨v.render, v.plainText_render, render_template template_eq hv⟩
  · intro c hc
    exact ⟨_, render_template_error template_eq hc, by decide +kernel⟩

/-- A text with braces and a line break is not read again. -/
theorem template_fills_tag_braces :
    (∃ t, template = .ok t ∧
        t.render [(uidKey, .text "\x7b\x7b uid \x7d\x7d\n")] =
          .ok (fill "\x7b\x7b uid \x7d\x7d\n") ∧
        ∃ e, t.render [] = .error e ∧ e.causes.length = 2) ∧
      ∃ k : Nat, (lines (fill (Uid.decimal 1)))[k]? ≠ (lines (fill (Uid.decimal 2)))[k]? := by
  obtain ⟨t, ht, -, hbound, hunbound, -, hlines⟩ := template_fills_tag
  obtain ⟨r, hr, htext⟩ := hbound [(uidKey, .text "\x7b\x7b uid \x7d\x7d\n")] _ rfl
  obtain ⟨e, he, hcauses⟩ := hunbound [] rfl
  obtain ⟨-, i, -, -, hdiffer⟩ := hlines 1 2 (by decide)
  cases hr
  exact ⟨⟨t, ht, htext, e, he, by rw [hcauses]; rfl⟩, i, (hdiffer i).mpr rfl⟩

end Document

end UserConfigs
