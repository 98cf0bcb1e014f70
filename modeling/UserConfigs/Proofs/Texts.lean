import UserConfigs.Config.Read
import UserConfigs.Proofs.Ascending
import UserConfigs.Proofs.Letters

/-!
# Where the texts of a config come from

Whatever is known of the scalars of a text is known of the texts of the config that is read from it
(`Config.says_of_read`) : the events of a document have the texts of its tokens or no text at all
(`Document.itemsSay_read`), aliases and all, and a config has the texts of the events.
-/

namespace UserConfigs

namespace Yaml

variable {P : List Char → Prop}

/-- What an event says, if it is a scalar, is such that `P`. -/
def Event.Says {α : Type} (P : List Char → Prop) : Event α → Prop
  | .scalar _ text _ => P text
  | _ => True

/-- What tokens say is such that `P`. -/
def TokensSay (P : List Char → Prop) (tokens : List Token) : Prop := ∀ t ∈ tokens, t.sign.Says P

/-- What holds of tokens holds of those that are left. -/
theorem TokensSay.of_suffix {tokens rest : List Token} (h : TokensSay P tokens)
    (hrest : rest <:+ tokens) : TokensSay P rest :=
  fun t ht => h t (hrest.subset ht)

theorem TokensSay.tail {t : Token} {rest : List Token} (h : TokensSay P (t :: rest)) :
    TokensSay P rest :=
  h.of_suffix (List.suffix_cons t rest)

/-- What items say is such that `P`. -/
def ItemsSay {α : Type} (P : List Char → Prop) (items : List (Item α)) : Prop :=
  ∀ i ∈ items, i.event.Says P

/-! ## Goals -/

/-- What reading a goal gave says what it has to, as do the tokens that it left. -/
structure Progress.Says (P : List Char → Prop) (p : Progress) : Prop where
  item : ItemsSay P p.item.toList
  tokens : TokensSay P p.tokens

/-- A goal that leads to other goals says nothing itself. -/
theorem Progress.Says.ofGoals {goals : List Goal} {tokens : List Token} (hs : TokensSay P tokens) :
    Progress.Says P ⟨none, goals, tokens⟩ :=
  ⟨by simp [ItemsSay], hs⟩

/-- A goal that gives an event says what the event says. -/
theorem Progress.Says.ofItem {i : Item (List Char)} {goals : List Goal} {tokens : List Token}
    (hi : i.event.Says P) (hs : TokensSay P tokens) : Progress.Says P ⟨some i, goals, tokens⟩ :=
  ⟨by simpa [ItemsSay] using hi, hs⟩

namespace Goal

/-! ### Tokens that are passed over -/

/-- The tag and the anchor of a value are passed over. -/
theorem properties_suffix {tokens rest : List Token} {p : Properties}
    (h : properties tokens = .ok (p, rest)) : rest <:+ tokens := by
  unfold properties at h
  split at h
  · simp at h
  all_goals
    obtain ⟨-, rfl⟩ := Prod.mk.inj (Except.ok.inj h)
  · exact (List.suffix_cons _ _).trans (List.suffix_cons _ _)
  · exact (List.suffix_cons _ _).trans (List.suffix_cons _ _)
  · exact List.suffix_cons _ _
  · exact List.suffix_cons _ _
  · exact List.suffix_refl _

/-- The directives in front of a document are passed over. -/
theorem directives_suffix : ∀ {version : Bool} {handles handles' : Handles}
    {tokens rest : List Token}, directives version handles tokens = .ok (handles', rest) →
      rest <:+ tokens
  | _, _, _, [], _, h => by simp [directives] at h
  | version, handles, handles', t :: tokens, rest, h => by
    unfold directives at h
    split at h
    · split at h
      · simp at h
      · split at h
        · exact (directives_suffix h).trans (List.suffix_cons t tokens)
        · simp at h
    · split at h
      · simp at h
      · exact (directives_suffix h).trans (List.suffix_cons t tokens)
    · obtain ⟨-, rfl⟩ := Prod.mk.inj (Except.ok.inj h)
      exact List.suffix_refl _

/-- The comma between two entries is passed over. -/
theorem pastComma_suffix {first : Bool} {flaw : Problem} {tokens rest : List Token}
    (h : pastComma first flaw tokens = .ok rest) : rest <:+ tokens := by
  unfold pastComma at h
  split at h
  · simp at h
  · split at h
    · exact Except.ok.inj h ▸ List.suffix_refl _
    · split at h
      · exact Except.ok.inj h ▸ List.suffix_cons _ _
      · simp at h

section

variable (hnil : P []) {tokens : List Token} (hs : TokensSay P tokens)
include hnil hs

/-! ### Values -/

/-- A value that is missing is an empty text. -/
theorem gives_valueUnless {ends : List Sign} {m : Mark} {node : Goal} {goals : List Goal} :
    Gives (valueUnless ends m node goals tokens) (Progress.Says P) := by
  unfold valueUnless
  split
  · exact gives_error none
  · split
    · exact gives_ok (.ofItem hnil hs)
    · exact gives_ok (.ofGoals hs)

/-- A value behind its tag and anchor. A scalar says what its token says. -/
theorem gives_valueAfter {block indentless : Bool} {q : Properties} {tag : Option (List Char)}
    {t : Token} (ht : t.sign.Says P) :
    Gives (valueAfter block indentless q tag t tokens) (Progress.Says P) := by
  have hall : TokensSay P (t :: tokens) := List.forall_mem_cons.mpr ⟨ht, hs⟩
  unfold valueAfter
  split
  · next heq =>
    rw [heq] at ht
    exact gives_ok (.ofItem ht hs)
  · exact gives_ok (.ofItem trivial hs)
  · exact gives_ok (.ofItem trivial hs)
  · split
    · exact gives_ok (.ofItem trivial hall)
    · split
      · exact gives_ok (.ofItem trivial hs)
      · split
        · exact gives_ok (.ofItem trivial hs)
        · split
          · exact gives_ok (.ofItem hnil hall)
          · exact gives_error _

/-- A value, with a tag and an anchor or without. -/
theorem gives_value {handles : Handles} {block indentless : Bool} :
    Gives (value handles block indentless tokens) (Progress.Says P) := by
  unfold value
  split
  · exact gives_ok (.ofItem trivial hs.tail)
  · split
    · exact gives_error _
    · exact gives_error none
    · next hq =>
      obtain ⟨ht, hrest⟩ := List.forall_mem_cons.mp (hs.of_suffix (properties_suffix hq))
      split
      · exact gives_error _
      · exact gives_valueAfter hnil hrest ht

/-! ### Entries -/

/-- The entries of a block, each behind a dash. -/
theorem gives_stepBlockEntries {since : Mark} :
    Gives (stepBlockEntries since tokens) (Progress.Says P) := by
  unfold stepBlockEntries
  split
  · exact gives_error none
  · split
    · exact gives_valueUnless hnil hs.tail
    · exact gives_ok (.ofItem trivial hs.tail)
    · exact gives_error _

theorem gives_stepIndentless : Gives (stepIndentless tokens) (Progress.Says P) := by
  unfold stepIndentless
  split
  · exact gives_error none
  · split
    · exact gives_valueUnless hnil hs.tail
    · exact gives_ok (.ofItem trivial hs)

/-- The keys of a block. -/
theorem gives_stepBlockKeys {since : Mark} :
    Gives (stepBlockKeys since tokens) (Progress.Says P) := by
  unfold stepBlockKeys
  split
  · exact gives_error none
  · split
    · exact gives_valueUnless hnil hs.tail
    · exact gives_ok (.ofItem trivial hs.tail)
    · exact gives_error _

/-- The value of a key in a block, which may be missing. -/
theorem gives_stepBlockValue : Gives (stepBlockValue tokens) (Progress.Says P) := by
  unfold stepBlockValue
  split
  · exact gives_error none
  · split
    · exact gives_valueUnless hnil hs.tail
    · exact gives_ok (.ofItem hnil hs)

omit hnil in
/-- The entries between brackets. -/
theorem gives_stepFlowEntries {first : Bool} {since : Mark} :
    Gives (stepFlowEntries first since tokens) (Progress.Says P) := by
  unfold stepFlowEntries
  split
  · exact gives_error none
  · split
    · exact gives_ok (.ofItem trivial hs.tail)
    · split
      · exact gives_error _
      · exact gives_error none
      · next hcomma =>
        have hrest := hs.of_suffix (pastComma_suffix hcomma)
        split
        · exact gives_ok (.ofItem trivial hrest.tail)
        · exact gives_ok (.ofItem trivial hrest.tail)
        · exact gives_ok (.ofGoals hrest)

theorem gives_stepPairKey : Gives (stepPairKey tokens) (Progress.Says P) := by
  unfold stepPairKey
  split
  · exact gives_error none
  · split
    · exact gives_ok (.ofItem hnil hs.tail)
    · exact gives_ok (.ofGoals hs)

/-- The value of a key between brackets or braces, which may be missing. -/
theorem gives_stepFlowValue {ends : List Sign} :
    Gives (stepFlowValue ends tokens) (Progress.Says P) := by
  unfold stepFlowValue
  split
  · exact gives_error none
  · split
    · split
      · exact gives_error none
      · exact gives_valueUnless hnil hs.tail
    · exact gives_ok (.ofItem hnil hs)

/-- The keys between braces. -/
theorem gives_stepFlowKeys {first : Bool} {since : Mark} :
    Gives (stepFlowKeys first since tokens) (Progress.Says P) := by
  unfold stepFlowKeys
  split
  · exact gives_error none
  · split
    · exact gives_ok (.ofItem trivial hs.tail)
    · split
      · exact gives_error _
      · exact gives_error none
      · next hcomma =>
        have hrest := hs.of_suffix (pastComma_suffix hcomma)
        split
        · exact gives_error none
        · exact gives_valueUnless hnil hrest.tail
        · exact gives_ok (.ofItem trivial hrest.tail)
        · exact gives_ok (.ofGoals hrest)

/-! ### Documents -/

omit hnil in
/-- The start of a document, with or without directives. -/
theorem gives_stepDocument : Gives (stepDocument tokens) fun r => r.2.Says P := by
  unfold stepDocument
  split
  · exact gives_error none
  · split
    · exact gives_ok (.ofItem trivial hs)
    -- The three signs that come before a document all have the directives read.
    iterate 3
      · split
        · exact gives_error _
        · exact gives_error none
        · next h =>
          have hrest := hs.of_suffix (directives_suffix h)
          split
          · exact gives_ok (.ofGoals hrest.tail)
          · exact gives_error _
    · exact gives_ok (.ofGoals hs)

/-- A document without content is an empty text. -/
theorem gives_stepContent : Gives (stepContent tokens) (Progress.Says P) := by
  unfold stepContent
  split
  · exact gives_error none
  · split
    all_goals first
      | exact gives_ok (.ofItem hnil hs)
      | exact gives_ok (.ofGoals hs)

/-- A goal says nothing but what the tokens say. -/
theorem gives_step {handles : Handles} (goal : Goal) :
    Gives (goal.step handles tokens) fun r => r.2.Says P := by
  cases goal with
  | document => exact gives_stepDocument hs
  | content => exact (gives_stepContent hnil hs).map fun _ h => h
  | node block indentless => exact (gives_value hnil hs).map fun _ h => h
  | blockEntries since => exact (gives_stepBlockEntries hnil hs).map fun _ h => h
  | indentlessEntries => exact (gives_stepIndentless hnil hs).map fun _ h => h
  | blockKeys since => exact (gives_stepBlockKeys hnil hs).map fun _ h => h
  | blockValue => exact (gives_stepBlockValue hnil hs).map fun _ h => h
  | flowEntries first since => exact (gives_stepFlowEntries hs).map fun _ h => h
  | pairKey => exact (gives_stepPairKey hnil hs).map fun _ h => h
  | pairValue | flowValue => exact (gives_stepFlowValue hnil hs).map fun _ h => h
  | flowKeys first since => exact (gives_stepFlowKeys hnil hs).map fun _ h => h
  | pairEnd =>
    cases tokens with
    | nil => exact gives_error none
    | cons t rest => exact gives_ok (.ofItem trivial hs)
  | noValue =>
    cases tokens with
    | nil => exact gives_error none
    | cons t rest => exact gives_ok (.ofItem hnil hs)

end

end Goal

/-! ## Documents -/

theorem ItemsSay.append {α : Type} {items more : List (Item α)} (h : ItemsSay P items)
    (hmore : ItemsSay P more) : ItemsSay P (items ++ more) :=
  fun i hi => (List.mem_append.mp hi).elim (h i) (hmore i)

theorem ItemsSay.of_suffix {α : Type} {items rest : List (Item α)} (h : ItemsSay P items)
    (hrest : rest <:+ items) : ItemsSay P rest :=
  fun i hi => h i (hrest.subset hi)

theorem ItemsSay.tail {α : Type} {i : Item α} {rest : List (Item α)}
    (h : ItemsSay P (i :: rest)) : ItemsSay P rest :=
  h.of_suffix (List.suffix_cons i rest)

/-- Goals, one after the other, say nothing but what the tokens say. -/
theorem Reading.itemsSay_run (hnil : P []) : ∀ (fuel : Nat) {handles : Handles}
    {goals : List Goal} {tokens : List Token}, TokensSay P tokens →
      ItemsSay P (Reading.run fuel handles goals tokens).items
  | 0, _, _, _, _ => nofun
  | _ + 1, _, [], _, _ => nofun
  | fuel + 1, handles, goal :: goals, tokens, hs => by
    unfold Reading.run
    split
    · nofun
    · next h =>
      have hp := Goal.gives_step hnil hs goal _ h
      exact hp.item.append (itemsSay_run hnil fuel hp.tokens)

/-- An alias has no text, so it does not matter where it leads. -/
theorem Event.Says.of_mapAlias {α β : Type} {f : α → Option β} {e : Event α} {e' : Event β}
    (h : e.Says P) (he : e.mapAlias f = some e') : e'.Says P := by
  cases e with
  | scalar tag text style =>
    rw [← Option.some.inj he]
    exact h
  | aliasOf target =>
    obtain ⟨place, -, rfl⟩ := Option.map_eq_some_iff.mp he
    trivial
  | void | sequenceStart | sequenceEnd | mappingStart | mappingEnd =>
    rw [← Option.some.inj he]
    trivial

/-- The events up to an alias that leads nowhere. -/
theorem itemsSay_numberAliases : ∀ {items : List (Item (List Char))} (a : Anchors) (place : Nat),
    ItemsSay P items → ItemsSay P (numberAliases a place items).1
  | [], _, _, _ => nofun
  | item :: rest, a, place, h => by
    unfold numberAliases
    split
    · nofun
    · next he =>
      exact List.forall_mem_cons.mpr ⟨(h item List.mem_cons_self).of_mapAlias he,
        itemsSay_numberAliases _ _ h.tail⟩

theorem says_locate (a : Anchors) {item : Item Nat} (h : item.event.Says P) :
    (item.locate a).event.Says P := by
  unfold Item.locate
  cases he : item.event.mapAlias (a.places.lookup ·) with
  | none => exact h
  | some event => exact h.of_mapAlias he

namespace Document

/-- The events of a document. They are those of its goals, whatever the problem behind them. -/
theorem itemsSay_ofTokens (hnil : P []) {tokens : List Token} (hs : TokensSay P tokens)
    (problem : Option Problem) : ItemsSay P (ofTokens tokens problem).items := by
  have hitems : ItemsSay P (Reading.ofTokens tokens).items :=
    Reading.itemsSay_run hnil _ (hs.of_suffix (List.drop_suffix 1 tokens))
  have hlocated : ∀ a : Anchors, ItemsSay P
      ((numberAliases ⟨[], []⟩ 0 (Reading.ofTokens tokens).items).1.map (·.locate a)) := by
    intro a i hi
    obtain ⟨j, hj, rfl⟩ := List.mem_map.mp hi
    exact says_locate a (itemsSay_numberAliases _ _ hitems j hj)
  unfold ofTokens
  simp only
  split
  · exact hlocated _
  · exact hlocated _
  · exact hlocated _
  · split
    · exact hlocated _
    · exact hlocated _

/-- The first document of a text says nothing but what the tokens of the text say. -/
theorem itemsSay_read (hnil : P []) {s : List Char} (hs : TokensSay P (Token.scan s).1) :
    ItemsSay P (read s).items :=
  itemsSay_ofTokens hnil hs _

end Document

end Yaml

/-! ## Configs -/

namespace Config

open Yaml (Item Mark ItemsSay TokensSay)

variable {P : List Char → Prop}

/-- What labels say, and the addresses that they are for, is such that `P`. -/
def LabelsSay (P : List Char → Prop) (labels : Fields String) : Prop :=
  ∀ f ∈ labels, P f.1.toList ∧ P f.2.toList

/-- What a config says is such that `P`. -/
structure Says (P : List Char → Prop) (c : Config) : Prop where
  jsonRpcUrl : P c.jsonRpcUrl.toList
  websocketUrl : P c.websocketUrl.toList
  keypairPath : P c.keypairPath.toList
  addressLabels : LabelsSay P c.addressLabels
  commitment : P c.commitment.toList

/-- What the fields read so far say is such that `P`. -/
structure Draft.Says (P : List Char → Prop) (d : Draft) : Prop where
  jsonRpcUrl : ∀ s ∈ d.jsonRpcUrl, P s.toList
  websocketUrl : ∀ s ∈ d.websocketUrl, P s.toList
  keypairPath : ∀ s ∈ d.keypairPath, P s.toList
  addressLabels : ∀ l ∈ d.addressLabels, LabelsSay P l
  commitment : ∀ s ∈ d.commitment, P s.toList

namespace Draft

theorem says_empty : empty.Says P := ⟨nofun, nofun, nofun, nofun, nofun⟩

/-- A field is set to a text that was read. -/
theorem Says.setText {d : Draft} (h : d.Says P) {s : String} (hs : P s.toList) (field : Field) :
    (d.setText s field).Says P := by
  have hsome : ∀ t ∈ some s, P t.toList := fun t ht => Option.some.inj ht ▸ hs
  cases field
  case jsonRpcUrl => exact { h with jsonRpcUrl := hsome }
  case websocketUrl => exact { h with websocketUrl := hsome }
  case keypairPath => exact { h with keypairPath := hsome }
  case addressLabels => exact h
  case commitment => exact { h with commitment := hsome }

/-- A config has the texts of its fields. -/
theorem Says.finish {d : Draft} (h : d.Says P) : Gives d.finish (Config.Says P) := by
  obtain ⟨a, b, c, l, e⟩ := d
  unfold Draft.finish
  split
  · next ha hb hc hl he =>
    exact gives_ok ⟨h.jsonRpcUrl _ ha, h.websocketUrl _ hb, h.keypairPath _ hc,
      h.addressLabels _ hl, h.commitment _ he⟩
  all_goals exact gives_error _

end Draft

/-- The value of an unknown field is passed over, whatever is in it. -/
theorem suffix_of_skip? {depth : Nat} {items rest : List (Item Nat)}
    (h : skip? depth items = some rest) : rest <:+ items := by
  induction items generalizing depth with
  | nil => simp [skip?] at h
  | cons item items ih =>
    have hcons := List.suffix_cons item items
    have hrest : (if depth ≤ 1 then some items else skip? (depth - 1) items) = some rest ∨
        (if depth = 0 then some items else skip? depth items) = some rest → rest <:+ items := by
      rintro (h | h)
      all_goals
        split at h
        · exact Option.some.inj h ▸ List.suffix_refl _
        · exact ih h
    unfold skip? at h
    split at h
    · exact (ih h).trans hcons
    · exact (ih h).trans hcons
    · exact (hrest (.inl h)).trans hcons
    · exact (hrest (.inl h)).trans hcons
    · exact (hrest (.inr h)).trans hcons

section

variable {doc : Yaml.Document} (hdoc : ItemsSay P doc.items) {items : List (Item Nat)}
  (hitems : ItemsSay P items)
include hdoc hitems

/-- An alias leads to events of the document. -/
theorem itemsSay_target : ItemsSay P (target doc items) := by
  unfold target
  split
  · exact hdoc.of_suffix (List.drop_suffix _ _)
  · exact hitems

/-- A text where one is wanted. -/
theorem gives_text {wanted : Wanted} {path : Path} :
    Gives (text doc wanted path items) fun s => P s.toList := by
  have htarget := itemsSay_target hdoc hitems
  unfold text
  split
  · exact gives_error _
  · next item _ heq =>
    rw [heq] at htarget
    have hitem := htarget item List.mem_cons_self
    split
    · next hevent =>
      rw [hevent] at hitem
      exact gives_ok (by rwa [String.toList_ofList])
    · exact gives_error _

/-- The labels of a mapping, by the recursion of the function. -/
theorem gives_labelsFrom {path : Path} {labels : Fields String} (hlabels : LabelsSay P labels) :
    Gives (labelsFrom doc path labels items) fun r => LabelsSay P r.1 ∧ ItemsSay P r.2 := by
  fun_induction labelsFrom doc path labels items with
  | case1 | case3 | case4 | case5 => exact gives_error _
  | case2 labels key rest => exact gives_ok ⟨hlabels, hitems.tail⟩
  | case6 labels key _ address haddress value rest label hlabel ih =>
    have hkey : ItemsSay P [key] := List.forall_mem_singleton.mpr (hitems key List.mem_cons_self)
    have hvalue : ItemsSay P [value] :=
      List.forall_mem_singleton.mpr (hitems.tail value List.mem_cons_self)
    refine ih hitems.tail.tail fun f hf => ?_
    rcases Fields.mem_insert hf with rfl | hf
    · exact ⟨gives_text hdoc hkey address haddress, gives_text hdoc hvalue label hlabel⟩
    · exact hlabels f hf

/-- What is inside a mapping is a part of the document. -/
theorem itemsSay_shape {wanted : Wanted} {path : Path} {inner : List (Item Nat)} {m : Mark}
    (h : shape doc wanted path items = .ok (.mapping inner, m)) : ItemsSay P inner := by
  have htarget := itemsSay_target hdoc hitems
  unfold shape at h
  split at h
  · simp at h
  · next heq =>
    rw [heq] at htarget
    split at h
    · obtain ⟨⟨rfl⟩, -⟩ := Prod.mk.inj (Except.ok.inj h)
      exact htarget.tail
    all_goals simp at h

theorem gives_labels {path : Path} :
    Gives (labels doc path items) fun r => LabelsSay P r.1 ∧ ItemsSay P r.2 := by
  have hrest : ItemsSay P (items.drop 1) := hitems.of_suffix (List.drop_suffix 1 items)
  have hnone : LabelsSay P [] := nofun
  unfold labels
  split
  · exact gives_labelsFrom hdoc hitems.tail hnone
  · split
    · exact gives_error _
    · exact gives_ok ⟨hnone, hrest⟩
    · next hshape =>
      have hinner := itemsSay_shape hdoc hitems hshape
      split
      · exact gives_error _
      · next hl => exact gives_ok ⟨(gives_labelsFrom hdoc hinner hnone _ hl).1, hrest⟩

/-- One field. It is unknown, or the labels, or a text. -/
theorem gives_entry {start : Mark} {draft : Draft} (hdraft : draft.Says P) {key : Item Nat} :
    Gives (entry doc start draft key items) fun r => r.1.Says P ∧ ItemsSay P r.2 := by
  have hrest : ItemsSay P (items.drop 1) := hitems.of_suffix (List.drop_suffix 1 items)
  unfold entry
  split
  · exact gives_error _
  · split
    · split
      · exact gives_error _
      · next hskip => exact gives_ok ⟨hdraft, hitems.of_suffix (suffix_of_skip? hskip)⟩
    · split
      · exact gives_error _
      · split
        · split
          · exact gives_error _
          · next hl =>
            obtain ⟨hlabels, hrest⟩ := gives_labels hdoc hitems _ hl
            exact gives_ok ⟨{ hdraft with
              addressLabels := fun _ hl => Option.some.inj hl ▸ hlabels }, hrest⟩
        · split
          · exact gives_error _
          · next htext => exact gives_ok ⟨hdraft.setText (gives_text hdoc hitems _ htext) _, hrest⟩

/-- All fields, by the recursion of the function. -/
theorem gives_entriesFrom {start : Mark} {draft : Draft} (hdraft : draft.Says P) :
    Gives (entriesFrom doc start draft items) (Draft.Says P) := by
  fun_induction entriesFrom doc start draft items with
  | case1 | case3 => exact gives_error _
  | case2 => exact gives_ok hdraft
  | case4 draft key rest _ new rest' h _ ih =>
    obtain ⟨hnew, hrest⟩ := gives_entry hdoc hitems.tail hdraft _ h
    exact ih hrest hnew

end

theorem gives_ofItems {doc : Yaml.Document} (hdoc : ItemsSay P doc.items) :
    Gives (ofItems doc) (Says P) := by
  unfold ofItems
  split
  · exact gives_error _
  · next shape start hshape =>
    simp only
    split
    · exact gives_error _
    · next draft hdraft =>
      have hfields : draft.Says P := by
        cases shape with
        | mapping items =>
          have hinner := itemsSay_shape hdoc hdoc hshape
          exact gives_entriesFrom hdoc hinner Draft.says_empty _ hdraft
        | nothing => exact Except.ok.inj hdraft ▸ Draft.says_empty
      split
      · next hconfig => exact gives_ok (hfields.finish _ hconfig)
      · exact gives_error _

/-- The config of a document, if there is one document and no more. -/
theorem gives_ofDocument {doc : Yaml.Document} (hdoc : ItemsSay P doc.items) :
    Gives (ofDocument doc) (Says P) := by
  unfold ofDocument
  split
  · exact gives_error _
  · next hconfig =>
    split
    · exact gives_error _
    · split
      · exact gives_error _
      · exact gives_ok (gives_ofItems hdoc _ hconfig)

/-- A config says nothing but what the tokens of the text say, and no text at all. -/
theorem says_of_read (hnil : P []) {s : String} (hs : TokensSay P (Yaml.Token.scan s.toList).1)
    {c : Config} (h : read s = .ok c) : c.Says P :=
  gives_ofDocument (Yaml.Document.itemsSay_read hnil hs) c h

end Config

end UserConfigs
