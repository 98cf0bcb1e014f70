import UserConfigs.Yaml.Document

/-!
# The events of nested mappings

A `Tree` is what a document without sequences, anchors and tags says : scalars, mappings of trees in
blocks, and mappings of texts in braces. The tokens with its signs (`Tree.signs`) are read as its
events (`Tree.events`), wherever the tokens stand in the text (`reaches_tree`). A text with nothing
but a tree, perhaps behind a line that starts a document, has one document without a failure
(`Document.ofTokens_tree`).
-/

namespace UserConfigs.Yaml

/-! ## Trees -/

/-- Scalars, mappings of trees in blocks, and mappings of texts between double quotes in braces. -/
inductive Tree where
  | scalar (text : List Char) (style : Style)
  | mapping (entries : List (Tree × Tree))
  | braces (pairs : List (List Char × List Char))

namespace Tree

/-- The signs of a key and a value between double quotes. -/
def pairSigns (pair : List Char × List Char) : List Sign :=
  [.key, .scalar pair.1 .doubleQuoted, .value, .scalar pair.2 .doubleQuoted]

/-- The signs of more pairs up to the last brace. -/
def restSigns : List (List Char × List Char) → List Sign
  | [] => [.flowMappingEnd]
  | pair :: pairs => .flowEntry :: (pairSigns pair ++ restSigns pairs)

/-- The signs of the pairs between braces, and of the last brace. -/
def bracesSigns : List (List Char × List Char) → List Sign
  | [] => [.flowMappingEnd]
  | pair :: pairs => pairSigns pair ++ restSigns pairs

mutual

/-- The signs of a tree. -/
def signs : Tree → List Sign
  | scalar text style => [.scalar text style]
  | mapping entries => .blockMappingStart :: (entrySigns entries ++ [.blockEnd])
  | braces pairs => .flowMappingStart :: bracesSigns pairs

/-- The signs of the entries of a mapping. -/
def entrySigns : List (Tree × Tree) → List Sign
  | [] => []
  | (k, v) :: entries => .key :: (k.signs ++ .value :: (v.signs ++ entrySigns entries))

end

/-- The events of a key and a value between double quotes. -/
def pairEvents (pair : List Char × List Char) : List (Event Empty) :=
  [.scalar none pair.1 .doubleQuoted, .scalar none pair.2 .doubleQuoted]

mutual

/-- The events of a tree, none of which is an alias. -/
def events : Tree → List (Event Empty)
  | scalar text style => [.scalar none text style]
  | mapping entries => .mappingStart :: (entryEvents entries ++ [.mappingEnd])
  | braces pairs => .mappingStart :: (pairs.flatMap pairEvents ++ [.mappingEnd])

/-- The events of the entries of a mapping. -/
def entryEvents : List (Tree × Tree) → List (Event Empty)
  | [] => []
  | (k, v) :: entries => k.events ++ (v.events ++ entryEvents entries)

end

/-- A tree starts with a sign that ends nothing. -/
theorem signs_eq_cons (t : Tree) : ∃ sign signs, t.signs = sign :: signs ∧
    sign ∉ [Sign.key, .value, .blockEnd] := by
  cases t with
  | scalar text style => exact ⟨_, _, by rw [signs], by simp⟩
  | mapping entries => exact ⟨_, _, by rw [signs], by simp⟩
  | braces pairs => exact ⟨_, _, by rw [signs], by simp⟩

end Tree

/-! ## Items without aliases -/

/-- An event that is no alias, among events that may be. -/
def Event.lift {α : Type} (e : Event Empty) : Event α :=
  match e with
  | void => void
  | aliasOf target => target.elim
  | scalar tag text style => scalar tag text style
  | sequenceStart => sequenceStart
  | sequenceEnd => sequenceEnd
  | mappingStart => mappingStart
  | mappingEnd => mappingEnd

theorem Event.mapAlias_lift {α β : Type} (f : α → Option β) (e : Event Empty) :
    (e.lift : Event α).mapAlias f = some e.lift := by
  cases e with
  | aliasOf target => exact target.elim
  | _ => rfl

/-- Items with some events, which are no aliases. -/
def Spell {α : Type} (items : List (Item α)) (events : List (Event Empty)) : Prop :=
  items.map Item.event = events.map Event.lift

section

variable {α : Type} {items items' : List (Item α)} {events events' : List (Event Empty)}

theorem Spell.nil : Spell ([] : List (Item α)) [] := rfl

theorem Spell.cons {i : Item α} {e : Event Empty} (hi : i.event = e.lift) (h : Spell items events) :
    Spell (i :: items) (e :: events) := by
  rw [Spell, List.map_cons, List.map_cons, hi, h]

theorem Spell.append (h : Spell items events) (h' : Spell items' events') :
    Spell (items ++ items') (events ++ events') := by
  rw [Spell, List.map_append, List.map_append, h, h']

theorem Spell.exists_cons {e : Event Empty} (h : Spell items (e :: events)) :
    ∃ i rest, items = i :: rest ∧ i.event = e.lift ∧ Spell rest events := by
  obtain ⟨i, rest, hitems, hi, hrest⟩ := List.map_eq_cons_iff.mp h
  exact ⟨i, rest, hitems, hi, hrest⟩

end

/-! ## Reading goals -/

/-- Reading goals for a while gives some items, in as many steps as told. -/
inductive Reaches (handles : Handles) :
    Nat → List Goal → List Token → List (Item (List Char)) → List Goal → List Token → Prop where
  | nil (goals : List Goal) (tokens : List Token) : Reaches handles 0 goals tokens [] goals tokens
  | cons {n : Nat} {goal : Goal} {goals goals' : List Goal} {tokens tokens' : List Token}
    {items : List (Item (List Char))} {p : Progress}
    (hp : goal.step handles tokens = .ok (handles, p))
    (h : Reaches handles n (p.goals ++ goals) p.tokens items goals' tokens') :
    Reaches handles (n + 1) (goal :: goals) tokens (p.item.toList ++ items) goals' tokens'

theorem Reaches.trans {handles : Handles} {a b : Nat} {goals goals' goals'' : List Goal}
    {tokens tokens' tokens'' : List Token} {items items' : List (Item (List Char))}
    (h : Reaches handles a goals tokens items goals' tokens')
    (h' : Reaches handles b goals' tokens' items' goals'' tokens'') :
    Reaches handles (a + b) goals tokens (items ++ items') goals'' tokens'' := by
  induction h with
  | nil goals tokens => rwa [Nat.zero_add]
  | cons hp _ ih =>
    rw [Nat.add_right_comm, List.append_assoc]
    exact .cons hp (ih h')

theorem Reading.run_of_reaches {handles : Handles} {n : Nat} {goals goals' : List Goal}
    {tokens tokens' : List Token} {items : List (Item (List Char))}
    (h : Reaches handles n goals tokens items goals' tokens') (fuel : Nat) :
    run (n + fuel) handles goals tokens =
      { run fuel handles goals' tokens' with
        items := items ++ (run fuel handles goals' tokens').items } := by
  induction h with
  | nil goals tokens => rw [Nat.zero_add]; rfl
  | cons hp _ ih =>
    rw [Nat.add_right_comm, run, hp]
    simp only [ih, List.append_assoc]

/-! ## Reading trees -/

namespace Goal

theorem value_mapping (handles : Handles) (indentless : Bool) (start stop : Mark)
    (rest : List Token) :
    value handles true indentless (⟨.blockMappingStart, start, stop⟩ :: rest) =
      .ok ⟨some ⟨.mappingStart, none, start⟩, [.blockKeys start], rest⟩ := by
  simp [value, properties, fullTag, valueAfter, Properties.event]

/-- A value follows that starts with a sign that ends nothing. -/
theorem valueUnless_tree (t : Tree) {tokens : List Token} (h : tokens.map Token.sign = t.signs)
    (m : Mark) (node : Goal) (goals : List Goal) (rest : List Token) :
    valueUnless [.key, .value, .blockEnd] m node goals (tokens ++ rest) =
      .ok ⟨none, node :: goals, tokens ++ rest⟩ := by
  obtain ⟨sign, signs, hsigns, hsign⟩ := t.signs_eq_cons
  rw [hsigns] at h
  obtain ⟨u, us, rfl, hu, -⟩ := List.map_eq_cons_iff.mp h
  rw [List.cons_append, valueUnless, hu, if_neg hsign]

end Goal

section

variable (handles : Handles)

/-! ### Pairs in braces -/

/-- The tokens of a pair are read as its events, once the sign of the key was passed. -/
theorem reaches_pair {pair : List Char × List Char} {tokens : List Token}
    (h : tokens.map Token.sign = Tree.pairSigns pair) :
    ∃ a b c d rest items,
      tokens = ⟨.key, a, b⟩ :: ⟨.scalar pair.1 .doubleQuoted, c, d⟩ :: rest ∧
        Spell items (Tree.pairEvents pair) ∧ ∀ (goals : List Goal) (after : List Token),
          Reaches handles 3 (.flowNode :: .flowValue :: goals)
            (⟨.scalar pair.1 .doubleQuoted, c, d⟩ :: (rest ++ after)) items goals after := by
  obtain ⟨⟨_, a, b⟩, afterSign, rfl, rfl, hkey⟩ := List.map_eq_cons_iff.mp h
  obtain ⟨⟨_, c, d⟩, afterKey, rfl, rfl, hcolon⟩ := List.map_eq_cons_iff.mp hkey
  obtain ⟨⟨_, _, _⟩, afterColon, rfl, rfl, hvalue⟩ := List.map_eq_cons_iff.mp hcolon
  obtain ⟨⟨_, start, _⟩, afterValue, rfl, rfl, hnone⟩ := List.map_eq_cons_iff.mp hvalue
  obtain rfl := List.map_eq_nil_iff.mp hnone
  refine ⟨a, b, c, d, _, [⟨.scalar none pair.1 .doubleQuoted, none, c⟩,
    ⟨.scalar none pair.2 .doubleQuoted, none, start⟩], rfl, .cons rfl (.cons rfl .nil), ?_⟩
  intro goals after
  refine .cons (p := ⟨some _, [], _⟩) rfl ?_
  refine .cons (p := ⟨none, [.flowNode], _⟩) rfl ?_
  exact .cons (p := ⟨some _, [], _⟩) rfl (.nil goals after)

/-- More pairs up to the last brace. -/
theorem reaches_rest : ∀ (pairs : List (List Char × List Char)) {tokens : List Token},
    tokens.map Token.sign = Tree.restSigns pairs →
      ∃ n ≤ tokens.length, ∃ items, Spell items (pairs.flatMap Tree.pairEvents ++ [.mappingEnd]) ∧
        ∀ (since : Mark) (goals : List Goal) (rest : List Token),
          Reaches handles n (.flowKeys false since :: goals) (tokens ++ rest) items goals rest
  | [], tokens, h => by
    obtain ⟨⟨_, start, stop⟩, us, rfl, rfl, hus⟩ := List.map_eq_cons_iff.mp h
    obtain rfl := List.map_eq_nil_iff.mp hus
    refine ⟨1, Nat.le_refl 1, [.at start .mappingEnd], .cons rfl .nil, fun since goals rest => ?_⟩
    exact .cons (p := ⟨some _, [], rest⟩) rfl (.nil goals rest)
  | pair :: pairs, tokens, h => by
    obtain ⟨⟨_, a, b⟩, afterComma, rfl, rfl, hcomma⟩ := List.map_eq_cons_iff.mp h
    obtain ⟨ps, qs, rfl, hps, hqs⟩ := List.map_eq_append_iff.mp hcomma
    obtain ⟨c, d, e, f, us, pairItems, rfl, hpair, hreachPair⟩ := reaches_pair handles hps
    obtain ⟨n, hn, items, hitems, hreach⟩ := reaches_rest pairs hqs
    refine ⟨3 + n + 1, ?_, pairItems ++ items, ?_, fun since goals rest => ?_⟩
    · have hlength := congrArg List.length hps
      simp only [List.length_map, List.length_cons, Tree.pairSigns, List.length_nil] at hlength
      simp only [List.length_cons, List.length_append]
      omega
    · rw [List.flatMap_cons, List.append_assoc]
      exact hpair.append hitems
    · simp only [List.cons_append, List.append_assoc]
      exact .cons (p := ⟨none, [.flowNode, .flowValue, .flowKeys false since], _⟩) rfl
        ((hreachPair _ _).trans (hreach since goals rest))

/-- The pairs between braces. -/
theorem reaches_braces (pairs : List (List Char × List Char)) {tokens : List Token}
    (h : tokens.map Token.sign = Tree.bracesSigns pairs) :
    ∃ n ≤ tokens.length, ∃ items, Spell items (pairs.flatMap Tree.pairEvents ++ [.mappingEnd]) ∧
      ∀ (since : Mark) (goals : List Goal) (rest : List Token),
        Reaches handles n (.flowKeys true since :: goals) (tokens ++ rest) items goals rest := by
  cases pairs with
  | nil =>
    obtain ⟨⟨_, start, stop⟩, us, rfl, rfl, hus⟩ := List.map_eq_cons_iff.mp h
    obtain rfl := List.map_eq_nil_iff.mp hus
    refine ⟨1, Nat.le_refl 1, [.at start .mappingEnd], .cons rfl .nil, fun since goals rest => ?_⟩
    exact .cons (p := ⟨some _, [], rest⟩) rfl (.nil goals rest)
  | cons pair pairs =>
    obtain ⟨ps, qs, rfl, hps, hqs⟩ := List.map_eq_append_iff.mp h
    obtain ⟨a, b, c, d, us, pairItems, rfl, hpair, hreachPair⟩ := reaches_pair handles hps
    obtain ⟨n, hn, items, hitems, hreach⟩ := reaches_rest handles pairs hqs
    refine ⟨3 + n + 1, ?_, pairItems ++ items, ?_, fun since goals rest => ?_⟩
    · have hlength := congrArg List.length hps
      simp only [List.length_map, List.length_cons, Tree.pairSigns, List.length_nil] at hlength
      simp only [List.length_cons, List.length_append]
      omega
    · rw [List.flatMap_cons, List.append_assoc]
      exact hpair.append hitems
    · simp only [List.cons_append, List.append_assoc]
      exact .cons (p := ⟨none, [.flowNode, .flowValue, .flowKeys false since], _⟩) rfl
        ((hreachPair _ _).trans (hreach since goals rest))

/-! ### Trees in blocks -/

mutual

/-- The tokens of a tree are read as its events. -/
theorem reaches_tree : ∀ (t : Tree) {tokens : List Token}, tokens.map Token.sign = t.signs →
    ∃ n ≤ tokens.length, ∃ items, Spell items t.events ∧
      ∀ (indentless : Bool) (goals : List Goal) (rest : List Token),
        Reaches handles n (.node true indentless :: goals) (tokens ++ rest) items goals rest
  | .scalar text style, tokens, h => by
    rw [Tree.signs] at h
    obtain ⟨⟨_, start, stop⟩, us, rfl, rfl, hus⟩ := List.map_eq_cons_iff.mp h
    obtain rfl := List.map_eq_nil_iff.mp hus
    refine ⟨1, Nat.le_refl 1, [⟨.scalar none text style, none, start⟩], ?_, ?_⟩
    · rw [Tree.events]
      exact .cons rfl .nil
    · intro indentless goals rest
      exact .cons (p := ⟨some _, [], rest⟩) rfl (.nil goals rest)
  | .mapping entries, tokens, h => by
    rw [Tree.signs] at h
    obtain ⟨⟨_, start, stop⟩, us, rfl, rfl, hus⟩ := List.map_eq_cons_iff.mp h
    obtain ⟨n, hn, items, hitems, hreaches⟩ := reaches_entries entries hus start
    refine ⟨n + 1, Nat.succ_le_succ hn, ⟨.mappingStart, none, start⟩ :: items, ?_, ?_⟩
    · rw [Tree.events]
      exact .cons rfl hitems
    · intro indentless goals rest
      have hstep := Goal.value_mapping handles indentless start stop (us ++ rest)
      exact .cons (p := ⟨some _, [.blockKeys start], us ++ rest⟩)
        (by rw [Goal.step, List.cons_append, hstep]; rfl) (hreaches goals rest)

  | .braces pairs, tokens, h => by
    rw [Tree.signs] at h
    obtain ⟨⟨_, start, stop⟩, us, rfl, rfl, hus⟩ := List.map_eq_cons_iff.mp h
    obtain ⟨n, hn, items, hitems, hreaches⟩ := reaches_braces handles pairs hus
    refine ⟨n + 1, Nat.succ_le_succ hn, ⟨.mappingStart, none, start⟩ :: items, ?_, ?_⟩
    · rw [Tree.events]
      exact .cons rfl hitems
    · intro indentless goals rest
      exact .cons (p := ⟨some _, [.flowKeys true start], us ++ rest⟩) rfl
        (hreaches start goals rest)

/-- The tokens of the entries of a mapping are read as their events. -/
theorem reaches_entries : ∀ (entries : List (Tree × Tree)) {tokens : List Token},
    tokens.map Token.sign = Tree.entrySigns entries ++ [.blockEnd] → ∀ since : Mark,
      ∃ n ≤ tokens.length, ∃ items, Spell items (Tree.entryEvents entries ++ [.mappingEnd]) ∧
        ∀ (goals : List Goal) (rest : List Token),
          Reaches handles n (.blockKeys since :: goals) (tokens ++ rest) items goals rest
  | [], tokens, h, since => by
    obtain ⟨⟨_, start, stop⟩, us, rfl, rfl, hus⟩ := List.map_eq_cons_iff.mp h
    obtain rfl := List.map_eq_nil_iff.mp hus
    refine ⟨1, Nat.le_refl 1, [.at start .mappingEnd], .cons rfl .nil, fun goals rest => ?_⟩
    exact .cons (p := ⟨some _, [], rest⟩) rfl (.nil goals rest)
  | (k, v) :: entries, tokens, h, since => by
    rw [Tree.entrySigns, List.cons_append, List.append_assoc, List.cons_append,
      List.append_assoc] at h
    obtain ⟨⟨_, a, b⟩, afterKey, rfl, rfl, hkeys⟩ := List.map_eq_cons_iff.mp h
    obtain ⟨ks, afterKeys, rfl, hks, hvalues⟩ := List.map_eq_append_iff.mp hkeys
    obtain ⟨⟨_, c, d⟩, afterValue, rfl, rfl, hrest⟩ := List.map_eq_cons_iff.mp hvalues
    obtain ⟨vs, es, rfl, hvs, hes⟩ := List.map_eq_append_iff.mp hrest
    obtain ⟨l, hl, keyItems, hkey, hreachKey⟩ := reaches_tree k hks
    obtain ⟨m, hm, valueItems, hvalue, hreachValue⟩ := reaches_tree v hvs
    obtain ⟨n, hn, items, hitems, hreaches⟩ := reaches_entries entries hes since
    refine ⟨l + (m + n + 1) + 1, ?_, keyItems ++ (valueItems ++ items), ?_, fun goals rest => ?_⟩
    · simp only [List.length_cons, List.length_append]
      omega
    · rw [Tree.entryEvents, List.append_assoc, List.append_assoc]
      exact hkey.append (hvalue.append hitems)
    · have hstepKey : (Goal.blockKeys since).step handles
          (⟨.key, a, b⟩ :: (ks ++ (⟨.value, c, d⟩ :: (vs ++ es) ++ rest))) =
            .ok (handles, ⟨none, [.node true true, .blockValue, .blockKeys since],
              ks ++ (⟨.value, c, d⟩ :: (vs ++ es) ++ rest)⟩) := by
        rw [Goal.step, Goal.stepBlockKeys]
        simp only [Goal.valueUnless_tree k hks]
        rfl
      have hstepValue : Goal.blockValue.step handles (⟨.value, c, d⟩ :: (vs ++ (es ++ rest))) =
            .ok (handles, ⟨none, [.node true true], vs ++ (es ++ rest)⟩) := by
        rw [Goal.step, Goal.stepBlockValue, if_pos rfl, Goal.valueUnless_tree v hvs]
        rfl
      have hafterKey : Reaches handles (m + n + 1) (.blockValue :: .blockKeys since :: goals)
          (⟨.value, c, d⟩ :: (vs ++ (es ++ rest))) (valueItems ++ items) goals rest :=
        .cons hstepValue ((hreachValue true _ _).trans (hreaches goals rest))
      rw [List.cons_append, List.append_assoc]
      refine .cons hstepKey ((hreachKey true _ _).trans ?_)
      rwa [List.cons_append, List.append_assoc]

end

end

/-! ## Documents -/

/-- The signs up to the end of a tree, perhaps with the sign that starts a document. -/
def Tree.openSigns (marked : Bool) (t : Tree) : List Sign :=
  .streamStart :: ((if marked then [.documentStart] else []) ++ t.signs)

/-- The signs of a document that is a tree, perhaps with the sign that starts a document. -/
def Tree.documentSigns (marked : Bool) (t : Tree) : List Sign :=
  .streamStart :: ((if marked then [.documentStart] else []) ++ (t.signs ++ [.streamEnd]))

theorem Tree.documentSigns_eq (marked : Bool) (t : Tree) :
    t.documentSigns marked = t.openSigns marked ++ [.streamEnd] := by
  simp [documentSigns, openSigns]

section

variable (t : Tree) {tokens : List Token} (h : tokens.map Token.sign = t.signs)
include h

/-- A document may start with a value. -/
theorem Goal.step_document (rest : List Token) :
    Goal.document.step [] (tokens ++ rest) =
      .ok (Handles.standard, ⟨none, [.node true false], tokens ++ rest⟩) := by
  cases t with
  | scalar text style | mapping entries | braces pairs =>
    rw [Tree.signs] at h
    obtain ⟨⟨_, a, b⟩, us, rfl, rfl, -⟩ := List.map_eq_cons_iff.mp h
    rfl

/-- After the start sign of a document comes a value. -/
theorem Goal.step_content (handles : Handles) (rest : List Token) :
    Goal.content.step handles (tokens ++ rest) =
      .ok (handles, ⟨none, [.node true false], tokens ++ rest⟩) := by
  cases t with
  | scalar text style | mapping entries | braces pairs =>
    rw [Tree.signs] at h
    obtain ⟨⟨_, a, b⟩, us, rfl, rfl, -⟩ := List.map_eq_cons_iff.mp h
    rfl

/-- The value of a document, whatever follows it. -/
theorem Reading.run_tree (rest : List Token) :
    ∃ items, Spell items t.events ∧ ∀ fuel, tokens.length < fuel →
      run fuel Handles.standard [.node true false] (tokens ++ rest) = ⟨items, none, rest⟩ := by
  obtain ⟨n, hn, items, hitems, hreaches⟩ := reaches_tree Handles.standard t h
  refine ⟨items, hitems, fun fuel hfuel => ?_⟩
  obtain ⟨more, rfl⟩ : ∃ more, fuel = n + (more + 1) := ⟨fuel - n - 1, by omega⟩
  rw [run_of_reaches (hreaches false [] rest), run]
  simp

end

/-- A document that is a tree, whatever follows it. -/
theorem Reading.ofTokens_tree {marked : Bool} (t : Tree) {tokens : List Token}
    (h : tokens.map Token.sign = t.openSigns marked) (rest : List Token) :
    ∃ items, Spell items t.events ∧ Reading.ofTokens (tokens ++ rest) = ⟨items, none, rest⟩ := by
  obtain ⟨first, afterFirst, rfl, -, hdocument⟩ := List.map_eq_cons_iff.mp h
  obtain ⟨marks, ts, rfl, hmarks, hts⟩ := List.map_eq_append_iff.mp hdocument
  obtain ⟨items, hitems, hrun⟩ := Reading.run_tree t hts rest
  refine ⟨items, hitems, ?_⟩
  rw [Reading.ofTokens, List.cons_append, List.drop_succ_cons, List.drop_zero]
  cases marked with
  | false =>
    obtain rfl := List.map_eq_nil_iff.mp hmarks
    rw [List.nil_append, run, Goal.step_document t hts]
    simp only [List.append_nil]
    rw [hrun _ (by simp only [List.length_cons, List.length_append]; omega)]
    rfl
  | true =>
    obtain ⟨⟨_, a, b⟩, ends, rfl, rfl, hmark⟩ := List.map_eq_cons_iff.mp hmarks
    obtain rfl := List.map_eq_nil_iff.mp hmark
    have hstart : Goal.document.step [] (⟨.documentStart, a, b⟩ :: (ts ++ rest)) =
        .ok (Handles.standard, ⟨none, [.content], ts ++ rest⟩) := rfl
    rw [List.singleton_append, List.cons_append, run, hstart]
    simp only [List.append_nil]
    rw [run, Goal.step_content t hts]
    simp only [List.append_nil]
    rw [hrun _ (by simp only [List.length_cons, List.length_append]; omega)]
    rfl

/-- Items without aliases are what they were after aliases are numbered. -/
theorem numberAliases_spell : ∀ {items : List (Item (List Char))} {events : List (Event Empty)}
    (anchors : Anchors) (place : Nat), Spell items events →
      ∃ items' anchors', numberAliases anchors place items = (items', none, anchors') ∧
        Spell items' events
  | items, [], anchors, place, h => by
    obtain rfl := List.map_eq_nil_iff.mp h
    exact ⟨[], anchors, rfl, .nil⟩
  | items, e :: events, anchors, place, h => by
    obtain ⟨i, rest, rfl, hi, hrest⟩ := h.exists_cons
    obtain ⟨items', anchors', hnumber, hspell⟩ :=
      numberAliases_spell (anchors.after i place) (place + 1) hrest
    refine ⟨⟨e.lift, i.anchor, i.mark⟩ :: items', anchors', ?_, .cons rfl hspell⟩
    rw [numberAliases, hi, Event.mapAlias_lift, hnumber]

theorem Spell.locate {items : List (Item Nat)} {events : List (Event Empty)} (anchors : Anchors)
    (h : Spell items events) : Spell (items.map (·.locate anchors)) events := by
  have hlocate : ∀ i : Item Nat, ∀ e : Event Empty, i.event = e.lift →
      (i.locate anchors).event = e.lift := fun i e hi => by
    simp [Item.locate, hi, Event.mapAlias_lift]
  induction events generalizing items with
  | nil =>
    obtain rfl := List.map_eq_nil_iff.mp h
    exact .nil
  | cons e events ih =>
    obtain ⟨i, rest, rfl, hi, hrest⟩ := h.exists_cons
    exact .cons (hlocate i e hi) (ih hrest)

/-- A text whose first document is a tree, up to a token that starts no further value of it. -/
theorem Document.ofTokens_tree_append {marked : Bool} (t : Tree) {tokens : List Token}
    (h : tokens.map Token.sign = t.openSigns marked) (next : Token) (rest : List Token)
    (hnext : next.sign ≠ .documentEnd) (problem : Option Problem) :
    ∃ items, Spell items t.events ∧
      Document.ofTokens (tokens ++ next :: rest) problem =
        ⟨items, none, next.sign != .streamEnd⟩ := by
  obtain ⟨items, hitems, hreading⟩ := Reading.ofTokens_tree t h (next :: rest)
  obtain ⟨items', anchors, hnumber, hitems'⟩ := numberAliases_spell ⟨[], []⟩ 0 hitems
  refine ⟨items'.map (·.locate anchors), hitems'.locate anchors, ?_⟩
  have hmore : more? (next :: rest) = some (next.sign != .streamEnd) := by
    simp [more?, goesOn, hnext]
  simp only [ofTokens, hreading, hnumber, hmore]

/-- A text with one document, which is a tree. -/
theorem Document.ofTokens_tree {marked : Bool} (t : Tree) {tokens : List Token}
    (h : tokens.map Token.sign = t.documentSigns marked) (problem : Option Problem) :
    ∃ items, Spell items t.events ∧ Document.ofTokens tokens problem = ⟨items, none, false⟩ := by
  rw [Tree.documentSigns_eq] at h
  obtain ⟨ts, ends, rfl, hts, hends⟩ := List.map_eq_append_iff.mp h
  obtain ⟨⟨_, a, b⟩, ends, rfl, rfl, hnone⟩ := List.map_eq_cons_iff.mp hends
  obtain rfl := List.map_eq_nil_iff.mp hnone
  exact Document.ofTokens_tree_append t hts ⟨.streamEnd, a, b⟩ [] nofun problem

end UserConfigs.Yaml
