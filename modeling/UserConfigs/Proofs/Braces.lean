import Mathlib.Data.List.Forall2
import UserConfigs.Proofs.Scanning
import UserConfigs.Proofs.Trees

/-!
# Scanning mappings in braces

Behind a colon a mapping may stand in braces on one line. There the signs of the mapping take the
place of the columns, so a scan inside of them (`Scan.Braced`) is a calm one with one more pair of
brackets around it. A key between double quotes and its colon are two steps (`Braced.key`), and a
value, a comma and the last brace are one each (`Braced.value`, `Braced.comma`, `Braced.close`). The
keys and values are taken one after the other (`Braced.rest`), which gives the signs of the mapping
(`AfterColon.braces`).
-/

namespace UserConfigs.Yaml

/-! ## Texts -/

/-- A key and a value between double quotes, and what follows them. -/
def pairText (pair : List Char × List Char) (tail : List Char) : List Char :=
  '\x22' :: (pair.1 ++ '\x22' :: ':' :: ' ' :: '\x22' :: (pair.2 ++ '\x22' :: tail))

/-- More pairs up to the last brace, and what follows it. -/
def restText : List (List Char × List Char) → List Char → List Char
  | [], tail => '\x7d' :: tail
  | pair :: pairs, tail => ',' :: ' ' :: pairText pair (restText pairs tail)

/-- A mapping in braces, and what follows it. -/
def bracesText : List (List Char × List Char) → List Char → List Char
  | [], tail => '\x7b' :: '\x7d' :: tail
  | pair :: pairs, tail => '\x7b' :: pairText pair (restText pairs tail)

/-- Braces, quotes, colons, commas and spaces may stand in a text. -/
theorem all_isPrintable_bracesText {pairs : List (List Char × List Char)}
    (h : ∀ p ∈ pairs, p.1.all isPrintable = true ∧ p.2.all isPrintable = true) :
    (bracesText pairs []).all isPrintable = true := by
  have hsigns : isPrintable '\x7b' = true ∧ isPrintable '\x7d' = true ∧
      isPrintable '\x22' = true ∧ isPrintable ':' = true ∧ isPrintable ',' = true ∧
        isPrintable ' ' = true := by decide
  have hpair : ∀ p ∈ pairs, ∀ tail : List Char, tail.all isPrintable = true →
      (pairText p tail).all isPrintable = true := by
    intro p hp tail htail
    simp [pairText, List.all_append, hsigns, h p hp, htail]
  have hrest : ∀ ps : List (List Char × List Char), ps ⊆ pairs →
      (restText ps []).all isPrintable = true := by
    intro ps hps
    induction ps with
    | nil => simp [restText, hsigns]
    | cons p ps ih =>
      obtain ⟨hp, hps⟩ := List.cons_subset.mp hps
      simp only [restText, List.all_cons, hsigns, Bool.true_and]
      exact hpair p hp _ (ih hps)
  cases pairs with
  | nil => simp [bracesText, hsigns]
  | cons p ps =>
    simp only [bracesText, List.all_cons, hsigns, Bool.true_and]
    exact hpair p List.mem_cons_self _ (hrest ps (List.subset_cons_self p ps))

/-- A key and a value are spelled between double quotes, and the key is not too long for one. -/
structure SpelledPair (pair source : List Char × List Char) : Prop where
  key : Spelled pair.1 source.1
  value : Spelled pair.2 source.2
  short : source.1.length + 2 ≤ 1024

namespace Scan

/-! ## Inside of braces -/

theorem toToken_of_space {s : Scan} {front : List Char} (hahead : s.cursor.rest = ' ' :: front)
    (hfront : opensLine front = true) :
    s.toToken = { s with cursor := ⟨front, s.cursor.mark.along 1⟩ } := by
  have hspace := blanksFrom_indentation s.inFlow s.keyAllowed front 1 s.cursor.mark
  rw [blanksFrom_opensLine hfront] at hspace
  exact toToken_of_blanks (by rw [hahead]; exact hspace)

/-- The scan is inside of braces in a block, with `rest` from the next token on. -/
structure Braced (s : Scan) (columns : List Nat) (signs : List Sign) (allowed : Bool)
    (rest : List Char) : Prop where
  calm : ({ s with outer := [] } : Scan).Calm columns signs
  outer : s.outer = [none]
  allowed : s.toToken.keyAllowed = allowed
  ahead : s.toToken.cursor.rest = rest

theorem dropStale_braced {s : Scan} (hkey : s.key = none) (houter : s.outer = [none]) :
    s.dropStale = .ok s := by
  obtain ⟨cursor, tokens, count, columns, allowed, key, outer⟩ := s
  obtain rfl : key = none := hkey
  obtain rfl : outer = [none] := houter
  simp [dropStale]

theorem inFlow_of_outer {s : Scan} (houter : s.outer = [none]) : s.inFlow = true := by
  rw [inFlow, houter]
  rfl

section

variable {s : Scan} {columns : List Nat} {signs : List Sign} {allowed : Bool}
  {rest tail front : List Char}

/-- What is read next in the braces. -/
theorem Braced.of_ahead (hcalm : ({ s with outer := [] } : Scan).Calm columns signs)
    (houter : s.outer = [none]) (hallowed : s.keyAllowed = allowed) (hahead : s.cursor.rest = rest)
    (hrest : opensLine rest = true) : s.Braced columns signs allowed rest := by
  have htoken : s.toToken = s := toToken_of_opensLine (by rw [hahead]; exact hrest)
  exact ⟨hcalm, houter, by rw [htoken, hallowed], by rw [htoken, hahead]⟩

/-- What is read next in the braces, behind a space. -/
theorem Braced.of_space (hcalm : ({ s with outer := [] } : Scan).Calm columns signs)
    (houter : s.outer = [none]) (hallowed : s.keyAllowed = allowed)
    (hahead : s.cursor.rest = ' ' :: rest) (hrest : opensLine rest = true) :
    s.Braced columns signs allowed rest := by
  have htoken := toToken_of_space hahead hrest
  exact ⟨hcalm, houter, by rw [htoken, ← hallowed], by rw [htoken]⟩

theorem Braced.isDone (h : s.Braced columns signs allowed rest) : s.isDone = false := h.calm.isDone

theorem Braced.calm_toToken (h : s.Braced columns signs allowed rest) :
    ({ s.toToken with outer := [] } : Scan).Calm columns signs :=
  ⟨h.calm.count, h.calm.read, h.calm.blocks, h.calm.key, rfl, h.calm.going⟩

theorem Braced.inFlow_toToken (h : s.Braced columns signs allowed rest) :
    s.toToken.inFlow = true :=
  inFlow_of_outer (s := s.toToken) h.outer

theorem Braced.removeKey_toToken (h : s.Braced columns signs allowed rest) :
    s.toToken.removeKey = .ok s.toToken := by
  rw [removeKey, show s.toToken.key = none from h.calm.key]

/-- In braces no column closes a block. -/
theorem Braced.step_eq (h : s.Braced columns signs allowed rest) {lead : Lead}
    (hlead : lead? true s.toToken.cursor = some lead) :
    s.step = (s.toToken.follow lead).bind (·.dropStale) := by
  have hunroll : s.toToken.unroll = s.toToken := by
    rw [unroll, close, if_pos h.inFlow_toToken]
  have hstale : s.toToken.dropStale = .ok s.toToken := dropStale_braced h.calm.key h.outer
  unfold step
  rw [hstale]
  simp only [bind, Except.bind, hunroll, h.inFlow_toToken, hlead]

/-- A token of one step leaves a scan in braces that waits for no colon. -/
theorem Braced.take (h : s.Braced columns signs allowed rest) (sign : Sign)
    (hsign : sign ≠ .streamEnd) (stop : Mark) (after : Cursor) (next : Bool) :
    ({ (s.toToken.take sign stop after).allowKey next with outer := [] } : Scan).Calm columns
        (sign :: signs) ∧
      ((s.toToken.take sign stop after).allowKey next).outer = [none] :=
  ⟨h.calm_toToken.take sign hsign stop after next, h.outer⟩

section

variable {t : Scan} (houter : t.outer = [none]) (sign : Sign) {n : Nat} (hn : n ≤ 1024)
include houter

include hn in
/-- A word of at most 1024 characters may be a key. -/
theorem dropStale_word_braced (rest : List Char) :
    (t.word false sign n rest).dropStale = .ok (t.word false sign n rest) := by
  obtain ⟨cursor, tokens, count, cols, allowed, key, outer⟩ := t
  obtain rfl : outer = [none] := houter
  have hstale :
      (⟨false, count, cursor.mark⟩ : KeyPlace).isStale (cursor.mark.along n) = false := by
    simp [KeyPlace.isStale, Mark.along]
    omega
  simp [word, dropStale, Scan.take, push, allowKey, hstale]

/-- The colon after a word makes it a key, and opens no block. -/
theorem value_word_braced (hcalm : ({ t with outer := [] } : Scan).Calm columns signs)
    (htail : opensLine tail = true) :
    ∃ v, (t.word false sign n (':' :: ' ' :: tail)).value = .ok v ∧
      v.Braced columns (.value :: sign :: .key :: signs) false tail := by
  obtain ⟨⟨front, m⟩, tokens, count, cols, allowed, key, outer⟩ := t
  obtain rfl : outer = [none] := houter
  obtain rfl : count = tokens.length := hcalm.count
  obtain rfl : tokens.map Token.sign = signs := hcalm.read
  obtain rfl : cols = columns := hcalm.blocks
  have hone : tokens.length + 1 - tokens.length = 1 := by omega
  refine ⟨_, rfl, .of_space ?_ rfl rfl ?_ htail⟩
  · simp only [word, Scan.take, push, allowKey, insert, takeChars, hone, roll, inFlow]
    exact ⟨by simp, by simp, rfl, rfl, rfl, by simp⟩
  · simp [takeChars, Scan.take, push, allowKey, Cursor.advanceBy, Cursor.advance, word, insert,
      roll, inFlow]

include hn in
theorem step_word_braced (hcalm : ({ t with outer := [] } : Scan).Calm columns signs)
    (htail : opensLine tail = true) :
    ∃ v, (t.word false sign n (':' :: ' ' :: tail)).step = .ok v ∧
      v.Braced columns (.value :: sign :: .key :: signs) false tail := by
  obtain ⟨v, hvalue, hv⟩ := value_word_braced houter sign (n := n) hcalm htail
  refine ⟨v, ?_, hv⟩
  have hstale := dropStale_word_braced houter sign hn (':' :: ' ' :: tail)
  have hflow : (t.word false sign n (':' :: ' ' :: tail)).inFlow = true :=
    inFlow_of_outer (s := t.word false sign n (':' :: ' ' :: tail)) houter
  generalize hword : t.word false sign n (':' :: ' ' :: tail) = word at hvalue hstale hflow ⊢
  have hrest : word.cursor.rest = ':' :: ' ' :: tail := by
    rw [← hword]
    rfl
  have htoken : word.toToken = word := toToken_of_opensLine (by rw [hrest]; rfl)
  have hunroll : word.unroll = word := by rw [unroll, close, if_pos hflow]
  have hlead : lead? true word.cursor = some .value := by
    rw [cursor_eq_mk hrest]
    exact lead?_colon rfl true word.cursor.mark
  unfold step
  rw [htoken, hstale]
  simp only [bind, Except.bind, hunroll, hflow, hlead, follow, hvalue]
  exact dropStale_braced hv.calm.key hv.outer

end

theorem Braced.saveKey (h : s.Braced columns signs true rest) :
    s.toToken.saveKey = .ok { s.toToken with
      key := some ⟨false, s.toToken.count, s.toToken.cursor.mark⟩ } := by
  rw [Scan.saveKey, if_pos h.allowed, h.inFlow_toToken, h.removeKey_toToken]
  rfl

/-- A key between double quotes, and its colon. -/
theorem Braced.key {w t : List Char}
    (h : s.Braced columns signs true ('\x22' :: (t ++ '\x22' :: ':' :: ' ' :: tail)))
    (hw : Spelled w t) (hlength : t.length + 2 ≤ 1024) (htail : opensLine tail = true) :
    ∃ v, Steps 2 s v ∧
      v.Braced columns (.value :: .scalar w .doubleQuoted :: .key :: signs) false tail := by
  have hcursor := cursor_eq_mk h.ahead
  have hread : quoted false s.toToken.cursor = .ok ⟨w, s.toToken.cursor.mark.along (t.length + 2),
      ⟨':' :: ' ' :: tail, s.toToken.cursor.mark.along (t.length + 2)⟩, false⟩ := by
    rw [hcursor]
    exact quoted_spelled hw s.toToken.cursor.mark (':' :: ' ' :: tail)
  have hlead : lead? true s.toToken.cursor = some (.quoted false) := by
    rw [hcursor]
    simp [lead?, Cursor.atMarker]
  have hfirst : s.step = .ok (s.toToken.word false (.scalar w .doubleQuoted) (t.length + 2)
      (':' :: ' ' :: tail)) := by
    rw [h.step_eq hlead, follow, quotedScalar, h.saveKey]
    change Except.bind (Except.bind (quoted false s.toToken.cursor) _) _ = _
    rw [hread]
    exact dropStale_word_braced (t := s.toToken) h.outer _ hlength _
  obtain ⟨v, hsecond, hv⟩ := step_word_braced (t := s.toToken) h.outer
    (.scalar w .doubleQuoted) hlength h.calm_toToken htail
  exact ⟨v, .cons h.isDone hfirst (.one rfl hsecond), hv⟩

/-- A value between double quotes. -/
theorem Braced.value {w t : List Char}
    (h : s.Braced columns signs false ('\x22' :: (t ++ '\x22' :: tail))) (hw : Spelled w t)
    (htail : opensLine tail = true) :
    ∃ v, Steps 1 s v ∧ v.Braced columns (.scalar w .doubleQuoted :: signs) false tail := by
  have hcursor := cursor_eq_mk h.ahead
  have hread : quoted false s.toToken.cursor = .ok ⟨w, s.toToken.cursor.mark.along (t.length + 2),
      ⟨tail, s.toToken.cursor.mark.along (t.length + 2)⟩, false⟩ := by
    rw [hcursor]
    exact quoted_spelled hw s.toToken.cursor.mark tail
  have hlead : lead? true s.toToken.cursor = some (.quoted false) := by
    rw [hcursor]
    simp [lead?, Cursor.atMarker]
  obtain ⟨hcalm, houter⟩ := h.take (.scalar w .doubleQuoted) (by simp)
    (s.toToken.cursor.mark.along (t.length + 2))
    ⟨tail, s.toToken.cursor.mark.along (t.length + 2)⟩ false
  refine ⟨_, .one h.isDone ?_, .of_ahead hcalm houter rfl rfl htail⟩
  rw [h.step_eq hlead, follow, quotedScalar_of_forbidden h.allowed hread]
  exact dropStale_braced hcalm.key houter

/-- A comma between pairs. -/
theorem Braced.comma (h : s.Braced columns signs allowed (',' :: ' ' :: tail))
    (htail : opensLine tail = true) :
    ∃ v, Steps 1 s v ∧ v.Braced columns (.flowEntry :: signs) true tail := by
  have hcursor := cursor_eq_mk h.ahead
  have hlead : lead? true s.toToken.cursor = some .flowEntry := by
    rw [hcursor]
    simp [lead?, Cursor.atMarker]
  obtain ⟨hcalm, houter⟩ := h.take .flowEntry (by simp)
    (s.toToken.cursor.advanceBy 1).mark (s.toToken.cursor.advanceBy 1) true
  have hahead : (s.toToken.cursor.advanceBy 1).rest = ' ' :: tail := advance_rest h.ahead
  refine ⟨_, .one h.isDone ?_, .of_space hcalm houter rfl hahead htail⟩
  rw [h.step_eq hlead, follow, flowEntry, h.removeKey_toToken]
  exact dropStale_braced hcalm.key houter

/-- The last brace. -/
theorem Braced.close (h : s.Braced columns signs allowed ('\x7d' :: tail)) :
    ∃ v, Steps 1 s v ∧ v.Calm columns (.flowMappingEnd :: signs) ∧ v.cursor.rest = tail := by
  have hcursor := cursor_eq_mk h.ahead
  have hlead : lead? true s.toToken.cursor = some (.flowEnd .flowMappingEnd) := by
    rw [hcursor]
    simp [lead?, Cursor.atMarker]
  have houter : s.toToken.outer = [none] := h.outer
  have hcalm : ({ s.toToken with key := none, outer := [] } : Scan).Calm columns signs :=
    ⟨h.calm.count, h.calm.read, h.calm.blocks, rfl, rfl, h.calm.going⟩
  have hv := hcalm.take .flowMappingEnd (by simp) (s.toToken.cursor.advanceBy 1).mark
    (s.toToken.cursor.advanceBy 1) false
  refine ⟨_, .one h.isDone ?_, hv, advance_rest h.ahead⟩
  rw [h.step_eq hlead, follow, flowEnd, h.removeKey_toToken]
  simp only [bind, Except.bind, houter]
  exact hv.dropStale

/-- The first brace, behind a colon. -/
theorem AfterColon.openBraces (h : s.AfterColon columns signs (' ' :: '\x7b' :: tail))
    (htail : opensLine tail = true) :
    ∃ v, Steps 1 s v ∧ v.Braced columns (.flowMappingStart :: signs) true tail := by
  obtain ⟨t, ht⟩ : ∃ t : Scan, t = { s with cursor := ⟨'\x7b' :: tail, s.cursor.mark.along 1⟩ } :=
    ⟨_, rfl⟩
  have hcalm : t.Calm columns signs := by
    rw [ht]
    exact h.calm.moved _
  have hsave : t.saveKey = .ok t := saveKey_of_forbidden (by rw [ht]; exact h.forbidden)
  have hlead : lead? false ⟨'\x7b' :: tail, s.cursor.mark.along 1⟩ =
      some (.flowStart .flowMappingStart) := by
    simp [lead?, Cursor.atMarker]
  have hv := hcalm.take .flowMappingStart (by simp) (t.cursor.advanceBy 1).mark
    (t.cursor.advanceBy 1) true
  obtain ⟨v, hfollow, hv, houter, hallowed, hahead⟩ : ∃ v : Scan,
      t.follow (.flowStart .flowMappingStart) = .ok v ∧
        ({ v with outer := [] } : Scan).Calm columns (.flowMappingStart :: signs) ∧
          v.outer = [none] ∧ v.keyAllowed = true ∧ v.cursor.rest = tail := by
    rw [follow, flowStart, hsave]
    refine ⟨_, rfl, ⟨hv.count, hv.read, hv.blocks, rfl, rfl, hv.going⟩, ?_, rfl, ?_⟩
    · change t.key :: t.outer = [none]
      rw [hcalm.key, hcalm.outer]
    · exact advance_rest (by rw [ht])
  refine ⟨v, .one h.calm.isDone ?_, .of_ahead hv houter hallowed hahead htail⟩
  rw [h.step_eq rfl hlead, ← ht, hfollow]
  exact dropStale_braced hv.key houter

end

/-! ## All pairs -/

theorem opensLine_restText (pairs : List (List Char × List Char)) (tail : List Char) :
    opensLine (restText pairs tail) = true := by
  cases pairs <;> rfl

section

variable {columns : List Nat} {tail : List Char}

/-- A key and a value, and what has to follow them. -/
theorem Braced.pair {s : Scan} {signs : List Sign} {pair source : List Char × List Char}
    {rest : List Char} (h : s.Braced columns signs true (pairText source rest))
    (hpair : SpelledPair pair source) (hrest : opensLine rest = true) :
    ∃ v, Steps 3 s v ∧ v.Braced columns ((Tree.pairSigns pair).reverse ++ signs) false rest := by
  obtain ⟨t, hst, ht⟩ := h.key hpair.key hpair.short rfl
  obtain ⟨v, htv, hv⟩ := ht.value hpair.value hrest
  exact ⟨v, hst.trans htv, hv⟩

/-- More pairs up to the last brace. -/
theorem Braced.rest {pairs sources : List (List Char × List Char)}
    (hpairs : List.Forall₂ SpelledPair pairs sources) : ∀ {s : Scan} {signs : List Sign},
      s.Braced columns signs false (restText sources tail) →
        ∃ n v, n + tail.length ≤ (restText sources tail).length ∧ Steps n s v ∧
          v.Calm columns ((Tree.restSigns pairs).reverse ++ signs) ∧ v.cursor.rest = tail := by
  induction hpairs with
  | nil =>
    intro s signs h
    obtain ⟨v, hsv, hv, hahead⟩ := h.close
    exact ⟨1, v, by simp [restText, Nat.add_comm], hsv, hv, hahead⟩
  | @cons pair source pairs sources hpair _ ih =>
    intro s signs h
    obtain ⟨t, hst, ht⟩ := h.comma rfl
    obtain ⟨u, htu, hu⟩ := ht.pair hpair (opensLine_restText sources tail)
    obtain ⟨n, v, hn, huv, hv, hahead⟩ := ih hu
    refine ⟨_, v, ?_, hst.trans (htu.trans huv), ?_, hahead⟩
    · simp only [restText, pairText, List.length_cons, List.length_append]
      omega
    · simpa [Tree.restSigns] using hv

/-- A mapping in braces behind a colon. -/
theorem AfterColon.braces {pairs sources : List (List Char × List Char)}
    (hpairs : List.Forall₂ SpelledPair pairs sources) {s : Scan} {signs : List Sign}
    (h : s.AfterColon columns signs (' ' :: bracesText sources tail)) :
    ∃ n v, n + tail.length ≤ (bracesText sources tail).length ∧ Steps n s v ∧
      v.Calm columns ((Tree.braces pairs).signs.reverse ++ signs) ∧ v.cursor.rest = tail := by
  cases hpairs with
  | nil =>
    obtain ⟨t, hst, ht⟩ := h.openBraces rfl
    obtain ⟨v, htv, hv, hahead⟩ := ht.close
    refine ⟨2, v, ?_, hst.trans htv, hv, hahead⟩
    simp only [bracesText, List.length_cons]
    omega
  | @cons pair source pairs sources hpair hrest =>
    obtain ⟨t, hst, ht⟩ := h.openBraces rfl
    obtain ⟨u, htu, hu⟩ := ht.pair hpair (opensLine_restText sources tail)
    obtain ⟨n, v, hn, huv, hv, hahead⟩ := hu.rest hrest
    refine ⟨_, v, ?_, hst.trans (htu.trans huv), ?_, hahead⟩
    · simp only [bracesText, pairText, List.length_cons, List.length_append]
      omega
    · simpa [Tree.signs, Tree.bracesSigns] using hv

end

end Scan

end UserConfigs.Yaml
