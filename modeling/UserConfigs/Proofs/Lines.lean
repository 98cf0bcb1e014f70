import UserConfigs.Proofs.Braces

/-!
# Documents of lines

A document may have one line for each key, with the value behind the colon (`LinesText`). A value is
a plain scalar, a text between quotes or a mapping in braces (`ValueText`). Line by line the scan
takes the signs of the entries (`Scan.AtLine.steps_lines`), so the document says the mapping with
these entries (`Document.read_linesText`), whether its last line ends or not.
-/

namespace UserConfigs.Yaml

/-- A value is written behind a colon and a space. -/
inductive ValueText : Tree → List Char → Prop where
  | plain {w : List Char} (hw : Phrase w) (hfirst : ∃ c ∈ w.head?, Scan.opensPlain c = true) :
    ValueText (.scalar w .plain) w
  | single {w : List Char} (hw : ∀ c ∈ w, isBreak c = false) :
    ValueText (.scalar w .singleQuoted) ('\x27' :: (doubled w ++ ['\x27']))
  | double {w t : List Char} (hw : Spelled w t) :
    ValueText (.scalar w .doubleQuoted) ('\x22' :: (t ++ ['\x22']))
  | braces {pairs sources : List (List Char × List Char)}
    (hpairs : List.Forall₂ SpelledPair pairs sources) :
    ValueText (.braces pairs) (bracesText sources [])

/-- Each entry is written on a line of its own. -/
inductive LinesText : List (Tree × Tree) → List Char → Prop where
  | nil : LinesText [] []
  | cons {key text tail next : List Char} {value : Tree} {entries : List (Tree × Tree)}
    (hkey : Scan.IsPlainKey key) (hvalue : ValueText value text) (hend : Scan.LineEnd 0 tail next)
    (hnext : LinesText entries next) :
    LinesText ((.scalar key .plain, value) :: entries) (key ++ ':' :: ' ' :: (text ++ tail))

theorem LinesText.opensLine {entries : List (Tree × Tree)} {text : List Char}
    (h : LinesText entries text) : opensLine text = true := by
  cases h with
  | nil => rfl
  | cons hkey => exact hkey.opensLine _

theorem restText_append (pairs : List (List Char × List Char)) (tail : List Char) :
    restText pairs tail = restText pairs [] ++ tail := by
  induction pairs with
  | nil => rfl
  | cons pair pairs ih => simp [restText, pairText, ih]

theorem bracesText_append (pairs : List (List Char × List Char)) (tail : List Char) :
    bracesText pairs tail = bracesText pairs [] ++ tail := by
  cases pairs with
  | nil => rfl
  | cons pair pairs => simp [bracesText, pairText, restText_append pairs tail]

theorem Tree.entrySigns_cons (entry : Tree × Tree) (entries : List (Tree × Tree)) :
    entrySigns (entry :: entries) = entrySigns [entry] ++ entrySigns entries := by
  obtain ⟨key, value⟩ := entry
  simp [entrySigns]

namespace Scan

variable {s : Scan} {columns : List Nat} {signs : List Sign}

/-! ## One line -/

/-- A value behind a colon, up to the next line. -/
theorem AfterColon.valueText {value : Tree} {text tail next : List Char}
    (h : s.AfterColon columns signs (' ' :: (text ++ tail))) (hvalue : ValueText value text)
    (hcolumn : columns.head? = some 0) (hend : LineEnd 0 tail next) :
    ∃ n ≤ text.length, ∃ v, Steps n s v ∧
      v.AtLine columns (value.signs.reverse ++ signs) 0 next := by
  have hquote : tail.head? ≠ some '\x27' := by
    cases hend with
    | text => simp
    | line hnext => simp
  cases hvalue with
  | @plain w hw hfirst =>
    obtain ⟨v, hsv, hv⟩ := h.plainValue hw hfirst hcolumn (Nat.le_refl 0) hend
    obtain ⟨c, hc, -⟩ := hfirst
    obtain ⟨cs, rfl⟩ := List.head?_eq_some_iff.mp hc
    exact ⟨1, Nat.succ_pos _, v, hsv, by simpa [Tree.signs] using hv⟩
  | @single w hw =>
    obtain ⟨v, hsv, hv, hahead⟩ := AfterColon.doubledValue (w := w) (by simpa using h) hw hquote
    exact ⟨1, Nat.succ_pos _, v, hsv, by simpa [Tree.signs] using hv.atLine hahead hend⟩
  | @double w t hw =>
    obtain ⟨v, hsv, hv, hahead⟩ := AfterColon.spelledValue (t := t) (by simpa using h) hw
    exact ⟨1, Nat.succ_pos _, v, hsv, by simpa [Tree.signs] using hv.atLine hahead hend⟩
  | @braces pairs sources hpairs =>
    rw [← bracesText_append] at h
    obtain ⟨n, v, hn, hsv, hv, hahead⟩ := h.braces hpairs
    rw [bracesText_append, List.length_append] at hn
    exact ⟨n, Nat.le_of_add_le_add_right hn, v, hsv, hv.atLine hahead hend⟩

/-- A line with a key and its value. -/
theorem AtLine.entry {key text tail next : List Char} {value : Tree}
    (h : s.AtLine columns signs 0 (key ++ ':' :: ' ' :: (text ++ tail))) (hkey : IsPlainKey key)
    (hvalue : ValueText value text) (hend : LineEnd 0 tail next) :
    ∃ n, n + next.length ≤ (key ++ ':' :: ' ' :: (text ++ tail)).length ∧ ∃ v, Steps n s v ∧
      v.AtLine (keyColumns columns 0)
        ((Tree.entrySigns [(.scalar key .plain, value)]).reverse ++
          (keySigns columns 0 ++ signs)) 0 next := by
  obtain ⟨t, hst, ht⟩ := h.plainKey hkey rfl
  obtain ⟨n, hn, v, htv, hv⟩ := ht.valueText hvalue (head?_keyColumns columns 0) hend
  have htail : next.length ≤ tail.length := by
    cases hend with
    | text => exact Nat.le_refl 0
    | line hnext =>
      rw [hnext.blanks]
      simp
  refine ⟨2 + n, ?_, v, hst.trans htv, by simpa [Tree.entrySigns, Tree.signs] using hv⟩
  simp only [List.length_append, List.length_cons]
  omega

/-! ## All lines -/

/-- The lines of a block that stands at the start of the lines. -/
theorem AtLine.steps_entries {entries : List (Tree × Tree)} {text : List Char}
    (htext : LinesText entries text) : ∀ {s : Scan} {signs : List Sign},
      s.AtLine [0] signs 0 text →
        ∃ n ≤ text.length, ∃ v, Steps n s v ∧
          v.AtLine [0] ((Tree.entrySigns entries).reverse ++ signs) 0 [] := by
  induction htext with
  | nil =>
    intro s signs h
    exact ⟨0, Nat.le_refl 0, s, .nil s, h⟩
  | @cons key text tail next value entries hkey hvalue hend _ ih =>
    intro s signs h
    obtain ⟨m, hm, t, hst, ht⟩ := h.entry hkey hvalue hend
    obtain ⟨n, hn, v, htv, hv⟩ := ih ht
    refine ⟨m + n, by omega, v, hst.trans htv, ?_⟩
    rw [Tree.entrySigns_cons, List.reverse_append, List.append_assoc]
    exact hv

/-- The lines of a document : the first one starts the block. -/
theorem AtLine.steps_lines {entries : List (Tree × Tree)} {text : List Char}
    (htext : LinesText entries text) (hne : entries ≠ []) (h : s.AtLine [] signs 0 text) :
    ∃ n ≤ text.length, ∃ v, Steps n s v ∧ v.AtLine [0]
      ((Tree.entrySigns entries).reverse ++ .blockMappingStart :: signs) 0 [] := by
  cases htext with
  | nil => exact absurd rfl hne
  | @cons key text tail next value entries hkey hvalue hend hnext =>
    obtain ⟨m, hm, t, hst, ht⟩ := h.entry hkey hvalue hend
    obtain ⟨n, hn, v, htv, hv⟩ := AtLine.steps_entries hnext ht
    refine ⟨m + n, by omega, v, hst.trans htv, ?_⟩
    rw [Tree.entrySigns_cons, List.reverse_append, List.append_assoc]
    exact hv

end Scan

/-- The signs of a document of lines are those of a mapping. -/
theorem scan_linesText {entries : List (Tree × Tree)} {text : List Char}
    (htext : LinesText entries text) (hne : entries ≠ []) (hprint : text.all isPrintable = true)
    (hmark : text.head? ≠ some '\uFEFF') :
    ∃ tokens, Token.scan text = (tokens, none) ∧
      tokens.map Token.sign = (Tree.mapping entries).documentSigns false := by
  obtain ⟨n, hn, t, hst, ht⟩ :=
    (Scan.atLine_start text htext.opensLine hmark).steps_lines htext hne
  obtain ⟨v, htv, hdone, hsigns⟩ := ht.steps_finish
  refine ⟨v.released, Scan.scan_of_steps hprint (hst.trans htv) hdone (by omega), ?_⟩
  rw [hsigns]
  simp [Tree.documentSigns, Tree.signs]

/-- A document of lines says the mapping with the entries of the lines. -/
theorem Document.read_linesText {entries : List (Tree × Tree)} {text : List Char}
    (htext : LinesText entries text) (hne : entries ≠ []) (hprint : text.all isPrintable = true)
    (hmark : text.head? ≠ some '\uFEFF') :
    ∃ items, Spell items (Tree.mapping entries).events ∧
      Document.read text = ⟨items, none, false⟩ := by
  obtain ⟨tokens, hscan, hsigns⟩ := scan_linesText htext hne hprint hmark
  obtain ⟨items, hitems, hdocument⟩ := Document.ofTokens_tree _ hsigns none
  refine ⟨items, hitems, ?_⟩
  rw [Document.read, hscan]
  exact hdocument

end UserConfigs.Yaml
