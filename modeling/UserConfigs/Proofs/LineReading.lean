import UserConfigs.Proofs.LineDecoding
import UserConfigs.Proofs.ReadBack

/-!
# Reading documents line by line

A document with one line for each key is read as its lines say (`Config.read_lines`). A text may
stand on its line without quotes, between single quotes or between double quotes, and labels stand
between braces (`Said.written`), as long as they have only characters that can stand there
(`Line.IsProper`). What the words of a text would be elsewhere, a number or nothing, does not
matter. More generally the lines of the document may spell what other lines say
(`Line.IsSpelled`, `Config.read_spelledLines`).
-/

namespace UserConfigs

open Yaml (LinesText ValueText SpelledPair isBody isBreak isPrintable opensLine doubled bracesText
  restText pairText)
open Yaml.Scan (opensPlain)

/-! ## Characters -/

/-- A printable character of ASCII. -/
def isTyped (c : Char) : Bool := 0x20 ≤ c.toNat && c.toNat ≤ 0x7E

/-- A printable character of ASCII that is no double quote and no backslash. -/
def isQuotable (c : Char) : Bool := isTyped c && c ≠ '\x22' && c ≠ '\x5c'

theorem isPrintable_of_isTyped {c : Char} (h : isTyped c = true) : isPrintable c = true := by
  simp only [isTyped, Bool.and_eq_true, decide_eq_true_eq] at h
  simp [isPrintable, h.1, h.2]

theorem isBreak_of_isTyped {c : Char} (h : isTyped c = true) : isBreak c = false := by
  have hnot : ∀ d : Char, isTyped d = false → c ≠ d := by
    rintro d hd rfl
    simp [hd] at h
  simp only [isBreak, Bool.or_eq_false_iff, decide_eq_false_iff_not]
  and_intros
  all_goals exact hnot _ (by decide)

/-- What may stand in quotes is typed. -/
theorem isTyped_of_isQuotable {c : Char} (h : isQuotable c = true) : isTyped c = true := by
  simp only [isQuotable, Bool.and_eq_true] at h
  exact h.1.1

theorem isBody_of_isQuotable {c : Char} (h : isQuotable c = true) : isBody c = true := by
  have hbreak := isBreak_of_isTyped (isTyped_of_isQuotable h)
  simp only [isQuotable, Bool.and_eq_true] at h
  simp [isBody, h.1.2, h.2, hbreak]

theorem opensPlain_of_isAlphanum {c : Char} (h : c.isAlphanum = true) : opensPlain c = true := by
  have hnot : ∀ d : Char, d.isAlphanum = false → c ≠ d := by
    rintro d hd rfl
    simp [hd] at h
  simp only [opensPlain, Yaml.isBlank, isBreak, Yaml.Scan.signs, List.contains_cons,
    List.contains_nil, Bool.or_false, Bool.and_eq_true, Bool.not_eq_true', Bool.or_eq_false_iff,
    decide_eq_false_iff_not, beq_eq_false_iff_ne]
  and_intros
  all_goals exact hnot _ (by decide)

/-- A character of the names of fields : a small letter or `_`. -/
def isNameChar (c : Char) : Bool := c.isLower || c = '_'

theorem isAlphanum_of_isLower {c : Char} (h : c.isLower = true) : c.isAlphanum = true :=
  Bool.or_eq_true_iff.mpr (.inl (Bool.or_eq_true_iff.mpr (.inr h)))

theorem isPathChar_of_isNameChar {c : Char} (h : isNameChar c = true) : isPathChar c = true := by
  simp only [isNameChar, Bool.or_eq_true, decide_eq_true_eq] at h
  rcases h with h | rfl
  · simp [isPathChar, isAlphanum_of_isLower h]
  · decide

namespace Config

/-! ## Lines as they are written -/

/-- What stands behind the colon. -/
def Said.written : Said → String
  | text s .none => s
  | text s .single => "\x27" ++ String.ofList (doubled s.toList) ++ "\x27"
  | text s .double => "\x22" ++ s ++ "\x22"
  | labels pairs =>
    "\x7b" ++ ", ".intercalate (pairs.map fun p => "\x22" ++ p.1 ++ "\x22: \x22" ++ p.2 ++ "\x22") ++
      "\x7d"

/-- What is said can stand behind the colon as it is written. -/
def Said.IsProper : Said → Prop
  | text s .none =>
    (∃ c ∈ s.toList.head?, c.isAlphanum = true) ∧ ∀ c ∈ s.toList, isPathChar c = true
  | text s .single => ∀ c ∈ s.toList, isTyped c = true
  | text s .double => ∀ c ∈ s.toList, isQuotable c = true
  | labels pairs => ∀ p ∈ pairs, (∀ c ∈ p.1.toList, isQuotable c = true) ∧
      (∀ c ∈ p.2.toList, isQuotable c = true) ∧ p.1.length ≤ 1000

instance decidableIsProper : ∀ said : Said, Decidable said.IsProper
  | .text s .none =>
    decidable_of_iff (s.toList.head?.any Char.isAlphanum = true ∧ s.toList.all isPathChar = true)
      (and_congr (Option.any_eq_true _ _) List.all_eq_true)
  | .text s .single => decidable_of_iff (s.toList.all isTyped = true) List.all_eq_true
  | .text s .double => decidable_of_iff (s.toList.all isQuotable = true) List.all_eq_true
  | .labels pairs =>
    decidable_of_iff (pairs.all (fun p => p.1.toList.all isQuotable && p.2.toList.all isQuotable &&
      decide (p.1.length ≤ 1000)) = true) (by simp [Said.IsProper, and_assoc])

namespace Line

/-- A line without its end. -/
def written (l : Line) : String := l.key ++ ": " ++ l.said.written

/-- A line has a name of at most 1000 characters and something proper behind it, labels where labels
belong. -/
structure IsProper (l : Line) : Prop where
  name : ∀ c ∈ l.key.toList, isNameChar c = true
  length : 1 ≤ l.key.length ∧ l.key.length ≤ 1000
  said : l.said.IsProper
  fits : l.Fits

instance decidableFits (l : Line) : Decidable l.Fits := inferInstanceAs (Decidable (_ ↔ _))

instance decidableIsProper (l : Line) : Decidable l.IsProper :=
  decidable_of_iff (l.key.toList.all isNameChar = true ∧
      (1 ≤ l.key.length ∧ l.key.length ≤ 1000) ∧ l.said.IsProper ∧ l.Fits)
    ⟨fun h => ⟨List.all_eq_true.mp h.1, h.2.1, h.2.2.1, h.2.2.2⟩,
      fun h => ⟨List.all_eq_true.mpr h.name, h.length, h.said, h.fits⟩⟩

end Line

/-- The lines of a document, without the end of the last one. -/
def writtenLines (lines : List Line) : String := "\n".intercalate (lines.map Line.written)

/-! ## Values -/

/-- Labels between braces, pair by pair. -/
theorem toList_written_labels (pairs : List (String × String)) :
    (Said.labels pairs).written.toList =
      bracesText (pairs.map fun p => (p.1.toList, p.2.toList)) [] := by
  have hrest : ∀ (p : String × String) (ps : List (String × String)),
      (", ".intercalate ((p :: ps).map fun p =>
        "\x22" ++ p.1 ++ "\x22: \x22" ++ p.2 ++ "\x22")).toList ++ ['\x7d'] =
      pairText (p.1.toList, p.2.toList)
        (restText (ps.map fun p => (p.1.toList, p.2.toList)) []) := by
    intro p ps
    induction ps generalizing p with
    | nil => simp [pairText, restText]
    | cons q ps ih =>
      have hq := ih q
      rw [List.map_cons] at hq
      rw [List.map_cons, List.map_cons, String.intercalate_cons_cons, String.toList_append,
        List.append_assoc, hq]
      simp [pairText, restText]
  cases pairs with
  | nil => simp [Said.written, bracesText]
  | cons p ps =>
    rw [Said.written, String.toList_append, String.toList_append, List.append_assoc]
    exact congrArg ('\x7b' :: ·) (hrest p ps)

/-- A value is written as it is said. -/
theorem valueText_written {said : Said} (h : said.IsProper) :
    ValueText said.tree said.written.toList := by
  cases said with
  | labels pairs =>
    rw [toList_written_labels]
    refine .braces (List.forall₂_same.mpr fun p hp => ?_)
    obtain ⟨q, hq, rfl⟩ := List.mem_map.mp hp
    obtain ⟨hkey, hvalue, hlength⟩ := h q hq
    refine ⟨Yaml.spelled_self fun c hc => isBody_of_isQuotable (hkey c hc),
      Yaml.spelled_self fun c hc => isBody_of_isQuotable (hvalue c hc), ?_⟩
    rw [String.length_toList]
    omega
  | text s quotes =>
    cases quotes with
    | none =>
      obtain ⟨⟨c, hc, hfirst⟩, hs⟩ := h
      refine .plain (.word ?_ fun d hd => isInner_of_isPathChar (hs d hd))
        ⟨c, hc, opensPlain_of_isAlphanum hfirst⟩
      rintro hnil
      simp [hnil] at hc
    | single =>
      simp only [Said.written, String.toList_append, String.toList_ofList]
      exact .single fun c hc => isBreak_of_isTyped (h c hc)
    | double =>
      simp only [Said.written, String.toList_append]
      exact .double (Yaml.spelled_self fun c hc => isBody_of_isQuotable (h c hc))

/-- What is said is written with printable characters. -/
theorem all_isPrintable_written {said : Said} (h : said.IsProper) :
    said.written.toList.all isPrintable = true := by
  have htext : ∀ {p : Char → Bool} {s : List Char}, (∀ c, p c = true → isTyped c = true) →
      (∀ c ∈ s, p c = true) → s.all isPrintable = true := fun htyped hs =>
    List.all_eq_true.mpr fun c hc => isPrintable_of_isTyped (htyped c (hs c hc))
  have hquotes : isPrintable '\x27' = true ∧ isPrintable '\x22' = true := by decide
  cases said with
  | labels pairs =>
    rw [toList_written_labels]
    refine Yaml.all_isPrintable_bracesText fun p hp => ?_
    obtain ⟨q, hq, rfl⟩ := List.mem_map.mp hp
    obtain ⟨hkey, hvalue, -⟩ := h q hq
    exact ⟨htext (fun _ => isTyped_of_isQuotable) hkey,
      htext (fun _ => isTyped_of_isQuotable) hvalue⟩
  | text s quotes =>
    cases quotes with
    | none => exact List.all_eq_true.mpr fun c hc => isPrintable_of_isPathChar (h.2 c hc)
    | single =>
      have hdoubled : ∀ c ∈ doubled s.toList, isTyped c = true := by
        intro c hc
        obtain ⟨d, hd, hcd⟩ := List.mem_flatMap.mp hc
        split at hcd
        · next hquote =>
          have hc : c = '\x27' := by simpa using hcd
          rw [hc]
          decide
        · obtain rfl := List.mem_singleton.mp hcd
          exact h c hd
      simp [Said.written, List.all_append, hquotes, htext (fun _ => id) hdoubled]
    | double =>
      simp [Said.written, List.all_append, hquotes, htext (fun _ => isTyped_of_isQuotable) h]

/-! ## Lines -/

/-- A line says what another one spells : under the same name, and with a value that is written as
the other one's text. -/
structure Line.IsSpelled (l source : Line) : Prop where
  key : source.key = l.key
  name : ∀ c ∈ l.key.toList, isNameChar c = true
  length : 1 ≤ l.key.length ∧ l.key.length ≤ 1000
  value : ValueText l.said.tree source.said.written.toList
  printable : source.said.written.toList.all isPrintable = true

/-- A proper line is a spelling of itself. -/
theorem Line.IsProper.isSpelled {l : Line} (h : l.IsProper) : l.IsSpelled l :=
  ⟨rfl, h.name, h.length, valueText_written h.said, all_isPrintable_written h.said⟩

theorem Line.IsSpelled.exists_cons {l source : Line} (h : l.IsSpelled source) :
    ∃ c cs, l.key.toList = c :: cs ∧ isNameChar c = true := by
  have hpos : 0 < l.key.toList.length := by
    rw [String.length_toList]
    exact h.length.1
  obtain ⟨c, cs, hkey⟩ := List.exists_cons_of_length_pos hpos
  exact ⟨c, cs, hkey, h.name c (by rw [hkey]; exact List.mem_cons_self)⟩

/-- The names of the fields are read as plain scalars. -/
theorem Line.IsSpelled.isPlainKey {l source : Line} (h : l.IsSpelled source) :
    Yaml.Scan.IsPlainKey l.key.toList := by
  obtain ⟨c, cs, hkey, hc⟩ := h.exists_cons
  have hlength : l.key.toList.length ≤ 1000 := by
    rw [String.length_toList]
    exact h.length.2
  refine ⟨⟨c, by rw [hkey]; rfl, ?_⟩, fun d hd => ?_, by omega⟩
  · simp only [isNameChar, Bool.or_eq_true, decide_eq_true_eq] at hc
    rcases hc with hc | rfl
    · refine ⟨opensPlain_of_isAlphanum (isAlphanum_of_isLower hc), ?_⟩
      rintro rfl
      exact absurd hc (by decide)
    · decide
  · exact isInner_of_isPathChar (isPathChar_of_isNameChar (h.name d hd))

/-- A line has no character that the reader of the text refuses. -/
theorem Line.IsSpelled.all_isPrintable {l source : Line} (h : l.IsSpelled source) :
    source.written.toList.all isPrintable = true := by
  have hkey : source.key.toList.all isPrintable = true := List.all_eq_true.mpr fun c hc =>
    isPrintable_of_isPathChar (isPathChar_of_isNameChar (h.name c (h.key ▸ hc)))
  have hsigns : isPrintable ':' = true ∧ isPrintable ' ' = true := by decide
  simp [Line.written, List.all_append, hkey, hsigns, h.printable]

theorem toList_written_line (l : Line) (tail : List Char) :
    l.written.toList ++ tail = l.key.toList ++ ':' :: ' ' :: (l.said.written.toList ++ tail) := by
  simp [Line.written]

theorem toList_writtenLines_cons (l k : Line) (lines : List Line) :
    (writtenLines (l :: k :: lines)).toList =
      l.written.toList ++ '\n' :: (writtenLines (k :: lines)).toList := by
  rw [writtenLines, List.map_cons, List.map_cons, String.intercalate_cons_cons]
  simp [writtenLines]

/-! ## Documents -/

section

variable {lines sources : List Line} (h : List.Forall₂ Line.IsSpelled lines sources)
include h

/-- Lines that are written one below the other, with the end of the last one or without it. -/
theorem linesText_written {tail : List Char} (htail : Yaml.Scan.LineEnd 0 tail [])
    (hne : lines ≠ []) :
    LinesText (lines.map Line.entry) ((writtenLines sources).toList ++ tail) := by
  induction h with
  | nil => exact absurd rfl hne
  | @cons l source lines sources hl hlines ih =>
    cases hlines with
    | nil =>
      have htext : (writtenLines [source]).toList ++ tail = source.written.toList ++ tail := by
        simp [writtenLines]
      rw [htext, toList_written_line, hl.key]
      exact .cons hl.isPlainKey hl.value htail .nil
    | @cons k next _ _ _ _ =>
      have hrest := ih (List.cons_ne_nil k _)
      rw [toList_writtenLines_cons, List.append_assoc, List.cons_append, toList_written_line,
        hl.key]
      exact .cons hl.isPlainKey hl.value (.line (Yaml.Scan.isIndented_zero hrest.opensLine)) hrest

/-- Nor has any row of lines. -/
theorem all_isPrintable_writtenLines : (writtenLines sources).toList.all isPrintable = true := by
  induction h with
  | nil => rfl
  | @cons l source lines sources hl hlines ih =>
    cases hlines with
    | nil => simpa [writtenLines] using hl.all_isPrintable
    | cons _ _ =>
      have hbreak : isPrintable '\n' = true := by decide
      rw [toList_writtenLines_cons, List.all_append, List.all_cons, hl.all_isPrintable, ih, hbreak]
      rfl

/-- A document starts with a letter or `_`. -/
theorem head?_writtenLines (hne : lines ≠ []) :
    ∃ c, isNameChar c = true ∧ (writtenLines sources).toList.head? = some c := by
  cases h with
  | nil => exact absurd rfl hne
  | @cons l source lines sources hl hlines =>
    obtain ⟨c, cs, hkey, hc⟩ := hl.exists_cons
    refine ⟨c, hc, ?_⟩
    cases hlines with
    | nil => simp [writtenLines, Line.written, hl.key, hkey]
    | cons _ _ => simp [toList_writtenLines_cons, Line.written, hl.key, hkey]

/-- A document is read as what its lines spell. -/
theorem read_spelledLines (hne : lines ≠ []) (hfits : ∀ l ∈ lines, l.Fits) :
    ∀ text ∈ [writtenLines sources, writtenLines sources ++ "\n"],
      match decode lines with
      | .ok config => read text = .ok config
      | .error opening => ∃ e place, read text = .error e ∧ e.message = opening ++ place := by
  have hread : ∀ tail : List Char, Yaml.Scan.LineEnd 0 tail [] → tail.all isPrintable = true →
      match decode lines with
      | .ok config => read (writtenLines sources ++ String.ofList tail) = .ok config
      | .error opening => ∃ e place, read (writtenLines sources ++ String.ofList tail) = .error e ∧
          e.message = opening ++ place := by
    intro tail hend htail
    have hprint : ((writtenLines sources).toList ++ tail).all isPrintable = true := by
      rw [List.all_append, all_isPrintable_writtenLines h, htail]
      rfl
    have hmark : ((writtenLines sources).toList ++ tail).head? ≠ some '\uFEFF' := by
      obtain ⟨c, hc, hhead⟩ := head?_writtenLines h hne
      rw [List.head?_append, hhead]
      rintro heq
      obtain rfl := Option.some.inj heq
      exact absurd hc (by decide)
    have hlines := read_of_linesText hne hfits (linesText_written h hend hne) hprint hmark
    have heq : String.ofList ((writtenLines sources).toList ++ tail) =
        writtenLines sources ++ String.ofList tail := by
      rw [String.ofList_append, String.ofList_toList]
    rwa [heq] at hlines
  intro text htext
  rcases List.mem_cons.mp htext with rfl | htext
  · simpa using hread [] .text rfl
  · rw [List.mem_singleton.mp htext]
    exact hread ['\n'] (.line ⟨rfl, rfl⟩) rfl

end

/-- A document with one line for each key is read as its lines say. -/
theorem read_lines {lines : List Line} (hne : lines ≠ []) (hproper : ∀ l ∈ lines, l.IsProper) :
    ∀ text ∈ [writtenLines lines, writtenLines lines ++ "\n"],
      match decode lines with
      | .ok config => read text = .ok config
      | .error opening => ∃ e place, read text = .error e ∧ e.message = opening ++ place :=
  read_spelledLines (List.forall₂_same.mpr fun l hl => (hproper l hl).isSpelled) hne
    fun l hl => (hproper l hl).fits

/-- Lines with words that are something else in YAML, and two labels for one address. -/
def wordyLines : List Line :=
  [⟨"commitment", .text "null" .none⟩, ⟨"json_rpc_url", .text "it\x27s" .single⟩,
    ⟨"uid", .text "7" .none⟩, ⟨"address_labels", .labels [("a", "x"), ("a", "y")]⟩,
    ⟨"websocket_url", .text "" .double⟩, ⟨"keypair_path", .text "0x1F" .none⟩]

/-- The words are texts, and the later label counts. -/
theorem read_lines_wordy :
    (wordyLines ≠ [] ∧ ∀ l ∈ wordyLines, l.IsProper) ∧
      writtenLines wordyLines = "commitment: null\njson_rpc_url: \x27it\x27\x27s\x27\nuid: 7\n" ++
        "address_labels: \x7b\x22a\x22: \x22x\x22, \x22a\x22: \x22y\x22\x7d\n" ++
        "websocket_url: \x22\x22\nkeypair_path: 0x1F" ∧
      read (writtenLines wordyLines) = .ok ⟨"it\x27s", "", "0x1F", [("a", "y")], "null"⟩ := by
  have hne : wordyLines ≠ [] := by simp [wordyLines]
  have hproper : ∀ l ∈ wordyLines, l.IsProper := by decide +kernel
  have hread := read_lines hne hproper (writtenLines wordyLines) List.mem_cons_self
  have hdecode : decode wordyLines = .ok ⟨"it\x27s", "", "0x1F", [("a", "y")], "null"⟩ := by rfl
  rw [hdecode] at hread
  exact ⟨⟨hne, hproper⟩, by decide +kernel, hread⟩

end Config

end UserConfigs
