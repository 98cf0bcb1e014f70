import UserConfigs.Proofs.Decoding
import UserConfigs.Proofs.Filling
import UserConfigs.Proofs.Scanning

/-!
# Reading documents back

The config document with a text of letters, digits and a few signs in the place of its tag
(`isPathChar`) is scanned, read as the events of a tree (`Document.tree`), and decoded to the config
whose key pair has the path of the document (`Config.read_fill`). So the document of a user is read
as the config of that user and of no other (`Config.read_render_eq_forUser`).
-/

namespace UserConfigs

open Yaml (Item Spell Tree Token Phrase isInner isPrintable)
open Yaml.Scan (IsPlainKey IsIndented LineEnd Steps start isIndented_zero opensPlain quotedLine
  plainLine)
open Config (Field)

/-- A character that may stand for a user in a document : an ASCII letter, a digit, `_`, `-`, `.`
or `/`. -/
def isPathChar (c : Char) : Bool := c.isAlphanum || c = '_' || c = '-' || c = '.' || c = '/'

theorem isPathChar_of_mem_decimal {u : Uid} {c : Char} (h : c ∈ u.decimal.toList) :
    isPathChar c = true := by
  simp [isPathChar, Char.isAlphanum, Uid.isDigit_of_mem_decimal h]

theorem isInner_of_isPathChar {c : Char} (h : isPathChar c = true) : isInner c = true := by
  have hnot : ∀ d : Char, isPathChar d = false → c ≠ d := by
    rintro d hd rfl
    simp [hd] at h
  simp only [isInner, Yaml.isBlank, Yaml.isBreak, Bool.and_eq_true, Bool.not_eq_true',
    Bool.or_eq_false_iff, decide_eq_true_eq, decide_eq_false_iff_not]
  and_intros
  all_goals exact hnot _ (by decide)

/-- Letters and digits are between the space and the tilde, as are the other characters. -/
theorem isPrintable_of_isPathChar {c : Char} (h : isPathChar c = true) : isPrintable c = true := by
  have hbetween : ∀ a b : UInt32, (0x20 ≤ a ∧ b ≤ 0x7E) → a ≤ c.val → c.val ≤ b →
      0x20 ≤ c.val ∧ c.val ≤ 0x7E := fun a b hab ha hb =>
    ⟨UInt32.le_trans hab.1 ha, UInt32.le_trans hb hab.2⟩
  have hrange : 0x20 ≤ c.val ∧ c.val ≤ 0x7E := by
    simp only [isPathChar, Bool.or_eq_true, decide_eq_true_eq] at h
    rcases h with (((h | rfl) | rfl) | rfl) | rfl
    · rcases Bool.or_eq_true_iff.mp h with h | hdigit
      · rcases Bool.or_eq_true_iff.mp h with hupper | hlower
        · obtain ⟨ha, hb⟩ := of_decide_eq_true hupper
          exact hbetween _ _ (by decide) ha hb
        · obtain ⟨ha, hb⟩ := Bool.and_eq_true_iff.mp hlower
          exact hbetween _ _ (by decide) (of_decide_eq_true ha) (of_decide_eq_true hb)
      · obtain ⟨ha, hb⟩ := Bool.and_eq_true_iff.mp hdigit
        exact hbetween _ _ (by decide) (of_decide_eq_true ha) (of_decide_eq_true hb)
    all_goals decide
  have hlow : 0x20 ≤ c.toNat := UInt32.le_iff_toNat_le.mp hrange.1
  have hhigh : c.toNat ≤ 0x7E := UInt32.le_iff_toNat_le.mp hrange.2
  simp [isPrintable, hlow, hhigh]

namespace Document

/-! ## The lines of a document -/

/-- The path of a key pair, for a text in the place of the tag. -/
def keypairPath (s : String) : String := keypairDir ++ "/" ++ s ++ ".json"

/-- What a document says, for a path of the key pair. -/
def tree (path : List Char) : Tree :=
  .mapping [
    (.scalar Field.jsonRpcUrl.name.toList .plain, .scalar devnetRpcUrl.toList .doubleQuoted),
    (.scalar Field.websocketUrl.name.toList .plain, .scalar [] .doubleQuoted),
    (.scalar Field.keypairPath.name.toList .plain, .scalar path .plain),
    (.scalar Field.addressLabels.name.toList .plain,
      .mapping [(.scalar systemProgramId.toList .doubleQuoted,
        .scalar "System Program".toList .plain)]),
    (.scalar Field.commitment.name.toList .plain, .scalar "confirmed".toList .plain)]

/-- The line with the label, and what follows it. -/
def labelLine (next : List Char) : List Char :=
  '\x22' :: (systemProgramId.toList ++ '\x22' :: ':' :: ' ' ::
    ("System Program".toList ++ '\n' :: next))

/-- A document line by line, with the end of the last line. -/
def filledLines (s : String) (tail : List Char) : List Char :=
  '-' :: '-' :: '-' :: '\n' ::
    quotedLine Field.jsonRpcUrl.name.toList devnetRpcUrl.toList
      (quotedLine Field.websocketUrl.name.toList []
        (plainLine Field.keypairPath.name.toList (keypairPath s).toList
          (Field.addressLabels.name.toList ++ ':' :: '\n' :: ' ' :: ' ' ::
            labelLine (Field.commitment.name.toList ++ ':' :: ' ' ::
              ("confirmed".toList ++ tail)))))

theorem toList_fill (s : String) : (fill s).toList = filledLines s ['\n'] := by
  have hopening : opening = "---\n" ++ (Field.jsonRpcUrl.name ++ (": \x22" ++ (devnetRpcUrl ++
      ("\x22\n" ++ (Field.websocketUrl.name ++ (": \x22\x22\n" ++ (Field.keypairPath.name ++
        (": " ++ (keypairDir ++ "/"))))))))) := by decide +kernel
  have hclosing : closing = ".json" ++ ("\n" ++ (Field.addressLabels.name ++ (":\n  \x22" ++
      (systemProgramId ++ ("\x22: " ++ ("System Program" ++ ("\n" ++ (Field.commitment.name ++
        (": " ++ ("confirmed" ++ "\n")))))))))) := by decide +kernel
  rw [fill, hopening, hclosing]
  simp [filledLines, quotedLine, plainLine, labelLine, keypairPath]

theorem filledLines_append (s : String) (tail : List Char) :
    filledLines s tail = filledLines s [] ++ tail := by
  simp [filledLines, quotedLine, plainLine, labelLine]

theorem word_keypairPath {s : String} (hs : ∀ c ∈ s.toList, isPathChar c = true) :
    Phrase (keypairPath s).toList ∧ ∃ c ∈ (keypairPath s).toList.head?, opensPlain c = true := by
  have hdir : ∀ c ∈ (keypairDir ++ "/").toList, isInner c = true :=
    List.all_eq_true.mp (by decide +kernel)
  have hend : ∀ c ∈ ".json".toList, isInner c = true := List.all_eq_true.mp (by decide)
  obtain ⟨path, hpath⟩ : ∃ path, (keypairPath s).toList = '/' :: path := by
    rw [keypairPath, String.toList_append, String.toList_append]
    exact ⟨_, rfl⟩
  have hinner : ∀ c ∈ (keypairPath s).toList, isInner c = true := by
    intro c hc
    rw [keypairPath, String.toList_append, String.toList_append, List.mem_append,
      List.mem_append] at hc
    rcases hc with (hc | hc) | hc
    · exact hdir c hc
    · exact isInner_of_isPathChar (hs c hc)
    · exact hend c hc
  refine ⟨.word ?_ hinner, '/', ?_, by decide⟩
  · rw [hpath]
    exact List.cons_ne_nil '/' path
  · rw [hpath]
    rfl

theorem printable_fill {s : String} (hs : ∀ c ∈ s.toList, isPathChar c = true) :
    (fill s).toList.all isPrintable = true := by
  have hopening : opening.toList.all isPrintable = true := by decide +kernel
  have hclosing : closing.toList.all isPrintable = true := by decide +kernel
  have hs' : s.toList.all isPrintable = true :=
    List.all_eq_true.mpr fun c hc => isPrintable_of_isPathChar (hs c hc)
  rw [fill, String.toList_append, String.toList_append, List.all_append, List.all_append, hopening,
    hclosing, hs']
  rfl

/-! ## Scanning a document -/

/-- The names of fields are plain keys. -/
theorem isPlainKey_name (f : Field) : IsPlainKey f.name.toList := by
  cases f
  case jsonRpcUrl => exact ⟨⟨'j', rfl, by decide⟩, List.all_eq_true.mp (by decide), by decide⟩
  case websocketUrl => exact ⟨⟨'w', rfl, by decide⟩, List.all_eq_true.mp (by decide), by decide⟩
  case keypairPath => exact ⟨⟨'k', rfl, by decide⟩, List.all_eq_true.mp (by decide), by decide⟩
  case addressLabels => exact ⟨⟨'a', rfl, by decide⟩, List.all_eq_true.mp (by decide), by decide⟩
  case commitment => exact ⟨⟨'c', rfl, by decide⟩, List.all_eq_true.mp (by decide), by decide⟩

theorem phrase_label : Phrase "System Program".toList :=
  .space (w := "System".toList) (p := "Program".toList) (by decide)
    (List.all_eq_true.mp (by decide)) (.word (by decide) (List.all_eq_true.mp (by decide)))

theorem printable_filledLines {s : String} (hs : ∀ c ∈ s.toList, isPathChar c = true)
    {tail : List Char} (htail : tail.all isPrintable = true) :
    (filledLines s tail).all isPrintable = true := by
  have hlines := printable_fill hs
  rw [toList_fill, filledLines_append, List.all_append, Bool.and_eq_true] at hlines
  rw [filledLines_append, List.all_append, hlines.1, htail]
  rfl

/-- A document is scanned up to the end of its last line, whatever stands on the next one. Only the
end of its block is not known yet. -/
theorem steps_filledLines {s : String} (hs : ∀ c ∈ s.toList, isPathChar c = true)
    {tail next : List Char} (hend : LineEnd 0 tail next) :
    ∃ n ≤ (filledLines s tail).length, ∃ v signs, Steps n (start (filledLines s tail)) v ∧
      v.AtLine [0] signs 0 next ∧
      signs.reverse ++ [.blockEnd] = (tree (keypairPath s).toList).openSigns true := by
  obtain ⟨hpath, hfirst⟩ := word_keypairPath hs
  have hopens : ∀ (f : Field) (rest : List Char),
      IsIndented 0 (f.name.toList ++ rest) (f.name.toList ++ rest) :=
    fun f rest => isIndented_zero ((isPlainKey_name f).opensLine rest)
  have h₀ := Yaml.Scan.atLine_start (filledLines s tail) rfl (by simp [filledLines])
  obtain ⟨s₁, hs₁, h₁⟩ := h₀.steps_marker (hopens .jsonRpcUrl _)
  obtain ⟨s₂, hs₂, h₂⟩ := h₁.quotedEntry (isPlainKey_name .jsonRpcUrl)
    (List.all_eq_true.mp (by decide)) (hopens .websocketUrl _)
  obtain ⟨s₃, hs₃, h₃⟩ := h₂.quotedEntry (isPlainKey_name .websocketUrl) (by simp)
    (hopens .keypairPath _)
  obtain ⟨s₄, hs₄, h₄⟩ := h₃.plainEntry (isPlainKey_name .keypairPath) hpath hfirst
    (Nat.le_refl 0) (hopens .addressLabels _)
  obtain ⟨s₅, hs₅, h₅⟩ := h₄.plainKey (isPlainKey_name .addressLabels) rfl
  have h₆ := h₅.nested (k := 2) ⟨rfl, rfl⟩
  obtain ⟨s₇, hs₇, h₇⟩ := h₆.quotedKey (List.all_eq_true.mp (by decide)) (by decide) rfl
  obtain ⟨s₈, hs₈, h₈⟩ := h₇.plainValue phrase_label ⟨'S', rfl, by decide⟩ rfl (Nat.zero_le 2)
    (.line (hopens .commitment _))
  obtain ⟨s₉, hs₉, h₉⟩ := h₈.plainKey (isPlainKey_name .commitment) rfl
  obtain ⟨t, ht, hlast⟩ := h₉.plainValue (.word (by decide) (List.all_eq_true.mp (by decide)))
    ⟨'c', rfl, by decide⟩ rfl (Nat.le_refl 0) hend
  have hsteps := hs₁.trans (hs₂.trans (hs₃.trans (hs₄.trans (hs₅.trans (hs₇.trans (hs₈.trans
    (hs₉.trans ht)))))))
  refine ⟨_, ?_, t, _, hsteps, hlast, ?_⟩
  · simp [filledLines, quotedLine, plainLine, labelLine]
    omega
  · simp [tree, Tree.openSigns, Tree.signs, Tree.entrySigns, Yaml.Scan.keySigns,
      Yaml.Scan.keyColumns, Yaml.Scan.columnSigns, Yaml.Scan.withColumn]

/-- The signs of a document are those of its tree, whether its last line ends or not. -/
theorem scan_filledLines {s : String} (hs : ∀ c ∈ s.toList, isPathChar c = true) {tail : List Char}
    (hend : LineEnd 0 tail []) :
    ∃ tokens, Token.scan (filledLines s tail) = (tokens, none) ∧
      tokens.map Token.sign = (tree (keypairPath s).toList).documentSigns true := by
  have htail : tail.all isPrintable = true := by
    cases hend with
    | text => rfl
    | line hnext => rw [hnext.blanks]; rfl
  obtain ⟨n, hn, t, signs, hsteps, hlast, hopen⟩ := steps_filledLines hs hend
  obtain ⟨v, hv, hdone, hsigns⟩ := hlast.steps_finish
  refine ⟨v.released, Yaml.Scan.scan_of_steps (printable_filledLines hs htail) (hsteps.trans hv)
    hdone (by omega), hsigns.trans ?_⟩
  rw [Tree.documentSigns_eq, ← hopen]
  rfl

end Document

/-! ## Decoding a document -/

namespace Config

theorem ofName?_toList (f : Field) : Field.ofName? (String.ofList f.name.toList) = some f := by
  rw [String.ofList_toList, Field.ofName?_name]

/-- The tree of a document is a config, if no document follows. -/
theorem ofDocument_tree {items : List (Item Nat)} {path : List Char}
    (h : Spell items (Document.tree path).events) (more : Bool) :
    ofDocument ⟨items, none, more⟩ =
      if more then .error .severalDocuments
      else .ok { forUser 0 with keypairPath := String.ofList path } := by
  simp only [Document.tree, Tree.events, Tree.entryEvents, List.append_nil, List.cons_append,
    List.nil_append] at h
  refine ofDocument_of_entriesFrom h fun start inner h =>
    ⟨⟨some Document.devnetRpcUrl, some "", some (String.ofList path),
      some [(Document.systemProgramId, "System Program")], some "confirmed"⟩, ?_, rfl⟩
  refine entriesFrom_text _ h (ofName?_toList .jsonRpcUrl) (by decide) rfl fun rest h => ?_
  refine entriesFrom_text _ h (ofName?_toList .websocketUrl) (by decide) rfl fun rest h => ?_
  refine entriesFrom_text _ h (ofName?_toList .keypairPath) (by decide) rfl fun rest h => ?_
  refine entriesFrom_labels _ h (ofName?_toList .addressLabels) rfl fun path inner h => ?_
  obtain ⟨rest, h, hlabel⟩ := labelsFrom_label _ h
  obtain ⟨rest, h, hlabels⟩ := labelsFrom_end _ h
  refine ⟨_, _, hlabel.trans hlabels, ?_⟩
  refine entriesFrom_text _ h (ofName?_toList .commitment) (by decide) rfl fun rest h => ?_
  rw [entriesFrom_end _ h]
  simp [Draft.setText, Draft.empty, Fields.insert]

/-- A document is read as a config that differs from that of a user in the key pair alone, whether
its last line ends or not. -/
theorem read_filledLines {s : String} (hs : ∀ c ∈ s.toList, isPathChar c = true) {tail : List Char}
    (hend : LineEnd 0 tail []) :
    read (String.ofList (Document.filledLines s tail)) =
      .ok { forUser 0 with keypairPath := Document.keypairPath s } := by
  obtain ⟨tokens, hscan, hsigns⟩ := Document.scan_filledLines hs hend
  obtain ⟨items, hitems, hdocument⟩ := Yaml.Document.ofTokens_tree _ hsigns none
  have hread : Yaml.Document.read (String.ofList (Document.filledLines s tail)).toList =
      ⟨items, none, false⟩ := by
    rw [String.toList_ofList, Yaml.Document.read, hscan]
    exact hdocument
  rw [read, hread, ofDocument_tree hitems, String.ofList_toList]
  rfl

theorem read_fill {s : String} (hs : ∀ c ∈ s.toList, isPathChar c = true) :
    read (Document.fill s) = .ok { forUser 0 with keypairPath := Document.keypairPath s } := by
  rw [← String.ofList_toList (s := Document.fill s), Document.toList_fill]
  exact read_filledLines hs (.line ⟨rfl, rfl⟩)

/-- The document of a user is read as the config of that user, whether its last line ends or not. -/
theorem read_filledLines_decimal (u : Uid) {tail : List Char} (hend : LineEnd 0 tail []) :
    read (String.ofList (Document.filledLines u.decimal tail)) = .ok (forUser u) :=
  read_filledLines (fun _ => isPathChar_of_mem_decimal) hend

theorem read_fill_decimal (u : Uid) : read (Document.fill u.decimal) = .ok (forUser u) := by
  rw [← String.ofList_toList (s := Document.fill u.decimal), Document.toList_fill]
  exact read_filledLines_decimal u (.line ⟨rfl, rfl⟩)

theorem forUser_inj {u w : Uid} : forUser u = forUser w ↔ u = w := by
  refine ⟨fun h => ?_, fun h => by rw [h]⟩
  have hpath := congrArg Config.keypairPath h
  simp only [forUser, String.append_left_inj, String.append_right_inj, Uid.decimal_inj] at hpath
  exact hpath

/-- The document of a user is read as the config of that user and of no other. With any text of
letters, digits and the other characters of paths for the user, the path of the key pair has that
text, and the rest of the config is the same. -/
theorem read_render_eq_forUser :
    (∀ u : Uid, ∃ text config, Document.render u = .ok text ∧ read text = .ok config ∧
      ∀ w : Uid, config = forUser w ↔ w = u) ∧
    ∀ v : String, (∀ c ∈ v.toList, isPathChar c = true) →
      ∀ c : Template.Context, Fields.get? Document.uidKey c = some (.text v) →
        ∃ t text, Document.template = .ok t ∧ t.render c = .ok text ∧
          read text = .ok { forUser 0 with
            keypairPath := Document.keypairDir ++ "/" ++ v ++ ".json" } := by
  refine ⟨fun u => ?_, fun v hv c hc => ?_⟩
  · exact ⟨_, _, Document.render_eq u, read_fill_decimal u, fun w => forUser_inj.trans eq_comm⟩
  · exact ⟨_, _, Document.template_eq, Document.render_template Document.template_eq hc,
      read_fill hv⟩

/-- A text may climb out of the directory of the key pairs. -/
theorem read_render_eq_forUser_climbing :
    (∃ text, Document.render 7 = .ok text ∧ read text = .ok (forUser 7)) ∧
      ∃ t text, Document.template = .ok t ∧
        t.render [(Document.uidKey, .text "../other_dir/x-1")] = .ok text ∧
        (read text).toOption.map Config.keypairPath =
          some (Document.keypairDir ++ "/../other_dir/x-1.json") := by
  obtain ⟨husers, htexts⟩ := read_render_eq_forUser
  obtain ⟨text, config, htext, hread, hconfig⟩ := husers 7
  obtain ⟨t, text', ht, htext', hread'⟩ := htexts "../other_dir/x-1"
    (List.all_eq_true.mp (by decide)) [(Document.uidKey, .text "../other_dir/x-1")] rfl
  refine ⟨⟨text, htext, by rw [hread, (hconfig 7).mpr rfl]⟩, t, text', ht, htext', ?_⟩
  rw [hread']
  decide +kernel

end Config

end UserConfigs
