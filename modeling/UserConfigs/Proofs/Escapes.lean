import Mathlib.Algebra.Group.Nat.Defs
import UserConfigs.Proofs.Ascending
import UserConfigs.Proofs.LineReading

/-!
# Configs with escapes

Every config can be written : with one line for each field, texts between double quotes, labels
between braces, and an escape with its number for each character that is no printable character of
ASCII (`Config.IsEscapedAs`). Such a document is read as the config it was written from
(`Config.read_escaped`), so documents of different configs are different. `Config.escaped` is one
way to write a config.
-/

namespace UserConfigs

open Yaml (Spelled SpelledPair ValueText isPrintable)
open Yaml.Word (digitsFrom?)

/-! ## Escapes -/

/-- The last `width` digits of a number in hexadecimal. -/
def hexDigits : Nat → Nat → List Char
  | 0, _ => []
  | width + 1, n => hexDigits width (n / 16) ++ [Nat.digitChar (n % 16)]

/-- A character between double quotes, as an escape unless it stands for itself. -/
def escape (c : Char) : List Char :=
  if isQuotable c then [c]
  else if c.toNat < 0x100 then '\x5c' :: 'x' :: hexDigits 2 c.toNat
  else if c.toNat < 0x10000 then '\x5c' :: 'u' :: hexDigits 4 c.toNat
  else '\x5c' :: 'U' :: hexDigits 8 c.toNat

/-- A text with escapes. -/
def escapedText (s : String) : String := String.ofList (s.toList.flatMap escape)

theorem length_hexDigits : ∀ (width n : Nat), (hexDigits width n).length = width
  | 0, _ => rfl
  | width + 1, n => by simp [hexDigits, length_hexDigits width]

/-- The digits of the base sixteen, one by one. -/
theorem hexDigit?_digitChar : ∀ d < 16, Yaml.hexDigit? (Nat.digitChar d) = some d := by decide

/-- The digits of a number are read back as the number. -/
theorem digitsFrom?_hexDigits (m : Nat) : ∀ (width n : Nat) (rest : List Char),
    digitsFrom? 16 m (hexDigits width n ++ rest) =
      digitsFrom? 16 (m * 16 ^ width + n % 16 ^ width) rest
  | 0, n, rest => by simp [hexDigits, Nat.mod_one]
  | width + 1, n, rest => by
    have hdigit := hexDigit?_digitChar (n % 16) (Nat.mod_lt n (by decide))
    have hmod : n % 16 ^ (width + 1) = n % 16 + 16 * (n / 16 % 16 ^ width) := by
      rw [Nat.pow_succ, Nat.mul_comm, Nat.mod_mul]
    have hvalue : 16 * (m * 16 ^ width + n / 16 % 16 ^ width) + n % 16 =
        m * 16 ^ (width + 1) + n % 16 ^ (width + 1) := by
      rw [hmod, Nat.pow_succ, ← Nat.mul_assoc]
      omega
    rw [hexDigits, List.append_assoc, digitsFrom?_hexDigits m width (n / 16),
      List.singleton_append, digitsFrom?]
    simp only [hdigit, Nat.mod_lt n (show 16 > 0 by decide), if_true, hvalue]

theorem isTyped_of_mem_hexDigits : ∀ {width n : Nat} {c : Char}, c ∈ hexDigits width n →
    isTyped c = true
  | 0, n, c, h => absurd h List.not_mem_nil
  | width + 1, n, c, h => by
    have hdigit : ∀ d < 16, isTyped (Nat.digitChar d) = true := by decide
    rcases List.mem_append.mp h with h | h
    · exact isTyped_of_mem_hexDigits h
    · rw [List.mem_singleton.mp h]
      exact hdigit _ (Nat.mod_lt n (by decide))

/-- An escape of enough digits spells its character. -/
theorem spelled_hexDigits (letter : Char) {c : Char} {width : Nat}
    (hletter : Yaml.escapeLength? letter = some width) (hwidth : c.toNat < 16 ^ width)
    {s t : List Char} (h : Spelled s t) :
    Spelled (c :: s) ('\x5c' :: letter :: hexDigits width c.toNat ++ t) := by
  have hdigits := digitsFrom?_hexDigits 0 width c.toNat []
  rw [List.append_nil, Nat.zero_mul, Nat.zero_add, Nat.mod_eq_of_lt hwidth] at hdigits
  exact .escape (by rw [length_hexDigits, hletter]) (hdigits.trans (by rw [digitsFrom?])) h

/-- A character may be spelled by its escape, whatever is spelled behind it. -/
theorem spelled_escape (c : Char) {s t : List Char} (h : Spelled s t) :
    Spelled (c :: s) (escape c ++ t) := by
  have hvalid : c.toNat < 0xD800 ∨ 0xDFFF < c.toNat ∧ c.toNat < 0x110000 := c.valid
  unfold escape
  split
  · next hc => exact .self (isBody_of_isQuotable hc) h
  · split
    · next hc => exact spelled_hexDigits 'x' rfl hc h
    · split
      · next hc => exact spelled_hexDigits 'u' rfl hc h
      · exact spelled_hexDigits 'U' rfl (by omega) h

theorem isTyped_of_mem_escape {c d : Char} (h : d ∈ escape c) : isTyped d = true := by
  have hsigns : isTyped '\x5c' = true ∧ isTyped 'x' = true ∧ isTyped 'u' = true ∧
      isTyped 'U' = true := by decide
  have hescape : ∀ {letter : Char} {width : Nat}, isTyped letter = true →
      d ∈ '\x5c' :: letter :: hexDigits width c.toNat → isTyped d = true := by
    intro letter width hletter hd
    rcases List.mem_cons.mp hd with rfl | hd
    · exact hsigns.1
    · rcases List.mem_cons.mp hd with rfl | hd
      · exact hletter
      · exact isTyped_of_mem_hexDigits hd
  unfold escape at h
  split at h
  · next hc =>
    rw [List.mem_singleton.mp h]
    exact isTyped_of_isQuotable hc
  · split at h
    · exact hescape hsigns.2.1 h
    · split at h
      · exact hescape hsigns.2.2.1 h
      · exact hescape hsigns.2.2.2 h

/-- A text is spelled between double quotes, with printable characters of ASCII alone. -/
structure IsEscapedText (s source : String) : Prop where
  spelled : Spelled s.toList source.toList
  typed : ∀ c ∈ source.toList, isTyped c = true

/-- The text with all characters escaped spells the text. -/
theorem isEscapedText_escapedText (s : String) : IsEscapedText s (escapedText s) := by
  have hspelled : ∀ l : List Char, Spelled l (l.flatMap escape) := by
    intro l
    induction l with
    | nil => exact .nil
    | cons c l ih => exact spelled_escape c ih
  refine ⟨?_, fun c hc => ?_⟩
  · rw [escapedText, String.toList_ofList]
    exact hspelled s.toList
  · rw [escapedText, String.toList_ofList] at hc
    obtain ⟨d, -, hd⟩ := List.mem_flatMap.mp hc
    exact isTyped_of_mem_escape hd

namespace Config

/-! ## Configs -/

/-- What a config says, with a line for each field. -/
def lines (c : Config) : List Line :=
  [⟨Field.jsonRpcUrl.name, .text c.jsonRpcUrl .double⟩,
    ⟨Field.websocketUrl.name, .text c.websocketUrl .double⟩,
    ⟨Field.keypairPath.name, .text c.keypairPath .double⟩,
    ⟨Field.addressLabels.name, .labels c.addressLabels⟩,
    ⟨Field.commitment.name, .text c.commitment .double⟩]

/-- A label is spelled between double quotes, and its address is not too long for a key. -/
structure IsEscapedLabel (label source : String × String) : Prop where
  address : IsEscapedText label.1 source.1
  text : IsEscapedText label.2 source.2
  short : source.1.length ≤ 1000

/-- The texts of a config are spelled by the texts of another one. -/
structure IsEscapedAs (c source : Config) : Prop where
  jsonRpcUrl : IsEscapedText c.jsonRpcUrl source.jsonRpcUrl
  websocketUrl : IsEscapedText c.websocketUrl source.websocketUrl
  keypairPath : IsEscapedText c.keypairPath source.keypairPath
  addressLabels : List.Forall₂ IsEscapedLabel c.addressLabels source.addressLabels
  commitment : IsEscapedText c.commitment source.commitment

/-- A config with escapes in its texts. -/
def escaped (c : Config) : Config where
  jsonRpcUrl := escapedText c.jsonRpcUrl
  websocketUrl := escapedText c.websocketUrl
  keypairPath := escapedText c.keypairPath
  addressLabels := c.addressLabels.map fun l => (escapedText l.1, escapedText l.2)
  commitment := escapedText c.commitment

/-- Each config has a spelling by escapes, if its labels are short enough for keys. -/
theorem isEscapedAs_escaped {c : Config}
    (h : ∀ l ∈ c.addressLabels, (escapedText l.1).length ≤ 1000) : c.IsEscapedAs c.escaped := by
  refine ⟨isEscapedText_escapedText _, isEscapedText_escapedText _, isEscapedText_escapedText _, ?_,
    isEscapedText_escapedText _⟩
  refine List.forall₂_map_right_iff.mpr (List.forall₂_same.mpr fun l hl => ?_)
  exact ⟨isEscapedText_escapedText l.1, isEscapedText_escapedText l.2, h l hl⟩

/-- The names of fields are small letters and `_`. -/
theorem isNameChar_name (f : Field) : (∀ c ∈ f.name.toList, isNameChar c = true) ∧
    1 ≤ f.name.length ∧ f.name.length ≤ 1000 := by
  cases f <;> exact ⟨List.all_eq_true.mp (by decide), by decide⟩

theorem all_isPrintable_of_isTyped {s : List Char} (h : ∀ c ∈ s, isTyped c = true) :
    s.all isPrintable = true :=
  List.all_eq_true.mpr fun c hc => isPrintable_of_isTyped (h c hc)

/-- A field with a text. -/
theorem isSpelled_text (f : Field) {s source : String} (h : IsEscapedText s source) :
    Line.IsSpelled ⟨f.name, .text s .double⟩ ⟨f.name, .text source .double⟩ := by
  obtain ⟨hname, hlength⟩ := isNameChar_name f
  refine ⟨rfl, hname, hlength, ?_, ?_⟩
  · simp only [Said.written, String.toList_append]
    exact .double h.spelled
  · have hquote : isPrintable '\x22' = true := by decide
    simp [Said.written, List.all_append, hquote, all_isPrintable_of_isTyped h.typed]

/-- The field with the labels, which is spelled label by label. -/
theorem isSpelled_labels (f : Field) {labels sources : List (String × String)}
    (h : List.Forall₂ IsEscapedLabel labels sources) :
    Line.IsSpelled ⟨f.name, .labels labels⟩ ⟨f.name, .labels sources⟩ := by
  obtain ⟨hname, hlength⟩ := isNameChar_name f
  refine ⟨rfl, hname, hlength, ?_, ?_⟩
  · rw [toList_written_labels]
    refine .braces (List.forall₂_map_left_iff.mpr (List.forall₂_map_right_iff.mpr (h.imp ?_)))
    intro label source hlabel
    refine ⟨hlabel.address.spelled, hlabel.text.spelled, ?_⟩
    have hshort := hlabel.short
    rw [← String.length_toList] at hshort
    exact Nat.le_trans (Nat.add_le_add_right hshort 2) (by decide)
  · have htyped : ∀ source ∈ sources, source.1.toList.all isPrintable = true ∧
        source.2.toList.all isPrintable = true := by
      clear hname hlength
      induction h with
      | nil => simp
      | cons hlabel _ ih =>
        exact List.forall_mem_cons.mpr ⟨⟨all_isPrintable_of_isTyped hlabel.address.typed,
          all_isPrintable_of_isTyped hlabel.text.typed⟩, ih⟩
    rw [toList_written_labels]
    refine Yaml.all_isPrintable_bracesText fun p hp => ?_
    obtain ⟨source, hsource, rfl⟩ := List.mem_map.mp hp
    exact htyped source hsource

/-- A config is spelled field by field. -/
theorem IsEscapedAs.isSpelled {c source : Config} (h : c.IsEscapedAs source) :
    List.Forall₂ Line.IsSpelled c.lines source.lines :=
  .cons (isSpelled_text _ h.jsonRpcUrl) (.cons (isSpelled_text _ h.websocketUrl)
    (.cons (isSpelled_text _ h.keypairPath) (.cons (isSpelled_labels _ h.addressLabels)
      (.cons (isSpelled_text _ h.commitment) .nil))))

/-- The lines of a config say it. -/
theorem decode_lines {c : Config} (h : c.addressLabels.Ascending) : decode c.lines = .ok c := by
  have hfield : ∀ (f : Field) (said : Said), (Line.mk f.name said).field? = some f :=
    fun f _ => Field.ofName?_name f
  simp [decode, lines, repeated?, missing?, Field.all, textOf, labelsOf, said?, hfield,
    Said.asText, Said.asLabels, Fields.ofList_of_ascending h]

/-- A config is read from each of its spellings, with a line break at the end or without. -/
theorem read_of_isEscapedAs {c source : Config} (h : c.IsEscapedAs source)
    (hlabels : c.addressLabels.Ascending) :
    ∀ text ∈ [writtenLines source.lines, writtenLines source.lines ++ "\n"], read text = .ok c := by
  intro text htext
  have hfits : ∀ l ∈ c.lines, l.Fits := by
    simp [lines, Line.Fits, Said.isLabels, Field.name]
  have hread := read_spelledLines h.isSpelled (by simp [lines]) hfits text htext
  rwa [decode_lines hlabels] at hread

/-- No config is lost in writing. However its texts are spelled with escapes, the document is read
as the config, so documents of different configs are different; and there is such a document for
every config with addresses that are not too long for keys. -/
theorem read_escaped :
    (∀ c source : Config, c.addressLabels.Ascending → c.IsEscapedAs source →
      ∀ text ∈ [writtenLines source.lines, writtenLines source.lines ++ "\n"], read text = .ok c) ∧
    (∀ c d source source' : Config, c.addressLabels.Ascending → d.addressLabels.Ascending →
      c.IsEscapedAs source → d.IsEscapedAs source' →
        writtenLines source.lines = writtenLines source'.lines → c = d) ∧
    ∀ c : Config, c.addressLabels.Ascending →
      (∀ l ∈ c.addressLabels, (escapedText l.1).length ≤ 1000) →
        c.IsEscapedAs c.escaped ∧ read (writtenLines c.escaped.lines) = .ok c := by
  refine ⟨fun c source hc h => read_of_isEscapedAs h hc,
    fun c d source source' hc hd h h' heq => ?_, fun c hc hshort => ?_⟩
  · have hread := read_of_isEscapedAs h hc _ List.mem_cons_self
    rw [heq, read_of_isEscapedAs h' hd _ List.mem_cons_self] at hread
    exact (Except.ok.inj hread).symm
  · have h := isEscapedAs_escaped hshort
    exact ⟨h, read_of_isEscapedAs h hc _ List.mem_cons_self⟩

/-- A config with a line break, a quote, a backslash, an emoji and the character with the number
zero. -/
def oddConfig : Config where
  jsonRpcUrl := String.ofList [Char.ofNat 0]
  websocketUrl := "a\nb"
  keypairPath := "\x22"
  addressLabels := [(String.ofList [Char.ofNat 0x1F600], "\x5c")]
  commitment := "\u00E9"

theorem read_escaped_odd :
    oddConfig.addressLabels.Ascending ∧ oddConfig.IsEscapedAs oddConfig.escaped ∧
      writtenLines oddConfig.escaped.lines = "json_rpc_url: \x22\x5cx00\x22\n" ++
        "websocket_url: \x22a\x5cx0ab\x22\n" ++ "keypair_path: \x22\x5cx22\x22\n" ++
        "address_labels: \x7b\x22\x5cU0001f600\x22: \x22\x5cx5c\x22\x7d\n" ++
        "commitment: \x22\x5cxe9\x22" ∧
      read (writtenLines oddConfig.escaped.lines) = .ok oddConfig := by
  have hlabels : oddConfig.addressLabels.Ascending := List.pairwise_singleton _ _
  obtain ⟨hread, -, hexists⟩ := read_escaped
  obtain ⟨hescaped, -⟩ := hexists oddConfig hlabels (by decide +kernel)
  exact ⟨hlabels, hescaped, by decide +kernel,
    hread oddConfig oddConfig.escaped hlabels hescaped _ List.mem_cons_self⟩

end Config

end UserConfigs
