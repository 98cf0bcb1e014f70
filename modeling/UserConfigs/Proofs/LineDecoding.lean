import UserConfigs.Proofs.Decoding
import UserConfigs.Proofs.Lines

/-!
# Configs from lines

A `Line` of a document has a key and says a text or labels. `decode` tells what lines say as a
config, without a word on documents : the first field that comes once more is an error
(`repeated?`), then the first one that no line has (`missing?`), and else every field is what its
line says. A draft that reads line after line comes to the same (`Draft.readLines_ofLines`), so a
document that has the lines, in whatever way they are written, is read as `decode` tells
(`read_of_linesText`).
-/

namespace UserConfigs.Config

open Yaml (Item Mark Event Spell Style Tree LinesText isPrintable)

/-! ## Lines -/

/-- How a text stands behind the colon. -/
inductive Quotes where
  | none
  | single
  | double
  deriving Repr, DecidableEq

/-- The style of the scalar. -/
def Quotes.style : Quotes → Style
  | none => .plain
  | single => .singleQuoted
  | double => .doubleQuoted

/-- What a line says. -/
inductive Said where
  | text (s : String) (quotes : Quotes)
  | labels (pairs : List (String × String))
  deriving Repr, DecidableEq

namespace Said

/-- The text that is said. -/
def asText : Said → String
  | text s _ => s
  | labels _ => ""

/-- The labels that are said, of two for one address the later one. -/
def asLabels : Said → Fields String
  | text _ _ => []
  | labels pairs => Fields.ofList pairs

/-- Labels are said. -/
def isLabels : Said → Bool
  | text _ _ => false
  | labels _ => true

/-- The value in the document. -/
def tree : Said → Tree
  | text s quotes => .scalar s.toList quotes.style
  | labels pairs => .braces (pairs.map fun p => (p.1.toList, p.2.toList))

end Said

/-- A line of a document. -/
structure Line where
  key : String
  said : Said
  deriving Repr, DecidableEq

namespace Line

/-- The field that a line is about. -/
def field? (l : Line) : Option Field := Field.ofName? l.key

/-- The entry in the document. -/
def entry (l : Line) : Tree × Tree := (.scalar l.key.toList .plain, l.said.tree)

/-- The field of labels says labels, and nothing else does. -/
def Fits (l : Line) : Prop := l.key = Field.addressLabels.name ↔ l.said.isLabels = true

end Line

/-! ## What lines say -/

/-- The first field that comes once more, where those of `seen` came already. -/
def repeated? (seen : List Field) : List Line → Option Field
  | [] => none
  | l :: lines =>
    match l.field? with
    | none => repeated? seen lines
    | some f => if f ∈ seen then some f else repeated? (f :: seen) lines

/-- What is said of a field. -/
def said? (f : Field) (lines : List Line) : Option Said :=
  (lines.find? (·.field? = some f)).map (·.said)

/-- The first field, in the order in which they are looked for, that no line is about. -/
def missing? (lines : List Line) : Option Field := Field.all.find? fun f => (said? f lines).isNone

/-- The text that is said of a field. -/
def textOf (f : Field) (lines : List Line) : String := ((said? f lines).map Said.asText).getD ""

/-- The labels that are said of a field. -/
def labelsOf (f : Field) (lines : List Line) : Fields String :=
  ((said? f lines).map Said.asLabels).getD []

/-- The config that lines say, or how the message begins that says why they say none. -/
def decode (lines : List Line) : Except String Config :=
  match repeated? [] lines with
  | some f => .error ("duplicate field \x60" ++ f.name ++ "\x60")
  | none =>
    match missing? lines with
    | some f => .error ("missing field \x60" ++ f.name ++ "\x60")
    | none => .ok {
        jsonRpcUrl := textOf .jsonRpcUrl lines
        websocketUrl := textOf .websocketUrl lines
        keypairPath := textOf .keypairPath lines
        addressLabels := labelsOf .addressLabels lines
        commitment := textOf .commitment lines }

theorem said?_append (f : Field) (lines lines' : List Line) :
    said? f (lines ++ lines') = (said? f lines).or (said? f lines') := by
  rw [said?, List.find?_append, Option.map_or]
  rfl

theorem said?_singleton (f : Field) (l : Line) :
    said? f [l] = if l.field? = some f then some l.said else none := by
  by_cases h : l.field? = some f <;> simp [said?, h]

/-! ## Drafts line by line -/

namespace Draft

/-- The draft with what a line says of a field. -/
def say (d : Draft) (f : Field) : Said → Draft
  | .text s _ => d.setText s f
  | .labels pairs => { d with addressLabels := some (Fields.ofList pairs) }

/-- Read line after line, up to a field that came before. -/
def readLines (d : Draft) : List Line → Except Field Draft
  | [] => .ok d
  | l :: lines =>
    match l.field? with
    | none => d.readLines lines
    | some f => if d.has f then .error f else (d.say f l.said).readLines lines

/-- What lines say, as a draft. -/
def ofLines (lines : List Line) : Draft where
  jsonRpcUrl := (said? .jsonRpcUrl lines).map Said.asText
  websocketUrl := (said? .websocketUrl lines).map Said.asText
  keypairPath := (said? .keypairPath lines).map Said.asText
  addressLabels := (said? .addressLabels lines).map Said.asLabels
  commitment := (said? .commitment lines).map Said.asText

theorem has_ofLines (f : Field) (lines : List Line) :
    (ofLines lines).has f = (said? f lines).isSome := by
  cases f <;> simp [has, ofLines]

/-- A line about a field that was not said adds what it says. -/
theorem say_ofLines {lines : List Line} {l : Line} {f : Field} (hfield : l.field? = some f)
    (hfits : f = .addressLabels ↔ l.said.isLabels = true) (hnew : said? f lines = none) :
    (ofLines lines).say f l.said = ofLines (lines ++ [l]) := by
  have hother : ∀ g : Field, g ≠ f → said? g (lines ++ [l]) = said? g lines := by
    intro g hg
    rw [said?_append, said?_singleton, hfield, if_neg (by simpa using hg.symm), Option.or_none]
  have hself : said? f (lines ++ [l]) = some l.said := by
    rw [said?_append, hnew, said?_singleton, if_pos hfield]
    rfl
  cases hsaid : l.said with
  | text s quotes =>
    rw [hsaid] at hself
    cases f
    case addressLabels => simp [hsaid, Said.isLabels] at hfits
    all_goals simp [say, setText, ofLines, hself, hother, Said.asText]
  | labels pairs =>
    obtain rfl := hfits.mpr (by rw [hsaid]; rfl)
    rw [hsaid] at hself
    simp [say, ofLines, hself, hother, Said.asLabels]

/-- A line about no field adds nothing. -/
theorem ofLines_append_of_none {l : Line} (hfield : l.field? = none) (lines : List Line) :
    ofLines (lines ++ [l]) = ofLines lines := by
  have hsame : ∀ f : Field, said? f (lines ++ [l]) = said? f lines := fun f => by
    rw [said?_append, said?_singleton, hfield, if_neg (by simp), Option.or_none]
  simp [ofLines, hsame]

end Draft

theorem ofName?_eq_some_iff {s : String} {f : Field} : Field.ofName? s = some f ↔ s = f.name := by
  constructor
  · intro h
    simpa [eq_comm] using List.find?_some h
  · rintro rfl
    exact Field.ofName?_name f

theorem Line.Fits.field {l : Line} (h : l.Fits) {f : Field} (hfield : l.field? = some f) :
    f = .addressLabels ↔ l.said.isLabels = true := by
  have hkey : l.key = f.name := ofName?_eq_some_iff.mp hfield
  refine Iff.trans ?_ h
  rw [hkey]
  cases f <;> decide

/-- Reading line after line gives what the lines say, or the first field that comes once more. -/
theorem Draft.readLines_ofLines : ∀ {lines done : List Line} {seen : List Field},
    (∀ l ∈ lines, l.Fits) → (∀ f, f ∈ seen ↔ (said? f done).isSome = true) →
      (ofLines done).readLines lines =
        match repeated? seen lines with
        | some f => .error f
        | none => .ok (ofLines (done ++ lines))
  | [], done, seen, _, _ => by simp [readLines, repeated?]
  | l :: lines, done, seen, hfits, hseen => by
    obtain ⟨hl, hlines⟩ := List.forall_mem_cons.mp hfits
    cases hfield : l.field? with
    | none =>
      have hdone : ∀ f, f ∈ seen ↔ (said? f (done ++ [l])).isSome = true := fun f => by
        rw [hseen, said?_append, said?_singleton, hfield, if_neg (by simp), Option.or_none]
      have ih := readLines_ofLines hlines hdone
      rw [ofLines_append_of_none hfield, List.append_assoc, List.singleton_append] at ih
      simp only [readLines, repeated?, hfield, ih]
    | some f =>
      by_cases hmem : f ∈ seen
      · simp [readLines, repeated?, hfield, hmem, has_ofLines, (hseen f).mp hmem]
      · have hnew : said? f done = none := by simpa using mt (hseen f).mpr hmem
        have hdone : ∀ g, g ∈ f :: seen ↔ (said? g (done ++ [l])).isSome = true := fun g => by
          rw [List.mem_cons, hseen, said?_append, said?_singleton]
          by_cases hg : g = f
          · simp [hfield, hg]
          · simp [hfield, hg, Ne.symm hg]
        have ih := readLines_ofLines hlines hdone
        rw [← say_ofLines hfield (hl.field hfield) hnew, List.append_assoc,
          List.singleton_append] at ih
        simp [readLines, repeated?, hfield, hmem, has_ofLines, hnew, ih]

/-- What lines say, and the first field that they do not say. -/
theorem Draft.finish_ofLines (lines : List Line) :
    (ofLines lines).finish =
      match missing? lines with
      | some f => .error f
      | none => .ok ⟨textOf .jsonRpcUrl lines, textOf .websocketUrl lines,
          textOf .keypairPath lines, labelsOf .addressLabels lines, textOf .commitment lines⟩ := by
  unfold finish ofLines missing? Field.all textOf labelsOf
  cases hrpc : said? .jsonRpcUrl lines with
  | none => simp [hrpc]
  | some a =>
    cases hsocket : said? .websocketUrl lines with
    | none => simp [hrpc, hsocket]
    | some b =>
      cases hpath : said? .keypairPath lines with
      | none => simp [hrpc, hsocket, hpath]
      | some c =>
        cases hlabels : said? .addressLabels lines with
        | none => simp [hrpc, hsocket, hpath, hlabels]
        | some d =>
          cases hcommitment : said? .commitment lines <;>
            simp [hrpc, hsocket, hpath, hlabels, hcommitment]

/-! ## Documents -/

/-- Pairs between braces are labels, each in the place of an earlier one for its address. -/
theorem labelsFrom_pairs (doc : Yaml.Document) (path : Path) {events : List (Event Empty)} :
    ∀ (pairs : List (String × String)) (labels : Fields String) {items : List (Item Nat)},
      Spell items ((pairs.map fun p => (p.1.toList, p.2.toList)).flatMap Tree.pairEvents ++
        .mappingEnd :: events) →
      ∃ rest, Spell rest events ∧ labelsFrom doc path labels items =
        .ok (pairs.foldl (fun l p => l.insert p.1 p.2) labels, rest)
  | [], labels, items, h => labelsFrom_end doc h
  | p :: pairs, labels, items, h => by
    obtain ⟨rest, hrest, hlabel⟩ := @labelsFrom_label doc path labels _ _ _ _ _ _ h
    obtain ⟨last, hlast, hpairs⟩ := labelsFrom_pairs doc path pairs
      (labels.insert p.1 p.2) hrest
    rw [String.ofList_toList, String.ofList_toList] at hlabel
    exact ⟨last, hlast, hlabel.trans hpairs⟩

/-- The entries of lines are read line after line. -/
theorem entriesFrom_lines (doc : Yaml.Document) (start : Mark) :
    ∀ {lines : List Line} {draft : Draft} {items : List (Item Nat)}, (∀ l ∈ lines, l.Fits) →
      Spell items (Tree.entryEvents (lines.map Line.entry) ++ [.mappingEnd]) →
      entriesFrom doc start draft items =
        match draft.readLines lines with
        | .error f => .error (.fault (.duplicate f) [] start)
        | .ok draft => .ok draft
  | [], draft, items, _, h => entriesFrom_end doc h
  | ⟨key, .text s quotes⟩ :: lines, draft, items, hfits, h => by
    obtain ⟨hl, hlines⟩ := List.forall_mem_cons.mp hfits
    have hkey : Field.ofName? (String.ofList key.toList) =
        (Line.mk key (.text s quotes)).field? := by
      rw [String.ofList_toList, Line.field?]
    cases hfield : (Line.mk key (.text s quotes)).field? with
    | none =>
      obtain ⟨rest, hrest, heq⟩ :=
        @entriesFrom_unknown doc start draft _ _ _ _ _ _ h (hkey.trans hfield)
      rw [heq, entriesFrom_lines doc start hlines hrest]
      simp only [Draft.readLines, hfield]
    | some f =>
      have hlabels : f ≠ .addressLabels := fun hf =>
        absurd ((hl.field hfield).mp hf) Bool.false_ne_true
      simp only [Draft.readLines, hfield]
      cases hhas : draft.has f with
      | true => exact entriesFrom_duplicate doc h (hkey.trans hfield) hhas
      | false =>
        refine entriesFrom_text doc h (hkey.trans hfield) hlabels hhas fun rest hrest => ?_
        rw [String.ofList_toList]
        exact entriesFrom_lines doc start hlines hrest
  | ⟨key, .labels pairs⟩ :: lines, draft, items, hfits, h => by
    obtain ⟨hl, hlines⟩ := List.forall_mem_cons.mp hfits
    have hfield : (Line.mk key (.labels pairs)).field? = some .addressLabels := by
      rw [Line.field?, ofName?_eq_some_iff]
      exact hl.mpr rfl
    have hkey : Field.ofName? (String.ofList key.toList) = some .addressLabels := by
      rw [String.ofList_toList]
      exact hfield
    simp only [Line.entry, Said.tree, List.map_cons, Tree.entryEvents, Tree.events,
      List.cons_append, List.append_assoc, List.nil_append] at h
    simp only [Draft.readLines, hfield]
    cases hhas : draft.has .addressLabels with
    | true => exact entriesFrom_duplicate doc h hkey hhas
    | false =>
      refine entriesFrom_labels doc h hkey hhas fun path inner hinner => ?_
      obtain ⟨rest, hrest, hpairs⟩ := labelsFrom_pairs doc path pairs [] hinner
      exact ⟨_, rest, hpairs, entriesFrom_lines doc start hlines hrest⟩

theorem message_fault (fault : Fault) (mark : Mark) :
    (Error.fault fault [] mark).message = fault.text ++ mark.place :=
  congrArg (· ++ mark.place) (String.empty_append (s := fault.text))

/-- A document with lines, in whatever way their values are written, is read as the config that the
lines say, or with an error that begins as it has to. -/
theorem read_of_linesText {lines : List Line} (hne : lines ≠ []) (hfits : ∀ l ∈ lines, l.Fits)
    {text : List Char} (htext : LinesText (lines.map Line.entry) text)
    (hprint : text.all isPrintable = true) (hmark : text.head? ≠ some '\uFEFF') :
    match decode lines with
    | .ok config => read (String.ofList text) = .ok config
    | .error opening => ∃ e place, read (String.ofList text) = .error e ∧
        e.message = opening ++ place := by
  obtain ⟨items, hitems, hdocument⟩ := Yaml.Document.read_linesText htext
    (by simpa using hne) hprint hmark
  rw [Tree.events] at hitems
  obtain ⟨start, inner, hinner, hread⟩ := ofDocument_mapping hitems
  have hlines := @entriesFrom_lines ⟨items, none, false⟩ start lines .empty inner hfits hinner
  have hempty : Draft.empty = Draft.ofLines [] := rfl
  have hseen : ∀ f : Field, f ∈ [] ↔ (said? f []).isSome = true := by simp [said?]
  rw [hlines, hempty, Draft.readLines_ofLines hfits hseen] at hread
  rw [read, String.toList_ofList, hdocument, hread]
  unfold decode
  cases hrepeated : repeated? [] lines with
  | some f => exact ⟨.fault (.duplicate f) [] start, start.place, rfl, message_fault _ start⟩
  | none =>
    simp only [List.nil_append, Draft.finish_ofLines]
    cases hmissing : missing? lines with
    | some f => exact ⟨.fault (.missing f) [] start, start.place, rfl, message_fault _ start⟩
    | none => rfl

end UserConfigs.Config
