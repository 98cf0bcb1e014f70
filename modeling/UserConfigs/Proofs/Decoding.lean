import UserConfigs.Config.Read
import UserConfigs.Proofs.Trees

/-!
# Configs from events

The fields of a config are read entry by entry. An entry of a text sets its field
(`entriesFrom_text`), and so does an entry of labels, which are read one by one themselves
(`entriesFrom_labels`, `labelsFrom_label`). Other names are passed over (`entriesFrom_unknown`), and
a field may not come again (`entriesFrom_duplicate`). The end of the mapping gives the draft
(`entriesFrom_end`), and the draft the config (`ofDocument_mapping`). Only the events matter, not
where they stand in the text (`Yaml.Spell`).
-/

namespace UserConfigs.Config

open Yaml (Item Mark Event Spell Style)

variable (doc : Yaml.Document)

/-! ## Texts -/

/-- A scalar is a text, whatever it looks like. -/
theorem text_scalar (wanted : Wanted) (path : Path) {item : Item Nat} {tag : Option (List Char)}
    {s : List Char} {style : Style} (h : item.event = .scalar tag s style)
    (rest : List (Item Nat)) : text doc wanted path (item :: rest) = .ok (String.ofList s) := by
  obtain ⟨event, anchor, mark⟩ := item
  obtain rfl : event = _ := h
  rfl

/-! ## Entries -/

theorem entriesFrom_of_entry {start : Mark} {draft draft' : Draft} {key : Item Nat}
    {items rest : List (Item Nat)} (hkey : key.event ≠ .mappingEnd)
    (h : entry doc start draft key items = .ok (draft', rest)) :
    entriesFrom doc start draft (key :: items) = entriesFrom doc start draft' rest := by
  rw [entriesFrom, if_neg hkey]
  split
  · next he => simp [h] at he
  · next he =>
    rw [h, Except.ok.injEq, Prod.mk.injEq] at he
    rw [he.1, he.2]

section

variable {start : Mark} {draft : Draft} {items : List (Item Nat)} {events : List (Event Empty)}
  {name value : List Char} {style style' : Style}

/-- A field with a text. -/
theorem entriesFrom_text {field : Field}
    (h : Spell items (.scalar none name style :: .scalar none value style' :: events))
    (hname : Field.ofName? (String.ofList name) = some field) (hfield : field ≠ .addressLabels)
    (hfresh : draft.has field = false) {r : Except Error Draft}
    (hrest : ∀ rest, Spell rest events →
      entriesFrom doc start (draft.setText (String.ofList value) field) rest = r) :
    entriesFrom doc start draft items = r := by
  obtain ⟨key, afterKey, rfl, hkey, hvalue⟩ := h.exists_cons
  obtain ⟨item, rest, rfl, hitem, hspell⟩ := hvalue.exists_cons
  rw [← hrest rest hspell]
  refine entriesFrom_of_entry doc (by simp [hkey, Event.lift]) ?_
  simp only [entry, text_scalar doc _ _ hkey, hname, hfresh, hfield, text_scalar doc _ _ hitem,
    if_false, Bool.false_eq_true, List.drop_succ_cons, List.drop_zero]

/-- The field with the labels. -/
theorem entriesFrom_labels (h : Spell items (.scalar none name style :: .mappingStart :: events))
    (hname : Field.ofName? (String.ofList name) = some .addressLabels)
    (hfresh : draft.has .addressLabels = false) {r : Except Error Draft}
    (hrest : ∀ path inner, Spell inner events → ∃ l rest,
      labelsFrom doc path [] inner = .ok (l, rest) ∧
        entriesFrom doc start { draft with addressLabels := some l } rest = r) :
    entriesFrom doc start draft items = r := by
  obtain ⟨key, afterKey, rfl, hkey, hlabels⟩ := h.exists_cons
  obtain ⟨⟨event, anchor, mark⟩, inner, rfl, hevent, hinner⟩ := hlabels.exists_cons
  obtain rfl : event = .mappingStart := hevent
  obtain ⟨l, rest, hl, hlast⟩ := hrest [keyPart key] inner hinner
  rw [← hlast]
  refine entriesFrom_of_entry doc (by simp [hkey, Event.lift]) ?_
  simp only [entry, text_scalar doc _ _ hkey, hname, hfresh, labels, hl, if_true, if_false,
    Bool.false_eq_true]

/-- A text under a name that no field has. -/
theorem entriesFrom_unknown
    (h : Spell items (.scalar none name style :: .scalar none value style' :: events))
    (hname : Field.ofName? (String.ofList name) = none) :
    ∃ rest, Spell rest events ∧
      entriesFrom doc start draft items = entriesFrom doc start draft rest := by
  obtain ⟨key, afterKey, rfl, hkey, hvalue⟩ := h.exists_cons
  obtain ⟨⟨event, anchor, mark⟩, rest, rfl, hevent, hspell⟩ := hvalue.exists_cons
  obtain rfl : event = .scalar none value style' := hevent
  refine ⟨rest, hspell, entriesFrom_of_entry doc (by simp [hkey, Event.lift]) ?_⟩
  simp only [entry, text_scalar doc _ _ hkey, hname, skip?, if_true]

/-- A field that was read comes once more. -/
theorem entriesFrom_duplicate {field : Field} (h : Spell items (.scalar none name style :: events))
    (hname : Field.ofName? (String.ofList name) = some field) (hfield : draft.has field = true) :
    entriesFrom doc start draft items = .error (.fault (.duplicate field) [] start) := by
  obtain ⟨key, rest, rfl, hkey, -⟩ := h.exists_cons
  have hentry : entry doc start draft key rest =
      .error (.fault (.duplicate field) [] start) := by
    simp only [entry, text_scalar doc _ _ hkey, hname, hfield, if_true]
  rw [entriesFrom, if_neg (by simp [hkey, Event.lift])]
  split
  · next he => rw [Except.error.inj (he.symm.trans hentry)]
  · next he => simp [hentry] at he

/-- The end of the mapping. -/
theorem entriesFrom_end (h : Spell items (.mappingEnd :: events)) :
    entriesFrom doc start draft items = .ok draft := by
  obtain ⟨key, rest, rfl, hkey, -⟩ := h.exists_cons
  have hend : key.event = .mappingEnd := hkey
  rw [entriesFrom, if_pos hend]

end

/-! ## Labels -/

section

variable {path : Path} {labels : Fields String} {items : List (Item Nat)}
  {events : List (Event Empty)} {name value : List Char} {style style' : Style}

theorem labelsFrom_label
    (h : Spell items (.scalar none name style :: .scalar none value style' :: events)) :
    ∃ rest, Spell rest events ∧ labelsFrom doc path labels items =
      labelsFrom doc path (labels.insert (String.ofList name) (String.ofList value)) rest := by
  obtain ⟨key, afterKey, rfl, hkey, hvalue⟩ := h.exists_cons
  obtain ⟨item, rest, rfl, hitem, hrest⟩ := hvalue.exists_cons
  refine ⟨rest, hrest, ?_⟩
  rw [labelsFrom, if_neg (by simp [hkey, Event.lift])]
  simp only [text_scalar doc _ _ hkey, text_scalar doc _ _ hitem]

theorem labelsFrom_end (h : Spell items (.mappingEnd :: events)) :
    ∃ rest, Spell rest events ∧ labelsFrom doc path labels items = .ok (labels, rest) := by
  obtain ⟨key, rest, rfl, hkey, hrest⟩ := h.exists_cons
  have hend : key.event = .mappingEnd := hkey
  exact ⟨rest, hrest, by rw [labelsFrom, if_pos hend]⟩

end

/-! ## Documents -/

/-- A mapping says what its entries say, if they say all fields. -/
theorem ofItems_mapping {items : List (Item Nat)} {events : List (Event Empty)}
    (h : Spell items (.mappingStart :: events)) (more : Bool) :
    ∃ start inner, Spell inner events ∧ ofItems ⟨items, none, more⟩ =
      match entriesFrom ⟨items, none, more⟩ start .empty inner with
      | .error e => .error e
      | .ok draft =>
        match draft.finish with
        | .ok config => .ok config
        | .error field => .error (.fault (.missing field) [] start) := by
  obtain ⟨⟨event, anchor, mark⟩, inner, rfl, hevent, hinner⟩ := h.exists_cons
  obtain rfl : event = .mappingStart := hevent
  exact ⟨mark, inner, hinner, rfl⟩

/-- A document with a mapping says what its entries say, if they say all fields. -/
theorem ofDocument_mapping {items : List (Item Nat)} {events : List (Event Empty)}
    (h : Spell items (.mappingStart :: events)) :
    ∃ start inner, Spell inner events ∧ ofDocument ⟨items, none, false⟩ =
      match entriesFrom ⟨items, none, false⟩ start .empty inner with
      | .error e => .error e
      | .ok draft =>
        match draft.finish with
        | .ok config => .ok config
        | .error field => .error (.fault (.missing field) [] start) := by
  obtain ⟨start, inner, hinner, hitems⟩ := ofItems_mapping h false
  refine ⟨start, inner, hinner, ?_⟩
  rw [ofDocument, hitems]
  cases entriesFrom _ start .empty inner with
  | error e => rfl
  | ok draft =>
    dsimp only
    cases draft.finish <;> rfl

/-- A document with a mapping, in which all fields were found. It may not be followed by another
document. -/
theorem ofDocument_of_entriesFrom {items : List (Item Nat)} {events : List (Event Empty)}
    (h : Spell items (.mappingStart :: events)) {more : Bool} {config : Config}
    (hentries : ∀ start inner, Spell inner events →
      ∃ draft, entriesFrom ⟨items, none, more⟩ start .empty inner = .ok draft ∧
        draft.finish = .ok config) :
    ofDocument ⟨items, none, more⟩ =
      if more then .error .severalDocuments else .ok config := by
  obtain ⟨start, inner, hinner, hitems⟩ := ofItems_mapping h more
  obtain ⟨draft, hdraft, hfinish⟩ := hentries start inner hinner
  simp only [ofDocument, hitems, hdraft, hfinish]

end UserConfigs.Config
