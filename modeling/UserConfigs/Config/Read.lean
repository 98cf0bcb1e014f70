import UserConfigs.Config.Error

/-!
# Reading configs

`Config.read` reads a config from a YAML text. A config is a mapping with every field once;
other names are passed over with what they stand for. Any scalar is a text. Labels are a
mapping from texts to texts, of two labels for one address the later one. Where a mapping is
wanted, nothing at all is a mapping without entries.

What the items of the document say is looked at in their order, so of two things that are
wrong the first one is told, and what is wrong with the rest of the text comes last.
-/

namespace UserConfigs.Config

open Yaml (Item Mark)

/-- A draft of a config : the fields read so far. -/
structure Draft where
  jsonRpcUrl : Option String
  websocketUrl : Option String
  keypairPath : Option String
  addressLabels : Option (Fields String)
  commitment : Option String
  deriving Repr

namespace Draft

/-- Nothing was read. -/
def empty : Draft := ⟨none, none, none, none, none⟩

/-- A field was read. -/
def has (d : Draft) : Field → Bool
  | .jsonRpcUrl => d.jsonRpcUrl.isSome
  | .websocketUrl => d.websocketUrl.isSome
  | .keypairPath => d.keypairPath.isSome
  | .addressLabels => d.addressLabels.isSome
  | .commitment => d.commitment.isSome

/-- The draft with a text for a field; labels are no text. -/
def setText (d : Draft) (s : String) : Field → Draft
  | .jsonRpcUrl => { d with jsonRpcUrl := some s }
  | .websocketUrl => { d with websocketUrl := some s }
  | .keypairPath => { d with keypairPath := some s }
  | .addressLabels => d
  | .commitment => { d with commitment := some s }

/-- The config, or the first field that is missing. -/
def finish (d : Draft) : Except Field Config :=
  match d.jsonRpcUrl, d.websocketUrl, d.keypairPath, d.addressLabels, d.commitment with
  | some a, some b, some c, some l, some e => .ok ⟨a, b, c, l, e⟩
  | none, _, _, _, _ => .error .jsonRpcUrl
  | some _, none, _, _, _ => .error .websocketUrl
  | some _, some _, none, _, _ => .error .keypairPath
  | some _, some _, some _, none, _ => .error .addressLabels
  | some _, some _, some _, some _, none => .error .commitment

end Draft

/-- The keys that lead to a place. -/
abbrev Path := List (Option String)

/-- Pass over one value, `depth` collections deep already. -/
def skip? (depth : Nat) : List (Item Nat) → Option (List (Item Nat))
  | [] => none
  | item :: rest =>
    match item.event with
    | .sequenceStart | .mappingStart => skip? (depth + 1) rest
    | .sequenceEnd | .mappingEnd => if depth ≤ 1 then some rest else skip? (depth - 1) rest
    | _ => if depth = 0 then some rest else skip? depth rest

theorem length_of_skip? {depth : Nat} {items rest : List (Item Nat)}
    (h : skip? depth items = some rest) : rest.length < items.length := by
  induction items generalizing depth with
  | nil => simp [skip?] at h
  | cons item items ih =>
    unfold skip? at h
    split at h
    · exact Nat.lt_succ_of_lt (ih h)
    · exact Nat.lt_succ_of_lt (ih h)
    · split at h
      · simp_all
      · exact Nat.lt_succ_of_lt (ih h)
    · split at h
      · simp_all
      · exact Nat.lt_succ_of_lt (ih h)
    · split at h
      · simp_all
      · exact Nat.lt_succ_of_lt (ih h)

section

variable (doc : Yaml.Document)

/-- The error when the items run out. -/
def out : Error := .broken (doc.failure.getD .unfinished)

/-- The items from a value on; an alias leads to the value that it stands for. -/
def target (items : List (Item Nat)) : List (Item Nat) :=
  match items with
  | ⟨.aliasOf place, _, _⟩ :: _ => doc.items.drop place
  | items => items

/-- What stands where something else is wanted. -/
def unfit (wanted : Wanted) (path : Path) (item : Item Nat) : Error :=
  match item.event with
  | .scalar tag text style => .fault (.unfit (.scalar tag text style) wanted) path item.mark
  | .sequenceStart => .fault (.unfit .sequence wanted) path item.mark
  | .mappingStart => .fault (.unfit .mapping wanted) path item.mark
  | _ => out doc

/-- A text. -/
def text (wanted : Wanted) (path : Path) (items : List (Item Nat)) : Except Error String :=
  match target doc items with
  | [] => .error (out doc)
  | item :: _ =>
    match item.event with
    | .scalar _ s _ => .ok (String.ofList s)
    | _ => .error (unfit doc wanted path item)

/-- A key in paths. -/
def keyPart (key : Item Nat) : Option String :=
  match key.event with
  | .scalar _ s _ => some (String.ofList s)
  | _ => none

/-- Labels after the ones in `labels`, up to the end of their mapping. -/
def labelsFrom (path : Path) (labels : Fields String) :
    List (Item Nat) → Except Error (Fields String × List (Item Nat))
  | [] => .error (out doc)
  | key :: rest =>
    if key.event = .mappingEnd then .ok (labels, rest)
    else
      match text doc .text path [key] with
      | .error e => .error e
      | .ok address =>
        match rest with
        | [] => .error (out doc)
        | value :: rest =>
          match text doc .text (path ++ [keyPart key]) [value] with
          | .error e => .error e
          | .ok label => labelsFrom path (labels.insert address label) rest

/-- What a value is where a mapping is wanted : a mapping with its items, or nothing. -/
inductive Shape where
  | mapping (items : List (Item Nat))
  | nothing

/-- The items of a mapping, or nothing for an empty plain scalar. -/
def shape (wanted : Wanted) (path : Path) (items : List (Item Nat)) :
    Except Error (Shape × Mark) :=
  match target doc items with
  | [] => .error (out doc)
  | item :: rest =>
    match item.event with
    | .mappingStart => .ok (.mapping rest, item.mark)
    | .void | .scalar _ [] .plain => .ok (.nothing, item.mark)
    | _ => .error (unfit doc wanted path item)

/-- Labels, and the items after them. -/
def labels (path : Path) (items : List (Item Nat)) :
    Except Error (Fields String × List (Item Nat)) :=
  match items with
  | ⟨.mappingStart, _, _⟩ :: inner => labelsFrom doc path [] inner
  | items =>
    match shape doc .labels path items with
    | .error e => .error e
    | .ok (.nothing, _) => .ok ([], items.drop 1)
    | .ok (.mapping inner, _) =>
      match labelsFrom doc path [] inner with
      | .error e => .error e
      | .ok (l, _) => .ok (l, items.drop 1)

/-- Read what a key stands for into a draft; gives the items after it too. -/
def entry (start : Mark) (draft : Draft) (key : Item Nat) (rest : List (Item Nat)) :
    Except Error (Draft × List (Item Nat)) :=
  match text doc .fieldName [] [key] with
  | .error e => .error e
  | .ok name =>
    match Field.ofName? name with
    | none =>
      match skip? 0 rest with
      | none => .error (out doc)
      | some rest => .ok (draft, rest)
    | some field =>
      if draft.has field then .error (.fault (.duplicate field) [] start)
      else if field = .addressLabels then
        match labels doc [keyPart key] rest with
        | .error e => .error e
        | .ok (l, rest) => .ok ({ draft with addressLabels := some l }, rest)
      else
        match text doc .text [keyPart key] rest with
        | .error e => .error e
        | .ok s => .ok (draft.setText s field, rest.drop 1)

theorem length_of_labelsFrom {path : Path} {acc l : Fields String}
    {items rest : List (Item Nat)} (h : labelsFrom doc path acc items = .ok (l, rest)) :
    rest.length < items.length := by
  fun_induction labelsFrom doc path acc items with
  | case1 | case3 | case4 | case5 => simp at h
  | case2 acc key rest' =>
    simp only [Except.ok.injEq, Prod.mk.injEq] at h
    simp [← h.2]
  | case6 acc key _ _ value rest' _ _ _ ih =>
    have := ih h
    simp only [List.length_cons]
    omega

theorem length_of_labels {path : Path} {l : Fields String} {items rest : List (Item Nat)}
    (h : labels doc path items = .ok (l, rest)) : rest.length ≤ items.length := by
  unfold labels at h
  split at h
  · exact Nat.le_succ_of_le (Nat.le_of_lt (length_of_labelsFrom doc h))
  · split at h
    · simp at h
    · simp only [Except.ok.injEq, Prod.mk.injEq] at h
      simp [← h.2]
    · split at h
      · simp at h
      · simp only [Except.ok.injEq, Prod.mk.injEq] at h
        simp [← h.2]

theorem length_of_entry {start : Mark} {draft new : Draft} {key : Item Nat}
    {items rest : List (Item Nat)} (h : entry doc start draft key items = .ok (new, rest)) :
    rest.length ≤ items.length := by
  unfold entry at h
  split at h
  · simp at h
  · split at h
    · split at h
      · simp at h
      · next hs =>
        simp only [Except.ok.injEq, Prod.mk.injEq] at h
        exact h.2 ▸ Nat.le_of_lt (length_of_skip? hs)
    · split at h
      · simp at h
      · split at h
        · split at h
          · simp at h
          · next hl =>
            simp only [Except.ok.injEq, Prod.mk.injEq] at h
            exact h.2 ▸ length_of_labels doc hl
        · split at h
          · simp at h
          · simp only [Except.ok.injEq, Prod.mk.injEq] at h
            simp [← h.2]

/-- Read the entries of a mapping that starts at `start` into a draft, up to its end. -/
def entriesFrom (start : Mark) (draft : Draft) (items : List (Item Nat)) : Except Error Draft :=
  match items with
  | [] => .error (out doc)
  | key :: rest =>
    if key.event = .mappingEnd then .ok draft
    else
      match h : entry doc start draft key rest with
      | .error e => .error e
      | .ok (draft, rest) =>
        have := length_of_entry doc h
        entriesFrom start draft rest
termination_by items.length
decreasing_by simp only [List.length_cons]; omega

/-- What a document says, apart from what is wrong with its end. -/
def ofItems : Except Error Config :=
  match shape doc .config [] doc.items with
  | .error e => .error e
  | .ok (shape, start) =>
    let draft := match shape with
      | .mapping items => entriesFrom doc start .empty items
      | .nothing => .ok .empty
    match draft with
    | .error e => .error e
    | .ok draft =>
      match draft.finish with
      | .ok config => .ok config
      | .error field => .error (.fault (.missing field) [] start)

/-- The config that a document says. -/
def ofDocument : Except Error Config :=
  match ofItems doc with
  | .error e => .error e
  | .ok config =>
    match doc.failure with
    | some failure => .error (.broken failure)
    | none => if doc.more then .error .severalDocuments else .ok config

end

/-- Read a config from a text. -/
def read (s : String) : Except Error Config := ofDocument (Yaml.Document.read s.toList)

end UserConfigs.Config
