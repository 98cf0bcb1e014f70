import UserConfigs.Yaml.Tokens

/-!
# The events of a document

The events of a document are its scalars, its aliases, and the starts and ends of its
sequences and mappings, in the order of the text. They are read from the tokens one goal at a
time (`Goal.step`) : a goal says what is to come, and reading it may give an event, use up
tokens, and leave further goals. What a text leaves out, such as the value of a key before
the next key, is an empty scalar.
-/

namespace UserConfigs.Yaml

/-- What happens in a document. `α` tells what an alias stands for : a name in the text, or
the value that has the name. -/
inductive Event (α : Type) where
  /-- The text has no document. -/
  | void
  /-- The value that `target` stands for, once more. -/
  | aliasOf (target : α)
  /-- A scalar with its tag in full, if it has one. -/
  | scalar (tag : Option (List Char)) (text : List Char) (style : Style)
  | sequenceStart
  | sequenceEnd
  | mappingStart
  | mappingEnd
  deriving Repr, DecidableEq

/-- An event with its anchor, if it has one, and its place. -/
structure Item (α : Type) where
  event : Event α
  anchor : Option (List Char)
  mark : Mark
  deriving Repr, DecidableEq

/-- An event without an anchor. -/
def Item.at {α : Type} (m : Mark) (event : Event α) : Item α := ⟨event, none, m⟩

/-- An empty scalar at a mark. -/
def Item.empty {α : Type} (m : Mark) : Item α := .at m (.scalar none [] .plain)

/-- What the handles of tags stand for. -/
abbrev Handles := List (List Char × List Char)

namespace Handles

/-- The handles that need no directive. -/
def standard : Handles :=
  [(['!'], ['!']), (['!', '!'], "tag:yaml.org,2002:".toList)]

/-- A tag in full, if its handle is known. -/
def resolve (h : Handles) (handle suffix : List Char) : Option (List Char) :=
  if handle.isEmpty then some suffix else (h.lookup handle).map (· ++ suffix)

end Handles

/-- What is to be read. -/
inductive Goal where
  /-- A document, its directives first. -/
  | document
  /-- What follows the start sign of a document. -/
  | content
  /-- A value. `block` tells whether blocks may start there, `indentless` whether a sequence
  may stand without a block of its own. -/
  | node (block indentless : Bool)
  /-- Entries of a block sequence that started at a mark. -/
  | blockEntries (since : Mark)
  /-- Entries of a sequence without a block of its own. -/
  | indentlessEntries
  /-- Entries of a block mapping. -/
  | blockKeys (since : Mark)
  /-- The value of an entry of a block mapping. -/
  | blockValue
  /-- Entries of a sequence in brackets, after the first one with a comma before each. -/
  | flowEntries (first : Bool) (since : Mark)
  /-- The key of a mapping of one entry that stands in a sequence. -/
  | pairKey
  /-- The value of such a mapping. -/
  | pairValue
  /-- The end of such a mapping. -/
  | pairEnd
  /-- Entries of a mapping in brackets, after the first one with a comma before each. -/
  | flowKeys (first : Bool) (since : Mark)
  /-- The value of an entry of a mapping in brackets. -/
  | flowValue
  /-- The value that an entry without a colon leaves out. -/
  | noValue
  deriving Repr

/-- What reading a goal gave : perhaps an event, the goals in its place, and the tokens
left. -/
structure Progress where
  item : Option (Item (List Char))
  goals : List Goal
  tokens : List Token

/-- Why no more can be read : a problem, or the tokens ran out. -/
abbrev Halt := Option Problem

namespace Goal

/-! ## Values -/

/-- What stands before a value, and the place where the value starts. -/
structure Properties where
  anchor : Option (List Char)
  /-- The tag by handle and suffix, with its place. -/
  tag : Option ((List Char × List Char) × Mark)
  start : Mark

/-- Read an anchor and a tag, in either order. -/
def properties : List Token → Except Halt (Properties × List Token)
  | [] => .error none
  | ⟨.anchor name, start, _⟩ :: ⟨.tag handle suffix, m, _⟩ :: rest =>
    .ok (⟨some name, some ((handle, suffix), m), start⟩, rest)
  | ⟨.tag handle suffix, start, _⟩ :: ⟨.anchor name, _, _⟩ :: rest =>
    .ok (⟨some name, some ((handle, suffix), start), start⟩, rest)
  | ⟨.anchor name, start, _⟩ :: rest => .ok (⟨some name, none, start⟩, rest)
  | ⟨.tag handle suffix, start, _⟩ :: rest =>
    .ok (⟨none, some ((handle, suffix), start), start⟩, rest)
  | t :: rest => .ok (⟨none, none, t.start⟩, t :: rest)

/-- The tag of a value in full. -/
def fullTag (handles : Handles) (p : Properties) : Except Halt (Option (List Char)) :=
  match p.tag with
  | none => .ok none
  | some ((handle, suffix), m) =>
    match handles.resolve handle suffix with
    | some tag => .ok (some tag)
    | none => .error (some (.during .undefinedTagHandle m .parsingNode p.start))

/-- The event of a value, with the properties before it. -/
def Properties.event (p : Properties) (event : Event (List Char)) (goals : List Goal)
    (tokens : List Token) : Except Halt Progress :=
  .ok ⟨some ⟨event, p.anchor, p.start⟩, goals, tokens⟩

/-- Read a value from the token `t` on, after its properties. A scalar is whole then, of a
sequence or a mapping the entries are to be read. An anchor or a tag may stand alone, before
an empty scalar. -/
def valueAfter (block indentless : Bool) (p : Properties) (tag : Option (List Char)) (t : Token)
    (rest : List Token) : Except Halt Progress :=
  match t.sign with
  | .scalar text style =>
    p.event (.scalar (if tag = some ['!'] then none else tag) text style) [] rest
  | .flowSequenceStart => p.event .sequenceStart [.flowEntries true t.start] rest
  | .flowMappingStart => p.event .mappingStart [.flowKeys true t.start] rest
  | sign =>
    if indentless ∧ sign = .blockEntry then
      p.event .sequenceStart [.indentlessEntries] (t :: rest)
    else if block ∧ sign = .blockSequenceStart then
      p.event .sequenceStart [.blockEntries t.start] rest
    else if block ∧ sign = .blockMappingStart then
      p.event .mappingStart [.blockKeys t.start] rest
    else if p.anchor.isSome ∨ p.tag.isSome then p.event (.scalar tag [] .plain) [] (t :: rest)
    else
      .error (some (.during .noNodeContent t.start
        (if block then .parsingBlockNode else .parsingFlowNode) p.start))

/-- Read a value. -/
def value (handles : Handles) (block indentless : Bool) (tokens : List Token) :
    Except Halt Progress :=
  match tokens with
  | ⟨.aliasOf name, m, _⟩ :: rest => .ok ⟨some (.at m (.aliasOf name)), [], rest⟩
  | tokens =>
    match properties tokens with
    | .error halt => .error halt
    | .ok (_, []) => .error none
    | .ok (p, t :: rest) =>
      match fullTag handles p with
      | .error halt => .error halt
      | .ok tag => valueAfter block indentless p tag t rest

/-- A value comes next, unless the next token is one of some signs; then an empty scalar
stands at the mark. -/
def valueUnless (ends : List Sign) (m : Mark) (node : Goal) (goals : List Goal)
    (tokens : List Token) : Except Halt Progress :=
  match tokens with
  | [] => .error none
  | t :: _ =>
    if t.sign ∈ ends then .ok ⟨some (.empty m), goals, tokens⟩
    else .ok ⟨none, node :: goals, tokens⟩

/-! ## Entries -/

/-- The value of a block. -/
def blockNode : Goal := node true false

/-- A key or a value of a block mapping. -/
def blockPart : Goal := node true true

/-- The value inside brackets. -/
def flowNode : Goal := node false false

/-- Read entries of a block sequence. -/
def stepBlockEntries (since : Mark) : List Token → Except Halt Progress
  | [] => .error none
  | t :: rest =>
    match t.sign with
    | .blockEntry =>
      valueUnless [.blockEntry, .blockEnd] t.stop blockNode [blockEntries since] rest
    | .blockEnd => .ok ⟨some (.at t.start .sequenceEnd), [], rest⟩
    | _ => .error (some (.during .noDash t.start .parsingBlockSequence since))

/-- Read entries of a sequence without a block of its own. -/
def stepIndentless : List Token → Except Halt Progress
  | [] => .error none
  | t :: rest =>
    if t.sign = .blockEntry then
      valueUnless [.blockEntry, .key, .value, .blockEnd] t.stop blockNode [indentlessEntries] rest
    else .ok ⟨some (.at t.start .sequenceEnd), [], t :: rest⟩

/-- Read entries of a block mapping. -/
def stepBlockKeys (since : Mark) : List Token → Except Halt Progress
  | [] => .error none
  | t :: rest =>
    match t.sign with
    | .key =>
      valueUnless [.key, .value, .blockEnd] t.stop blockPart [blockValue, blockKeys since] rest
    | .blockEnd => .ok ⟨some (.at t.start .mappingEnd), [], rest⟩
    | _ => .error (some (.during .noKey t.start .parsingBlockMapping since))

/-- Read the value of an entry of a block mapping. -/
def stepBlockValue : List Token → Except Halt Progress
  | [] => .error none
  | t :: rest =>
    if t.sign = .value then
      valueUnless [.key, .value, .blockEnd] t.stop blockPart [] rest
    else .ok ⟨some (.empty t.start), [], t :: rest⟩

/-- Past the comma before an entry in brackets that is not the first. -/
def pastComma (first : Bool) (flaw : Problem) : List Token → Except Halt (List Token)
  | [] => .error none
  | t :: rest =>
    if first then .ok (t :: rest)
    else if t.sign = .flowEntry then .ok rest
    else .error (some { flaw with mark := t.start })

/-- Read entries of a sequence in brackets. -/
def stepFlowEntries (first : Bool) (since : Mark) : List Token → Except Halt Progress
  | [] => .error none
  | t :: rest =>
    if t.sign = .flowSequenceEnd then .ok ⟨some (.at t.start .sequenceEnd), [], rest⟩
    else
      match pastComma first (.during .noSequenceEnd t.start .parsingFlowSequence since)
        (t :: rest) with
      | .error halt => .error halt
      | .ok [] => .error none
      | .ok (t :: rest) =>
        match t.sign with
        | .key =>
          .ok ⟨some (.at t.start .mappingStart),
            [pairKey, pairValue, pairEnd, flowEntries false since], rest⟩
        | .flowSequenceEnd => .ok ⟨some (.at t.start .sequenceEnd), [], rest⟩
        | _ => .ok ⟨none, [flowNode, flowEntries false since], t :: rest⟩

/-- Read the key of a mapping of one entry. If it is left out, the next token goes with
it. -/
def stepPairKey : List Token → Except Halt Progress
  | [] => .error none
  | t :: rest =>
    if t.sign ∈ [.value, .flowEntry, .flowSequenceEnd] then
      .ok ⟨some (.empty t.stop), [], rest⟩
    else .ok ⟨none, [flowNode], t :: rest⟩

/-- Read the value of an entry in brackets that `ends` may follow. -/
def stepFlowValue (ends : List Sign) : List Token → Except Halt Progress
  | [] => .error none
  | t :: rest =>
    if t.sign = .value then
      match rest with
      | [] => .error none
      | u :: _ => valueUnless ends u.start flowNode [] rest
    else .ok ⟨some (.empty t.start), [], t :: rest⟩

/-- Read entries of a mapping in brackets. -/
def stepFlowKeys (first : Bool) (since : Mark) : List Token → Except Halt Progress
  | [] => .error none
  | t :: rest =>
    if t.sign = .flowMappingEnd then .ok ⟨some (.at t.start .mappingEnd), [], rest⟩
    else
      match pastComma first (.during .noMappingEnd t.start .parsingFlowMapping since)
        (t :: rest) with
      | .error halt => .error halt
      | .ok [] => .error none
      | .ok (t :: rest) =>
        match t.sign, rest with
        | .key, [] => .error none
        | .key, u :: _ =>
          valueUnless [.value, .flowEntry, .flowMappingEnd] u.start flowNode
            [flowValue, flowKeys false since] rest
        | .flowMappingEnd, _ => .ok ⟨some (.at t.start .mappingEnd), [], rest⟩
        | _, _ => .ok ⟨none, [flowNode, noValue, flowKeys false since], t :: rest⟩

/-! ## Documents -/

/-- Read the directives before a document : the handles they define, those that need none
behind them. `version` tells whether a version was given. -/
def directives (version : Bool) (handles : Handles) :
    List Token → Except Halt (Handles × List Token)
  | [] => .error none
  | t :: rest =>
    match t.sign with
    | .version major minor =>
      if version then .error (some (.alone .duplicateVersion t.start))
      else if major = 1 ∧ (minor = 1 ∨ minor = 2) then directives true handles rest
      else .error (some (.alone .incompatibleVersion t.start))
    | .tagHandle handle stem =>
      if (handles.lookup handle).isSome then .error (some (.alone .duplicateTag t.start))
      else directives version (handles ++ [(handle, stem)]) rest
    | _ => .ok (handles ++ Handles.standard, t :: rest)

/-- Read up to the first value of the text : the handles of the document and what came of
it. -/
def stepDocument : List Token → Except Halt (Handles × Progress)
  | [] => .error none
  | t :: rest =>
    match t.sign with
    | .streamEnd => .ok (.standard, ⟨some (.at t.start .void), [], t :: rest⟩)
    | .version .. | .tagHandle .. | .documentStart =>
      match directives false [] (t :: rest) with
      | .error halt => .error halt
      | .ok (_, []) => .error none
      | .ok (handles, t :: rest) =>
        if t.sign = .documentStart then .ok (handles, ⟨none, [content], rest⟩)
        else .error (some (.alone .noDocumentStart t.start))
    | _ => .ok (.standard, ⟨none, [blockNode], t :: rest⟩)

/-- Read what follows the start sign of a document. -/
def stepContent : List Token → Except Halt Progress
  | [] => .error none
  | t :: rest =>
    match t.sign with
    | .version .. | .tagHandle .. | .documentStart | .documentEnd | .streamEnd =>
      .ok ⟨some (.empty t.start), [], t :: rest⟩
    | _ => .ok ⟨none, [blockNode], t :: rest⟩

/-- Read one goal. -/
def step (handles : Handles) (tokens : List Token) : Goal → Except Halt (Handles × Progress)
  | .document => stepDocument tokens
  | .content => (stepContent tokens).map (handles, ·)
  | .node block indentless => (value handles block indentless tokens).map (handles, ·)
  | .blockEntries since => (stepBlockEntries since tokens).map (handles, ·)
  | .indentlessEntries => (stepIndentless tokens).map (handles, ·)
  | .blockKeys since => (stepBlockKeys since tokens).map (handles, ·)
  | .blockValue => (stepBlockValue tokens).map (handles, ·)
  | .flowEntries first since => (stepFlowEntries first since tokens).map (handles, ·)
  | .pairKey => (stepPairKey tokens).map (handles, ·)
  | .pairValue => (stepFlowValue [.flowEntry, .flowSequenceEnd] tokens).map (handles, ·)
  | .pairEnd =>
    match tokens with
    | [] => .error none
    | t :: _ => .ok (handles, ⟨some (.at t.start .mappingEnd), [], tokens⟩)
  | .flowKeys first since => (stepFlowKeys first since tokens).map (handles, ·)
  | .flowValue => (stepFlowValue [.flowEntry, .flowMappingEnd] tokens).map (handles, ·)
  | .noValue =>
    match tokens with
    | [] => .error none
    | t :: _ => .ok (handles, ⟨some (.empty t.start), [], tokens⟩)

end Goal

/-! ## All events -/

/-- The events of the first document of a text : its items, what was wrong if reading broke
off, and the tokens after it. -/
structure Reading where
  items : List (Item (List Char))
  halt : Option Halt
  rest : List Token

/-- Read goals, at most `fuel` of them. -/
def Reading.run : Nat → Handles → List Goal → List Token → Reading
  | 0, _, _, tokens => ⟨[], some none, tokens⟩
  | _ + 1, _, [], tokens => ⟨[], none, tokens⟩
  | fuel + 1, handles, goal :: goals, tokens =>
    match goal.step handles tokens with
    | .error halt => ⟨[], some halt, tokens⟩
    | .ok (handles, p) =>
      let r := run fuel handles (p.goals ++ goals) p.tokens
      { r with items := p.item.toList ++ r.items }

/-- Read the first document. A goal uses up a token or is one of at most three that the last
token left, so there is fuel for all. -/
def Reading.ofTokens (tokens : List Token) : Reading :=
  run (4 * tokens.length + 8) [] [.document] (tokens.drop 1)

end UserConfigs.Yaml
