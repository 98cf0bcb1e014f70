import UserConfigs.Yaml.Plain
import UserConfigs.Yaml.Quoted
import UserConfigs.Yaml.Block
import UserConfigs.Yaml.Tag

/-!
# The tokens of a text

`Token.scan` cuts a text into tokens. A `Scan` is the work so far : the place in the text,
the tokens read, the columns of the open blocks, and the places where the key of a mapping
may have started. That a word was a key shows only at the colon after it, so a colon inserts
tokens before that word (`Scan.value`); tokens that may still get one in front of them are
held back (`Scan.released`), and an error hides them.

`Scan.step` reads one token : it passes blanks and comments, gives up keys that cannot have
a colon any more (`Scan.dropStale`), closes the blocks that the column ends (`Scan.unroll`),
and then goes by the next characters (`Lead`).
-/

namespace UserConfigs.Yaml

/-- A place where the key of a mapping may have started. -/
structure KeyPlace where
  /-- Nothing but a key can stand there. -/
  required : Bool
  /-- How many tokens stand before it. -/
  number : Nat
  mark : Mark
  deriving Repr

/-- The key can have no colon any more at the mark `m` : keys stay on one line and have at
most 1024 characters. -/
def KeyPlace.isStale (k : KeyPlace) (m : Mark) : Bool :=
  k.mark.line < m.line || k.mark.index + 1024 < m.index

/-- A key that is required has no colon. -/
def KeyPlace.problem (k : KeyPlace) (m : Mark) : Problem :=
  .during .keyWithoutColon m .scanningKey k.mark

/-- The work so far. -/
structure Scan where
  cursor : Cursor
  /-- The tokens read, the last of them first. -/
  tokens : List Token
  /-- How many tokens were read. -/
  count : Nat
  /-- The columns of the open blocks, the innermost first. -/
  columns : List Nat
  /-- A key may start at the next token. -/
  keyAllowed : Bool
  /-- Where a key may have started inside the innermost brackets. -/
  key : Option KeyPlace
  /-- The same for what is around them, the innermost first; empty outside of brackets. -/
  outer : List (Option KeyPlace)
  deriving Repr

namespace Scan

/-! ## State -/

/-- The start of a text; a byte order mark is passed. -/
def start (s : List Char) : Scan where
  cursor := if (Cursor.start s).sees '\uFEFF' then (Cursor.start s).advance else .start s
  tokens := [⟨.streamStart, .zero, .zero⟩]
  count := 1
  columns := []
  keyAllowed := true
  key := none
  outer := []

/-- The next token stands in brackets. -/
def inFlow (s : Scan) : Bool := !s.outer.isEmpty

/-- The column of the innermost block, -1 outside of all. -/
def indent (s : Scan) : Int :=
  match s.columns with
  | [] => -1
  | n :: _ => n

/-- The tokens that nothing can be inserted before any more. -/
def released (s : Scan) : List Token :=
  let held := (s.key :: s.outer).foldl (fun n k => min n (k.elim n (·.number))) s.count
  (s.tokens.drop (s.count - held)).reverse

/-- Put a token behind the first `number` ones. -/
def insert (s : Scan) (number : Nat) (t : Token) : Scan :=
  { s with
    tokens := s.tokens.take (s.count - number) ++ t :: s.tokens.drop (s.count - number)
    count := s.count + 1 }

/-- Put a token behind the others. -/
def push (s : Scan) (t : Token) : Scan :=
  { s with tokens := t :: s.tokens, count := s.count + 1 }

/-- Put a token behind the others that goes from the cursor to `stop`, and go on at
`after`. -/
def take (s : Scan) (sign : Sign) (stop : Mark) (after : Cursor) : Scan :=
  { s.push ⟨sign, s.cursor.mark, stop⟩ with cursor := after }

/-- Put a token of `n` characters behind the others. -/
def takeChars (s : Scan) (sign : Sign) (n : Nat) : Scan :=
  s.take sign (s.cursor.advanceBy n).mark (s.cursor.advanceBy n)

/-- Set whether a key may start at the next token. -/
def allowKey (s : Scan) (allowed : Bool) : Scan := { s with keyAllowed := allowed }

/-! ## Blanks, keys and blocks -/

/-- Pass blanks, comments and line breaks, and tell whether a key may start after them. A tab
is no blank where a key may start. -/
def blanksFrom (flow allowed comment : Bool) (m : Mark) : List Char → Bool × Cursor
  | [] => (allowed, ⟨[], m⟩)
  | c :: rest =>
    if isBreak c then blanksFrom flow (allowed || !flow) false (m.past c rest) rest
    else if comment || c = ' ' || (c = '\t' && (flow || !allowed)) then
      blanksFrom flow allowed comment (m.past c rest) rest
    else if c = '#' then blanksFrom flow allowed true (m.past c rest) rest
    else (allowed, ⟨c :: rest, m⟩)

/-- Go to the next token. -/
def toToken (s : Scan) : Scan :=
  let (allowed, cursor) := blanksFrom s.inFlow s.keyAllowed false s.cursor.mark s.cursor.rest
  { s with keyAllowed := allowed, cursor }

/-- Give up the keys that can have no colon any more. -/
def dropStale (s : Scan) : Except Problem Scan :=
  let m := s.cursor.mark
  let stale := fun (k : KeyPlace) => k.isStale m
  match ((s.key :: s.outer).reverse.filterMap id).find? fun k => stale k && k.required with
  | some k => .error (k.problem m)
  | none =>
    .ok { s with key := s.key.filter (!stale ·), outer := s.outer.map (·.filter (!stale ·)) }

/-- Give up the key inside the innermost brackets. -/
def removeKey (s : Scan) : Except Problem Scan :=
  match s.key with
  | some k => if k.required then .error (k.problem s.cursor.mark) else .ok { s with key := none }
  | none => .ok s

/-- A key may start here. -/
def saveKey (s : Scan) : Except Problem Scan :=
  if s.keyAllowed then do
    let required := !s.inFlow && s.indent = s.cursor.mark.column
    let s ← s.removeKey
    pure { s with key := some ⟨required, s.count, s.cursor.mark⟩ }
  else .ok s

/-- Close the blocks that `ends` tells by their columns. -/
def close (s : Scan) (ends : Nat → Bool) : Scan :=
  if s.inFlow then s
  else
    (s.columns.takeWhile ends).foldl
      (fun s _ => s.push ⟨.blockEnd, s.cursor.mark, s.cursor.mark⟩)
      { s with columns := s.columns.dropWhile ends }

/-- Close the blocks to the right of the cursor. -/
def unroll (s : Scan) : Scan := s.close (s.cursor.mark.column < ·)

/-- Close all blocks. -/
def unrollAll (s : Scan) : Scan := s.close fun _ => true

/-- Open a block at the mark `m`, behind the first `number` tokens, if the mark is to the
right of the innermost block. -/
def roll (s : Scan) (number : Nat) (sign : Sign) (m : Mark) : Scan :=
  if !s.inFlow && s.indent < m.column then
    { s with columns := m.column :: s.columns }.insert number ⟨sign, m, m⟩
  else s

/-! ## One token -/

/-- What the next characters announce. -/
inductive Lead where
  | finish
  | directive
  | marker (sign : Sign)
  | flowStart (sign : Sign)
  | flowEnd (sign : Sign)
  | flowEntry
  | blockEntry
  | key
  | value
  | anchor
  | aliasOf
  | tag
  | block (literal : Bool)
  | quoted (single : Bool)
  | plain
  deriving Repr, DecidableEq

/-- The characters that start something else than a plain scalar. -/
def signs : List Char :=
  ['-', '?', ':', ',', '[', ']', '\x7b', '\x7d', '#', '&', '*', '!', '|', '>', '\x27', '\x22',
    '%', '@', '\x60']

/-- A plain scalar starts with `c`, which `rest` follows. -/
def startsPlain (flow : Bool) (c : Char) (rest : List Char) : Bool :=
  (!isBlank c && !isBreak c && !signs.contains c) ||
    (c = '-' && !rest.head?.any isBlank) ||
    (!flow && (c = '?' || c = ':') && !endsWord rest)

/-- What the characters at a cursor announce, if anything. -/
def lead? (flow : Bool) (cursor : Cursor) : Option Lead :=
  match cursor.rest with
  | [] => some .finish
  | c :: rest =>
    if cursor.mark.column = 0 ∧ c = '%' then some .directive
    else if cursor.atMarker then
      some (.marker (if c = '-' then .documentStart else .documentEnd))
    else if c = '[' then some (.flowStart .flowSequenceStart)
    else if c = '\x7b' then some (.flowStart .flowMappingStart)
    else if c = ']' then some (.flowEnd .flowSequenceEnd)
    else if c = '\x7d' then some (.flowEnd .flowMappingEnd)
    else if c = ',' then some .flowEntry
    else if c = '-' ∧ endsWord rest then some .blockEntry
    else if c = '?' ∧ (flow ∨ endsWord rest) then some .key
    else if c = ':' ∧ (flow ∨ endsWord rest) then some .value
    else if c = '*' then some .aliasOf
    else if c = '&' then some .anchor
    else if c = '!' then some .tag
    else if c = '|' ∧ !flow then some (.block true)
    else if c = '>' ∧ !flow then some (.block false)
    else if c = '\x27' then some (.quoted true)
    else if c = '\x22' then some (.quoted false)
    else if startsPlain flow c rest then some .plain
    else none

/-- The end of the text closes everything, on a line of its own. -/
def finish (s : Scan) : Except Problem Scan := do
  let m := s.cursor.mark
  let m : Mark := if m.column = 0 then m else ⟨m.index, m.line + 1, 0⟩
  let s ← { s with cursor := ⟨[], m⟩ }.unrollAll.removeKey
  pure ((s.take .streamEnd m ⟨[], m⟩).allowKey false)

/-- A directive. -/
def directive (s : Scan) : Except Problem Scan := do
  let s ← s.unrollAll.removeKey
  let (sign, stop, after) ← directiveSign s.cursor
  pure ((s.take sign stop after).allowKey false)

/-- A line that starts or ends a document. -/
def marker (s : Scan) (sign : Sign) : Except Problem Scan := do
  let s ← s.unrollAll.removeKey
  pure ((s.takeChars sign 3).allowKey false)

/-- An opening bracket. -/
def flowStart (s : Scan) (sign : Sign) : Except Problem Scan := do
  let s ← s.saveKey
  pure (({ s with key := none, outer := s.key :: s.outer }.takeChars sign 1).allowKey true)

/-- A closing bracket. -/
def flowEnd (s : Scan) (sign : Sign) : Except Problem Scan := do
  let s ← s.removeKey
  let s := match s.outer with
    | [] => s
    | k :: outer => { s with key := k, outer }
  pure ((s.takeChars sign 1).allowKey false)

/-- A comma between brackets. -/
def flowEntry (s : Scan) : Except Problem Scan := do
  let s ← s.removeKey
  pure ((s.takeChars .flowEntry 1).allowKey true)

/-- Outside of brackets `flaw` is wrong where no key may start, and `sign` opens a block. -/
def enter (s : Scan) (flaw : Flaw) (sign : Sign) : Except Problem Scan :=
  if !s.inFlow && !s.keyAllowed then .error (.alone flaw s.cursor.mark)
  else .ok (s.roll s.count sign s.cursor.mark)

/-- The dash before an entry. -/
def blockEntry (s : Scan) : Except Problem Scan := do
  let s ← s.enter .blockEntryNotAllowed .blockSequenceStart
  let s ← s.removeKey
  pure ((s.takeChars .blockEntry 1).allowKey true)

/-- The question mark before a key. -/
def keySign (s : Scan) : Except Problem Scan := do
  let s ← s.enter .mappingKeyNotAllowed .blockMappingStart
  let s ← s.removeKey
  pure ((s.takeChars .key 1).allowKey (!s.inFlow))

/-- The colon before a value. If a key may have started before it, one did. -/
def value (s : Scan) : Except Problem Scan :=
  match s.key with
  | some k =>
    let s := (s.insert k.number ⟨.key, k.mark, k.mark⟩).roll k.number .blockMappingStart k.mark
    .ok (({ s with key := none }.takeChars .value 1).allowKey false)
  | none => do
    let s ← s.enter .mappingValueNotAllowed .blockMappingStart
    pure ((s.takeChars .value 1).allowKey (!s.inFlow))

/-- An anchor or an alias. -/
def named (s : Scan) (activity : Activity) (sign : List Char → Sign) : Except Problem Scan := do
  let s ← s.saveKey
  let (name, after) ← anchorName activity s.cursor
  pure ((s.take (sign name) after.mark after).allowKey false)

/-- A tag. -/
def tag (s : Scan) : Except Problem Scan := do
  let s ← s.saveKey
  let (sign, after) ← tagSign s.inFlow s.cursor
  pure ((s.take sign after.mark after).allowKey false)

/-- A block scalar. -/
def blockScalar (s : Scan) (literal : Bool) : Except Problem Scan := do
  let s ← s.removeKey
  let r ← block literal s.indent s.cursor
  pure ((s.take (.scalar r.text (if literal then .literal else .folded)) r.stop r.after).allowKey
    true)

/-- A quoted scalar. -/
def quotedScalar (s : Scan) (single : Bool) : Except Problem Scan := do
  let s ← s.saveKey
  let r ← quoted single s.cursor
  pure ((s.take (.scalar r.text (if single then .singleQuoted else .doubleQuoted)) r.stop
    r.after).allowKey false)

/-- A plain scalar. -/
def plainScalar (s : Scan) : Except Problem Scan := do
  let s ← s.saveKey
  let r ← plain s.inFlow (s.indent + 1) s.cursor
  pure ((s.take (.scalar r.text .plain) r.stop r.after).allowKey r.broken)

/-- Read what was announced. -/
def follow (s : Scan) : Lead → Except Problem Scan
  | .finish => s.finish
  | .directive => s.directive
  | .marker sign => s.marker sign
  | .flowStart sign => s.flowStart sign
  | .flowEnd sign => s.flowEnd sign
  | .flowEntry => s.flowEntry
  | .blockEntry => s.blockEntry
  | .key => s.keySign
  | .value => s.value
  | .anchor => s.named .scanningAnchor .anchor
  | .aliasOf => s.named .scanningAlias .aliasOf
  | .tag => s.tag
  | .block literal => s.blockScalar literal
  | .quoted single => s.quotedScalar single
  | .plain => s.plainScalar

/-- Read one token. -/
def step (s : Scan) : Except Problem Scan := do
  let s ← s.toToken.dropStale
  let s := s.unroll
  match lead? s.inFlow s.cursor with
  | some l =>
    let s ← s.follow l
    s.dropStale
  | none => throw (.during .startsNoToken s.cursor.mark .scanningToken s.cursor.mark)

/-- The end of the text was read. -/
def isDone (s : Scan) : Bool :=
  match s.tokens with
  | t :: _ => t.sign = .streamEnd
  | [] => false

/-- Read at most `fuel` tokens. -/
def run : Nat → Scan → List Token × Option Problem
  | 0, s => (s.released, none)
  | fuel + 1, s =>
    if s.isDone then (s.released, none)
    else
      match s.step with
      | .ok s => run fuel s
      | .error p => (s.released, some p)

end Scan

/-! ## All tokens -/

/-- A character that may stand in a text. -/
def isPrintable (c : Char) : Bool :=
  c = '\t' || c = '\n' || c = '\r' || (0x20 ≤ c.toNat && c.toNat ≤ 0x7E) || c = '\x85' ||
    (0xA0 ≤ c.toNat && c.toNat ≤ 0xFFFD) || 0x10000 ≤ c.toNat

/-- The octets of a text in UTF-8. -/
def octets (s : List Char) : Nat := s.foldl (fun n c => n + c.utf8Size) 0

/-- Cut a text into tokens, up to the first problem. Every token but the last takes a
character, so there is fuel for all. -/
def Token.scan (s : List Char) : List Token × Option Problem :=
  if s.all isPrintable then Scan.run (s.length + 2) (.start s)
  else ([], some ⟨.controlCharacter, .zero, octets (s.takeWhile isPrintable), none⟩)

end UserConfigs.Yaml
