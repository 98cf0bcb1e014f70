import UserConfigs.Yaml.Problem
import UserConfigs.Yaml.Token

/-!
# Anchors, tags and directives

The signs that start with `&`, `*`, `!` and `%`. Each is read from its first character on
and gives the sign and the place after it.
-/

namespace UserConfigs.Yaml

/-- The word characters at a cursor, and the place after them. -/
def wordAt (c : Cursor) : List Char × Cursor :=
  (c.rest.takeWhile isWordChar, c.skipWhile isWordChar)

/-! ## Anchors and aliases -/

/-- What may follow the name of an anchor. -/
def endsAnchor : List Char → Bool
  | [] => true
  | c :: _ =>
    isBlank c || isBreak c || c = '?' || c = ':' || c = ',' || c = ']' || c = '\x7d' || c = '%' ||
      c = '@' || c = '\x60'

/-- The name of an anchor or an alias, from its sign on. -/
def anchorName (activity : Activity) (c : Cursor) : Except Problem (List Char × Cursor) :=
  let (name, after) := wordAt c.advance
  if name.isEmpty || !endsAnchor after.rest then
    .error (.during .noAnchorName after.mark activity c.mark)
  else .ok (name, after)

/-! ## Tags -/

/-- A character of a tag; `verbatim` adds those that end a tag in brackets. -/
def isTagChar (verbatim : Bool) (c : Char) : Bool :=
  isWordChar c || c = ';' || c = '/' || c = '?' || c = ':' || c = '@' || c = '&' || c = '=' ||
    c = '+' || c = '$' || c = '.' || c = '%' || c = '!' || c = '~' || c = '*' || c = '\x27' ||
    c = '(' || c = ')' || (verbatim && (c = ',' || c = '[' || c = ']'))

/-- How many octets a first octet announces, and its own part of the code point. -/
def leadingOctet? (n : Nat) : Option (Nat × Nat) :=
  if n < 0x80 then some (1, n)
  else if n / 0x20 = 6 then some (2, n % 0x20)
  else if n / 0x10 = 14 then some (3, n % 0x10)
  else if n / 0x08 = 30 then some (4, n % 0x08)
  else none

/-- What was read of a tag, and the place after it. -/
abbrev TagText := List Char × Cursor

/-- Read the characters of a tag. `pending` are the octets that an escape still owes and the
code point so far. -/
def tagCharsFrom (verbatim : Bool) (activity : Activity) (start : Mark) (pending : Nat × Nat)
    (m : Mark) : List Char → Except Problem TagText
  | [] =>
    if pending.1 = 0 then .ok ([], ⟨[], m⟩)
    else .error (.during .noEscapedOctet m activity start)
  | c :: rest =>
    if c = '%' then
      match rest with
      | a :: b :: rest =>
        match hexDigit? a, hexDigit? b with
        | some a, some b =>
          let n := 16 * a + b
          let m' : Mark := ⟨m.index + 3, m.line, m.column + 3⟩
          if pending.1 = 0 then
            match leadingOctet? n with
            | none => .error (.during .leadingOctet m activity start)
            | some (1, p) =>
              match tagCharsFrom verbatim activity start (0, 0) m' rest with
              | .ok (s, after) => .ok (Char.ofNat p :: s, after)
              | .error e => .error e
            | some (k, p) => tagCharsFrom verbatim activity start (k - 1, p) m' rest
          else if n / 0x40 ≠ 2 then .error (.during .trailingOctet m activity start)
          else if pending.1 = 1 then
            match tagCharsFrom verbatim activity start (0, 0) m' rest with
            | .ok (s, after) => .ok (Char.ofNat (pending.2 * 0x40 + n % 0x40) :: s, after)
            | .error e => .error e
          else
            tagCharsFrom verbatim activity start (pending.1 - 1, pending.2 * 0x40 + n % 0x40) m'
              rest
        | _, _ => .error (.during .noEscapedOctet m activity start)
      | _ => .error (.during .noEscapedOctet m activity start)
    else if pending.1 ≠ 0 then .error (.during .noEscapedOctet m activity start)
    else if isTagChar verbatim c then
      match tagCharsFrom verbatim activity start (0, 0) (m.past c rest) rest with
      | .ok (s, after) => .ok (c :: s, after)
      | .error e => .error e
    else .ok ([], ⟨c :: rest, m⟩)

/-- The text of a tag. `before` is the part of it that was read as a handle; its first
character is not repeated. -/
def tagText (verbatim : Bool) (activity : Activity) (start : Mark) (before : List Char)
    (c : Cursor) : Except Problem TagText := do
  let (s, after) ← tagCharsFrom verbatim activity start (0, 0) c.mark c.rest
  if before.isEmpty && s.isEmpty then throw (.during .noTagUri after.mark activity start)
  pure (before.drop 1 ++ s, after)

/-- A handle : an exclamation mark, a word, and perhaps another mark. In a directive the
second mark may only be missing if there is no word. -/
def tagHandle (directive : Bool) (start : Mark) (c : Cursor) : Except Problem TagText := do
  if !c.sees '!' then
    throw (.during .noExclamation c.mark
      (if directive then .scanningTagDirectiveHandle else .scanningTag) start)
  let (word, after) := wordAt c.advance
  if after.sees '!' then pure ('!' :: word ++ ['!'], after.advance)
  else if directive && !word.isEmpty then
    throw (.during .noExclamation after.mark .parsingTagDirectiveHandle start)
  else pure ('!' :: word, after)

/-- A tag as a handle and what comes after it. -/
def tagSign (flow : Bool) (c : Cursor) : Except Problem (Sign × Cursor) := do
  let start := c.mark
  let (sign, after) ← (
    if c.advance.sees '<' then do
      let (s, after) ← tagText true .parsingTag start [] (c.advanceBy 2)
      if !after.sees '>' then throw (.during .noVerbatimEnd after.mark .scanningTag start)
      pure (Sign.tag [] s, after.advance)
    else do
      let (handle, after) ← tagHandle false start c
      if handle.length > 1 && handle.getLast? = some '!' then do
        let (s, after) ← tagText false .parsingTag start [] after
        pure (Sign.tag handle s, after)
      else do
        let (s, after) ← tagText false .parsingTag start handle after
        pure (if s.isEmpty then Sign.tag [] ['!'] else Sign.tag ['!'] s, after))
  if !endsWord after.rest && !(flow && after.sees ',') then
    throw (.during .noWhitespaceOrBreak after.mark .scanningTag start)
  pure (sign, after)

/-! ## Directives -/

/-- A number of a version : at most nine digits, from `n` on. -/
def versionNumberFrom (start : Mark) (n length : Nat) (m : Mark) :
    List Char → Except Problem (Nat × Cursor)
  | [] =>
    if length = 0 then .error (.during .noVersionNumber m .scanningVersion start)
    else .ok (n, ⟨[], m⟩)
  | c :: rest =>
    if c.isDigit then
      if length = 9 then .error (.during .longVersionNumber m .scanningVersion start)
      else versionNumberFrom start (10 * n + (c.toNat - '0'.toNat)) (length + 1) (m.past c rest) rest
    else if length = 0 then .error (.during .noVersionNumber m .scanningVersion start)
    else .ok (n, ⟨c :: rest, m⟩)

/-- A version : two numbers with a point between them. -/
def versionSign (start : Mark) (c : Cursor) : Except Problem (Sign × Cursor) := do
  let c := c.skipWhile isBlank
  let (major, c) ← versionNumberFrom start 0 0 c.mark c.rest
  if !c.sees '.' then throw (.during .noVersionPoint c.mark .scanningVersion start)
  let c := c.advance
  let (minor, c) ← versionNumberFrom start 0 0 c.mark c.rest
  pure (.version major minor, c)

/-- A handle for tags and what it stands for. -/
def tagHandleSign (start : Mark) (c : Cursor) : Except Problem (Sign × Cursor) := do
  let (handle, c) ← tagHandle true start (c.skipWhile isBlank)
  if !(c.next?.any isBlank) then
    throw (.during .noWhitespace c.mark .scanningTagDirective start)
  let (stem, c) ← tagText true .parsingTagDirective start [] (c.skipWhile isBlank)
  if !endsWord c.rest then
    throw (.during .noWhitespaceOrBreak c.mark .scanningTagDirective start)
  pure (.tagHandle handle stem, c)

/-- A directive, from its percent sign on : its sign, the end of it, and the place after its
line. -/
def directiveSign (c : Cursor) : Except Problem (Sign × Mark × Cursor) := do
  let start := c.mark
  let (name, c) := wordAt c.advance
  if name.isEmpty then throw (.during .noDirectiveName c.mark .scanningDirective start)
  if !endsWord c.rest then throw (.during .directiveNameEnd c.mark .scanningDirective start)
  let (sign, c) ← (
    if name = "YAML".toList then versionSign start c
    else if name = "TAG".toList then tagHandleSign start c
    else throw (.during .unknownDirective c.mark .scanningDirective start))
  let stop := c.mark
  let c := c.skipWhile isBlank
  let c := if c.sees '#' then c.skipWhile (!isBreak ·) else c
  if !endsLine c.rest then throw (.during .noCommentOrBreak c.mark .scanningDirective start)
  pure (sign, stop, c.skipBreak)

end UserConfigs.Yaml
