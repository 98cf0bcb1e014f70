import UserConfigs.Yaml.Fold

/-!
# Block scalars

A block scalar is the indented lines after a header. The header tells whether lines are
folded, how many columns the lines are indented, if that is not to be read off the first of
them, and what becomes of the line breaks at the end (`Chomp`).
-/

namespace UserConfigs.Yaml

/-- What becomes of the line breaks at the end of a block scalar. -/
inductive Chomp where
  /-- All go. -/
  | strip
  /-- The first stays. -/
  | clip
  /-- All stay. -/
  | keep
  deriving Repr, DecidableEq

/-- Blank lines and indentation passed before a line of a block scalar. -/
structure Breaks where
  /-- The text of the breaks. -/
  text : List Char
  /-- The greatest column that blanks reached. -/
  deepest : Nat
  /-- The end of the last break. -/
  stop : Mark
  after : Cursor

/-- Pass blank lines and indentation. `indent` is the indentation of the scalar, zero if it
is not known yet. -/
def breaksFrom (start : Mark) (indent : Nat) (text : List Char) (deepest : Nat) (stop m : Mark) :
    List Char → Except Problem Breaks
  | [] => .ok ⟨text, max deepest m.column, stop, ⟨[], m⟩⟩
  | c :: rest =>
    let shallow := indent = 0 ∨ m.column < indent
    if shallow ∧ c = ' ' then
      breaksFrom start indent text (max deepest m.column) stop (m.past c rest) rest
    else if shallow ∧ c = '\t' then .error (.during .tabInIndentation m .scanningBlock start)
    else if isBreak c then
      breaksFrom start indent (text ++ breakText c rest) (max deepest m.column) (m.past c rest)
        (m.past c rest) rest
    else .ok ⟨text, max deepest m.column, stop, ⟨c :: rest, m⟩⟩

/-- Pass blank lines and indentation from a cursor on. -/
def breaks (start : Mark) (indent : Nat) (c : Cursor) : Except Problem Breaks :=
  breaksFrom start indent [] 0 c.mark c.mark c.rest

/-- The text of the line break at a cursor. -/
def breakAt (c : Cursor) : List Char :=
  match c.rest with
  | '\r' :: '\n' :: _ => ['\n']
  | d :: rest => if isBreak d then breakText d rest else []
  | [] => []

/-- The lines of a block scalar read so far, and what stands after them : the break of the
last line, the blank lines after it, and whether the last line started with a blank. -/
structure BlockLines where
  text : List Char
  lastBreak : List Char
  more : List Char
  blankStart : Bool
  stop : Mark
  after : Cursor

/-- What the breaks before a line leave in the text. -/
def BlockLines.joint (b : BlockLines) (literal blankStart : Bool) : List Char :=
  if !literal && b.lastBreak = ['\n'] && !b.blankStart && !blankStart then
    (if b.more.isEmpty then [' '] else b.more)
  else b.lastBreak ++ b.more

/-- Read lines at the indentation `indent`, at most `fuel` of them. -/
def blockLines (literal : Bool) (start : Mark) (indent : Nat) :
    Nat → BlockLines → Except Problem BlockLines
  | 0, b => .ok b
  | fuel + 1, b =>
    match b.after.rest with
    | [] => .ok b
    | c :: _ =>
      if b.after.mark.column ≠ indent then .ok b
      else
        let line := b.after.rest.takeWhile (!isBreak ·)
        let stop := b.after.skipWhile (!isBreak ·)
        match breaks start indent stop.skipBreak with
        | .error e => .error e
        | .ok next =>
          blockLines literal start indent fuel
            ⟨b.text ++ b.joint literal (isBlank c) ++ line, breakAt stop, next.text, isBlank c,
              next.stop, next.after⟩

/-- A sign for the line breaks at the end. -/
def chomp? (c : Cursor) : Option Chomp :=
  if c.sees '+' then some .keep else if c.sees '-' then some .strip else none

/-- A digit for the indentation. -/
def indentation? (start : Mark) (c : Cursor) : Except Problem (Option Nat) :=
  match c.next? with
  | some d =>
    if d = '0' then .error (.during .zeroIndentation c.mark .scanningBlock start)
    else if d.isDigit then .ok (some (d.toNat - '0'.toNat))
    else .ok none
  | none => .ok none

/-- The header of a block scalar after its first sign : a sign and a digit in either order. -/
def blockHeader (start : Mark) (c : Cursor) : Except Problem (Chomp × Nat × Cursor) :=
  match chomp? c with
  | some chomp => do
    let c := c.advance
    match ← indentation? start c with
    | some n => pure (chomp, n, c.advance)
    | none => pure (chomp, 0, c)
  | none => do
    match ← indentation? start c with
    | some n =>
      let c := c.advance
      match chomp? c with
      | some chomp => pure (chomp, n, c.advance)
      | none => pure (.clip, n, c)
    | none => pure (.clip, 0, c)

/-- Past blanks and a comment. -/
def Cursor.skipComment (c : Cursor) : Cursor :=
  let c := c.skipWhile isBlank
  if c.sees '#' then c.skipWhile (!isBreak ·) else c

/-- Read a block scalar, from its first sign on, inside a block indented by `parent`. -/
def block (literal : Bool) (parent : Int) (c : Cursor) : Except Problem Scalar := do
  let start := c.mark
  let (chomp, step, c) ← blockHeader start c.advance
  let c := c.skipComment
  if !endsLine c.rest then
    throw (.during .noCommentOrBreak c.mark .scanningBlock start)
  let c := c.skipBreak
  let given : Nat := if step = 0 then 0 else (max parent 0).toNat + step
  let first ← breaks start given c
  let indent := if given ≠ 0 then given else max first.deepest (max (parent + 1).toNat 1)
  let b ← blockLines literal start indent (c.rest.length + 1)
    ⟨[], [], first.text, false, first.stop, first.after⟩
  let tail := match chomp with
    | .strip => []
    | .clip => b.lastBreak
    | .keep => b.lastBreak ++ b.more
  pure ⟨b.text ++ tail, b.stop, b.after, false⟩

end UserConfigs.Yaml
