/-!
# Places in a text

A `Mark` is a place in a text : how many characters and line breaks stand before it, and
its column. `Mark.past` is the place after one more character, so a mark depends only on
the characters before it. A carriage return right before a line feed is not a line break of
its own.
-/

namespace UserConfigs.Yaml

/-- A character that ends a line. -/
def isBreak (c : Char) : Bool :=
  c = '\n' || c = '\r' || c = '\x85' || c = '\u2028' || c = '\u2029'

/-- A space or a tab. -/
def isBlank (c : Char) : Bool := c = ' ' || c = '\t'

/-- A blank, the end of a line or the end of the text comes next. -/
def endsWord : List Char → Bool
  | [] => true
  | c :: _ => isBlank c || isBreak c

/-- The end of a line or of the text comes next. -/
def endsLine : List Char → Bool
  | [] => true
  | c :: _ => isBreak c

/-- A letter, a digit, `_` or `-`. -/
def isWordChar (c : Char) : Bool := c.isAlphanum || c = '_' || c = '-'

/-- The value of a hexadecimal digit. -/
def hexDigit? (c : Char) : Option Nat :=
  if '0' ≤ c ∧ c ≤ '9' then some (c.toNat - '0'.toNat)
  else if 'a' ≤ c ∧ c ≤ 'f' then some (c.toNat - 'a'.toNat + 10)
  else if 'A' ≤ c ∧ c ≤ 'F' then some (c.toNat - 'A'.toNat + 10)
  else none

/-- A place in a text, counted from zero. -/
structure Mark where
  index : Nat
  line : Nat
  column : Nat
  deriving Repr, DecidableEq, Inhabited

namespace Mark

/-- The start of a text. -/
def zero : Mark := ⟨0, 0, 0⟩

/-- The place after the character `c`, which `rest` follows. -/
def past (m : Mark) (c : Char) (rest : List Char) : Mark :=
  if c = '\r' ∧ rest.head? = some '\n' then ⟨m.index + 1, m.line, m.column⟩
  else if isBreak c then ⟨m.index + 1, m.line + 1, 0⟩
  else ⟨m.index + 1, m.line, m.column + 1⟩

/-- The mark is at the start of the text, as far as lines and columns tell. -/
def isOrigin (m : Mark) : Bool := m.line = 0 && m.column = 0

/-- A mark as messages tell it, from line 1 and column 1 on. -/
def text (m : Mark) : String :=
  "line " ++ toString (m.line + 1) ++ " column " ++ toString (m.column + 1)

end Mark

/-- A place in a text with the characters after it. -/
structure Cursor where
  rest : List Char
  mark : Mark
  deriving Repr

namespace Cursor

/-- The start of a text. -/
def start (s : List Char) : Cursor := ⟨s, .zero⟩

/-- One character on; at the end nothing changes. -/
def advance (c : Cursor) : Cursor :=
  match c.rest with
  | [] => c
  | d :: rest => ⟨rest, c.mark.past d rest⟩

/-- `n` characters on. -/
def advanceBy (c : Cursor) : Nat → Cursor
  | 0 => c
  | n + 1 => c.advance.advanceBy n

/-- Past the characters of a class, from a mark on. -/
def skipFrom (p : Char → Bool) (m : Mark) : List Char → Cursor
  | [] => ⟨[], m⟩
  | c :: rest => if p c then skipFrom p (m.past c rest) rest else ⟨c :: rest, m⟩

/-- Past the characters of a class. -/
def skipWhile (c : Cursor) (p : Char → Bool) : Cursor := skipFrom p c.mark c.rest

/-- The next character. -/
def next? (c : Cursor) : Option Char := c.rest.head?

/-- The next character is `d`. -/
def sees (c : Cursor) (d : Char) : Bool := c.rest.head? = some d

/-- Past one line break, if there is one. -/
def skipBreak (c : Cursor) : Cursor :=
  match c.rest with
  | '\r' :: '\n' :: _ => c.advanceBy 2
  | d :: _ => if isBreak d then c.advance else c
  | [] => c

/-- A line of three dashes or three points starts here. -/
def atMarker (c : Cursor) : Bool :=
  c.mark.column = 0 &&
    match c.rest with
    | '-' :: '-' :: '-' :: rest => endsWord rest
    | '.' :: '.' :: '.' :: rest => endsWord rest
    | _ => false

end Cursor

/-- The text that a line break leaves in a value. The first half of a double break leaves
none. -/
def breakText (c : Char) (rest : List Char) : List Char :=
  if c = '\r' ∧ rest.head? = some '\n' then []
  else if c = '\u2028' ∨ c = '\u2029' then [c]
  else ['\n']

end UserConfigs.Yaml
