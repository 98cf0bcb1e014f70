import UserConfigs.Yaml.Problem

/-!
# Blanks and line breaks inside scalars

A `Gap` is a run of blanks and line breaks between two words of a scalar. On one line it is
kept as it is; over several lines the blanks go, one break becomes a space, and of several
breaks the first goes (`Gap.fold`).
-/

namespace UserConfigs.Yaml

/-- Blanks and line breaks passed since the last word. -/
structure Gap where
  /-- A line break was passed. -/
  broken : Bool
  /-- Blanks on the line of the last word. -/
  blanks : List Char
  /-- The text of the first break. -/
  first : List Char
  /-- The text of the breaks after it. -/
  more : List Char
  deriving Repr, DecidableEq

namespace Gap

/-- No gap. -/
def none : Gap := ⟨false, [], [], []⟩

/-- A break that leaves no text, as after a backslash. -/
def joined : Gap := ⟨true, [], [], []⟩

/-- There is something in the gap. -/
def isSome (g : Gap) : Bool := g.broken || !g.blanks.isEmpty

/-- The gap after one more blank; blanks at the start of a line go. -/
def blank (g : Gap) (c : Char) : Gap :=
  if g.broken then g else { g with blanks := g.blanks ++ [c] }

/-- The gap after one more character of a line break, which `rest` follows. -/
def lineBreak (g : Gap) (c : Char) (rest : List Char) : Gap :=
  if c = '\r' ∧ rest.head? = some '\n' then g
  else if g.broken then { g with more := g.more ++ breakText c rest }
  else ⟨true, [], breakText c rest, []⟩

/-- The text that stands for the gap. -/
def fold (g : Gap) : List Char :=
  if g.broken then
    if g.first = ['\n'] then (if g.more.isEmpty then [' '] else g.more) else g.first ++ g.more
  else g.blanks

end Gap

/-- What was read of a scalar : its text, the end of it, and the place where reading goes on.
`broken` tells whether a line break was passed after its end. -/
structure Scalar where
  text : List Char
  stop : Mark
  after : Cursor
  broken : Bool
  deriving Repr

/-- Put characters before the text of a scalar. -/
def Scalar.prepend (s : List Char) : Except Problem Scalar → Except Problem Scalar
  | .ok r => .ok { r with text := s ++ r.text }
  | .error e => .error e

end UserConfigs.Yaml
