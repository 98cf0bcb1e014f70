import UserConfigs.Yaml.Fold

/-!
# Plain scalars

A plain scalar ends at a colon before a blank, at a comment, at a line that is indented too
little or starts a document, and inside brackets also at a comma or a bracket
(`plainFrom`).
-/

namespace UserConfigs.Yaml

/-- What surrounds a plain scalar : whether it stands in brackets, the least column of its
further lines, and its start. -/
structure PlainContext where
  flow : Bool
  indent : Int
  start : Mark

namespace PlainContext

/-- The scalar ends before the character `c` that a gap and nothing else precedes. -/
def endsAfterGap (x : PlainContext) (gap : Gap) (m : Mark) (c : Char) (rest : List Char) : Bool :=
  gap.isSome &&
    ((!x.flow && (m.column : Int) < x.indent) || (Cursor.mk (c :: rest) m).atMarker || c = '#')

/-- The scalar ends before the character `c` because of what it is. -/
def endsAt (x : PlainContext) (c : Char) (rest : List Char) : Bool :=
  (c = ':' && endsWord rest) ||
    (x.flow && (c = ',' || c = '[' || c = ']' || c = '\x7b' || c = '\x7d'))

/-- A colon that neither ends a scalar nor may stand in one. -/
def badColon (x : PlainContext) (c : Char) (rest : List Char) : Bool :=
  x.flow && c = ':' &&
    match rest with
    | d :: _ => d = ',' || d = '?' || d = '[' || d = ']' || d = '\x7b' || d = '\x7d'
    | [] => false

end PlainContext

/-- Read the rest of a plain scalar : `gap` was passed since its last word, which ended at
`stop`. -/
def plainFrom (x : PlainContext) (gap : Gap) (stop m : Mark) :
    List Char → Except Problem Scalar
  | [] => .ok ⟨[], stop, ⟨[], m⟩, gap.broken⟩
  | c :: rest =>
    if isBlank c then
      if gap.broken ∧ (m.column : Int) < x.indent ∧ c = '\t' then
        .error (.during .tabViolatesIndentation m .scanningPlain x.start)
      else plainFrom x (gap.blank c) stop (m.past c rest) rest
    else if isBreak c then plainFrom x (gap.lineBreak c rest) stop (m.past c rest) rest
    else if x.endsAfterGap gap m c rest then .ok ⟨[], stop, ⟨c :: rest, m⟩, gap.broken⟩
    else if x.badColon c rest then
      .error (.during .unexpectedColon m .scanningPlain x.start)
    else if x.endsAt c rest then .ok ⟨[], stop, ⟨c :: rest, m⟩, gap.broken⟩
    else
      Scalar.prepend (gap.fold ++ [c])
        (plainFrom x .none (m.past c rest) (m.past c rest) rest)

/-- Read a plain scalar. -/
def plain (flow : Bool) (indent : Int) (c : Cursor) : Except Problem Scalar :=
  plainFrom ⟨flow, indent, c.mark⟩ .none c.mark c.mark c.rest

end UserConfigs.Yaml
