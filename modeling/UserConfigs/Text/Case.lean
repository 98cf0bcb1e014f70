import UserConfigs.Text.CaseData

/-!
# Upper and lower case of a text

`upper` and `lower` map a text by the full case mappings : one character may become several
(`ß` becomes `SS`). A capital sigma becomes the final form in `lower` if it ends a word :
a cased character stands before it and none after it, characters that case ignores not
counted (`endsWord`).
-/

namespace UserConfigs.Text

/-- The code point lies in one of the ranges. -/
def inRanges (ranges : List (Nat × Nat)) (n : Nat) : Bool :=
  ranges.any fun r => r.1 ≤ n && n ≤ r.2

/-- The character a run maps `n` to, if it maps it. -/
def CaseData.Run.image? (r : CaseData.Run) (n : Nat) : Option Nat :=
  if r.first ≤ n ∧ n ≤ r.last ∧ (n - r.first) % r.step = 0 then some ((n : Int) + r.shift).toNat
  else none

/-- A case mapping given by its long and its short entries; other characters stay. -/
def mapCase (long : List (Nat × List Nat)) (runs : List CaseData.Run) (c : Char) : List Char :=
  match long.lookup c.toNat with
  | some ns => ns.map Char.ofNat
  | none =>
    match runs.findSome? (·.image? c.toNat) with
    | some n => [Char.ofNat n]
    | none => [c]

/-- The upper case of a character. -/
def upperChar (c : Char) : List Char :=
  if c.toNat < 0x80 then [c.toUpper] else mapCase CaseData.upperLong CaseData.upperRuns c

/-- The lower case of a character by itself. -/
def lowerChar (c : Char) : List Char :=
  if c.toNat < 0x80 then [c.toLower] else mapCase CaseData.lowerLong CaseData.lowerRuns c

/-- The first character that case does not ignore is cased. -/
def startsCased (s : List Char) : Bool :=
  match s.dropWhile fun c => inRanges CaseData.ignorable c.toNat with
  | [] => false
  | c :: _ => inRanges CaseData.cased c.toNat

/-- A character between `before`, nearest first, and `after` ends a word. -/
def endsWord (before after : List Char) : Bool := startsCased before && !startsCased after

/-- Lower case of the rest of a text, after the characters `before`, nearest first. -/
def lowerAfter (before : List Char) : List Char → List Char
  | [] => []
  | c :: s =>
    (if c = 'Σ' then [if endsWord before s then 'ς' else 'σ'] else lowerChar c) ++
      lowerAfter (c :: before) s

/-- The upper case of a text. -/
def upper (s : List Char) : List Char := s.flatMap upperChar

/-- The lower case of a text. -/
def lower (s : List Char) : List Char := lowerAfter [] s

end UserConfigs.Text
