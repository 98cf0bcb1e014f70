import UserConfigs.Yaml.Fold

/-!
# Quoted scalars

Between single quotes a quote is written twice and nothing else is special. Between double
quotes a backslash starts an escape : for one character (`escapeChar?`), for a code point in
hexadecimal digits (`escapeLength?`), or at the end of a line, which is then joined to the
next without a space. Line breaks are folded in both kinds.
-/

namespace UserConfigs.Yaml

/-- The character that an escape of one letter stands for. -/
def escapeChar? : Char → Option Char
  | '0' => some '\x00'
  | 'a' => some '\x07'
  | 'b' => some '\x08'
  | 't' => some '\t'
  | '\t' => some '\t'
  | 'n' => some '\n'
  | 'v' => some '\x0b'
  | 'f' => some '\x0c'
  | 'r' => some '\r'
  | 'e' => some '\x1b'
  | ' ' => some ' '
  | '\x22' => some '\x22'
  | '/' => some '/'
  | '\x5c' => some '\x5c'
  | 'N' => some '\x85'
  | '_' => some '\xa0'
  | 'L' => some '\u2028'
  | 'P' => some '\u2029'
  | _ => none

/-- How many hexadecimal digits follow the letter of an escape. -/
def escapeLength? : Char → Option Nat
  | 'x' => some 2
  | 'u' => some 4
  | 'U' => some 8
  | _ => none

/-- A number is the code point of a character. -/
def isCodePoint (n : Nat) : Bool := n < 0xD800 || (0xDFFF < n && n ≤ 0x10FFFF)

/-- What was read before the next character of a quoted scalar. -/
inductive QuotedState where
  /-- Nothing that needs more characters. -/
  | text
  /-- A backslash at the mark `start`. -/
  | backslash (start : Mark)
  /-- An escape with hexadecimal digits, which start at the mark `digits`. There are `left`
  more to come after the digits of `value`. -/
  | hex (left value : Nat) (digits : Mark)
  /-- A single quote, which ends the scalar unless another one follows. -/
  | quote
  deriving Repr

/-- Read the rest of a quoted scalar that started at `start`. `gap` was passed since its last
word. -/
def quotedFrom (single : Bool) (start : Mark) (state : QuotedState) (gap : Gap) (m : Mark) :
    List Char → Except Problem Scalar
  | [] =>
    match state with
    | .text => .error (.during .endInText m .scanningQuoted start)
    | .backslash b => .error (.during .unknownEscape b .parsingQuoted start)
    | .hex _ _ digits => .error (.during .noHexDigits digits .parsingQuoted start)
    | .quote => .ok ⟨gap.fold, m, ⟨[], m⟩, false⟩
  | c :: rest =>
    let m' := m.past c rest
    match state with
    | .text =>
      if isBlank c then quotedFrom single start .text (gap.blank c) m' rest
      else if isBreak c then quotedFrom single start .text (gap.lineBreak c rest) m' rest
      else if (Cursor.mk (c :: rest) m).atMarker then
        .error (.during .documentMarkerInText m .scanningQuoted start)
      else if single ∧ c = '\x27' then quotedFrom single start .quote gap m' rest
      else if !single ∧ c = '\x22' then .ok ⟨gap.fold, m', ⟨rest, m'⟩, false⟩
      else if !single ∧ c = '\x5c' then quotedFrom single start (.backslash m) gap m' rest
      else Scalar.prepend (gap.fold ++ [c]) (quotedFrom single start .text .none m' rest)
    | .backslash b =>
      if c = '\r' ∧ rest.head? = some '\n' then
        quotedFrom single start (.backslash b) gap m' rest
      else if isBreak c then
        Scalar.prepend gap.fold (quotedFrom single start .text .joined m' rest)
      else
        match escapeChar? c with
        | some d =>
          Scalar.prepend (gap.fold ++ [d]) (quotedFrom single start .text .none m' rest)
        | none =>
          match escapeLength? c with
          | some n => quotedFrom single start (.hex n 0 m') gap m' rest
          | none => .error (.during .unknownEscape b .parsingQuoted start)
    | .hex left value digits =>
      match hexDigit? c with
      | none => .error (.during .noHexDigits digits .parsingQuoted start)
      | some d =>
        let value := 16 * value + d
        if 1 < left then quotedFrom single start (.hex (left - 1) value digits) gap m' rest
        else if isCodePoint value then
          Scalar.prepend (gap.fold ++ [Char.ofNat value])
            (quotedFrom single start .text .none m' rest)
        else .error (.during .invalidCodePoint digits .parsingQuoted start)
    | .quote =>
      if c = '\x27' then
        Scalar.prepend (gap.fold ++ [c]) (quotedFrom single start .text .none m' rest)
      else .ok ⟨gap.fold, m, ⟨c :: rest, m⟩, false⟩

/-- Read a quoted scalar, from its first quote on. -/
def quoted (single : Bool) (c : Cursor) : Except Problem Scalar :=
  quotedFrom single c.mark .text .none c.advance.mark c.advance.rest

end UserConfigs.Yaml
