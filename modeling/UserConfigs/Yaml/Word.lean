import UserConfigs.Text.Quoted
import UserConfigs.Value
import UserConfigs.Yaml.Event

/-!
# What scalars stand for

Where a text is wanted every scalar is one. Where something else is wanted, a message names
what stands there instead, and for that a plain scalar may be null, a truth value, a whole
number or a floating point number (`Word.ofPlain`). A tag may ask for one of these kinds
(`Word.ofScalar`).
-/

namespace UserConfigs.Yaml

/-- What a scalar stands for. -/
inductive Word where
  | null
  | bool (b : Bool)
  | whole (n : Int)
  | float (x : Float)
  | text (s : List Char)
  deriving Repr

namespace Word

/-- A scalar of a kind with a name that its tag asks for. -/
inductive Kind where
  | bool
  | whole
  | float
  | null
  deriving Repr, DecidableEq

/-- The name of a kind in messages. -/
def Kind.name : Kind → String
  | bool => "a boolean"
  | whole => "an integer"
  | float => "a float"
  | null => "null"

/-- The kind that a tag asks for. -/
def Kind.ofTag? (tag : List Char) : Option Kind :=
  if tag = "tag:yaml.org,2002:bool".toList then some bool
  else if tag = "tag:yaml.org,2002:int".toList then some whole
  else if tag = "tag:yaml.org,2002:float".toList then some float
  else if tag = "tag:yaml.org,2002:null".toList then some null
  else none

/-! ## Truth values and null -/

/-- The word for null. -/
def isNull (s : List Char) : Bool :=
  s = "null".toList || s = "Null".toList || s = "NULL".toList || s = ['~']

/-- The words for the truth values. -/
def bool? (s : List Char) : Option Bool :=
  if s = "true".toList ∨ s = "True".toList ∨ s = "TRUE".toList then some true
  else if s = "false".toList ∨ s = "False".toList ∨ s = "FALSE".toList then some false
  else none

/-! ## Whole numbers -/

/-- The number with the given digits in a base, after the digits of `n`. -/
def digitsFrom? (base n : Nat) : List Char → Option Nat
  | [] => some n
  | c :: s =>
    match hexDigit? c with
    | some d => if d < base then digitsFrom? base (base * n + d) s else none
    | none => none

/-- The number with the given digits in a base; there has to be one. -/
def digits? (base : Nat) (s : List Char) : Option Nat :=
  if s.isEmpty then none else digitsFrom? base 0 s

/-- Several digits, the first of them a zero : a text and not a number. -/
def hasLeadingZero (s : List Char) : Bool :=
  match s with
  | '0' :: c :: rest => (c :: rest).all Char.isDigit
  | _ => false

/-- A number without a sign, in base 16, 8, 2 or 10. -/
def natural? : List Char → Option Nat
  | '0' :: 'x' :: s => digits? 16 s
  | '0' :: 'o' :: s => digits? 8 s
  | '0' :: 'b' :: s => digits? 2 s
  | s => if hasLeadingZero s then none else digits? 10 s

/-- The first number above those of 128 bits. -/
def unsignedEnd : Nat := 0x100000000000000000000000000000000

/-- A whole number of 128 bits, signed or unsigned. -/
def whole? (s : List Char) : Option Int :=
  match s with
  | '-' :: s => (natural? s).bind fun n => if 2 * n ≤ unsignedEnd then some (-n) else none
  | '+' :: s => (natural? s).bind fun n => if n < unsignedEnd then some n else none
  | s => (natural? s).bind fun n => if n < unsignedEnd then some n else none

/-! ## Floating point numbers -/

/-- An exponent behind its letter, zero where there is none. -/
def exponent? : List Char → Option Int
  | [] => some 0
  | c :: s =>
    if c = 'e' ∨ c = 'E' then
      match s with
      | '-' :: s => (digits? 10 s).map fun n => -(n : Int)
      | '+' :: s => (digits? 10 s).map Int.ofNat
      | s => (digits? 10 s).map Int.ofNat
    else none

/-- Digits with a point among them, before an exponent. -/
def decimal? (negative : Bool) (s : List Char) : Option Float :=
  let before := s.takeWhile Char.isDigit
  let rest := s.dropWhile Char.isDigit
  let (after, rest) := match rest with
    | '.' :: r => (r.takeWhile Char.isDigit, r.dropWhile Char.isDigit)
    | r => ([], r)
  match digits? 10 (before ++ after), exponent? rest with
  | some n, some e =>
    let x := Decimal.Binary.nearest negative n (e - after.length)
    if x.isFinite then some x else none
  | _, _ => none

/-- The words for infinity. -/
def isInfinity (s : List Char) : Bool :=
  s = ".inf".toList || s = ".Inf".toList || s = ".INF".toList

/-- A number with a point or an exponent, or a word for what is no such number. -/
def float? (s : List Char) : Option Float :=
  match s with
  | '+' :: s => if isInfinity s then some (1.0 / 0.0) else decimal? false s
  | '-' :: s => if isInfinity s then some (-1.0 / 0.0) else decimal? true s
  | s =>
    if isInfinity s then some (1.0 / 0.0)
    else if s = ".nan".toList ∨ s = ".NaN".toList ∨ s = ".NAN".toList then some (0.0 / 0.0)
    else decimal? false s

/-! ## Scalars -/

/-- What a plain scalar stands for. -/
def ofPlain (s : List Char) : Word :=
  if s.isEmpty || isNull s then null
  else
    match bool? s, whole? s with
    | some b, _ => bool b
    | none, some n => whole n
    | none, none =>
      let unsigned := match s with
        | '-' :: r => r
        | '+' :: r => r
        | r => r
      if hasLeadingZero unsigned then text s
      else match float? s with
        | some x => float x
        | none => text s

/-- What a scalar stands for that its tag says is of a kind, if it is. -/
def ofKind? (s : List Char) : Kind → Option Word
  | .bool => (bool? s).map bool
  | .whole => (whole? s).map whole
  | .float => (float? s).map float
  | .null => if isNull s then some null else none

/-- What a scalar stands for, or the kind that its tag asks for in vain. -/
def ofScalar (tag : Option (List Char)) (s : List Char) (style : Style) : Except Kind Word :=
  match tag with
  | none => .ok (if style = .plain then ofPlain s else text s)
  | some tag =>
    match Kind.ofTag? tag with
    | some kind =>
      match ofKind? s kind with
      | some w => .ok w
      | none => .error kind
    | none =>
      .ok (if tag.head? = some '!' ∧ style = .plain then ofPlain s else text s)

/-- Floating point numbers in messages : never an exponent, whole numbers end in `.0`. -/
def floatLayout : Decimal.Layout := { Decimal.Layout.plain with keepPoint := true }

/-- A word in messages. -/
def describe : Word → String
  | null => "unit value"
  | bool b => "boolean \x60" ++ (if b then "true" else "false") ++ "\x60"
  | whole n =>
    if n < -Number.signedEnd then "integer \x60" ++ toString n ++ "\x60 as i128"
    else if Number.unsignedEnd ≤ n then "integer \x60" ++ toString n ++ "\x60 as u128"
    else "integer \x60" ++ toString n ++ "\x60"
  | float x => "floating point \x60" ++ floatLayout.write x ++ "\x60"
  | text s => "string " ++ Text.quoted (String.ofList s)

end Word

end UserConfigs.Yaml
