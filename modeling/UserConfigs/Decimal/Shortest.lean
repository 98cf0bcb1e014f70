/-!
# Shortest decimal digits

A binary floating point number stands for an interval : the reals that round to it.
`Binary.shortest` finds the decimal with the fewest digits in that interval, the nearest
to the number itself if there are several. The search walks the decimal grids from coarse
to fine; on each it tries the two points next to the number, in exact arithmetic.

`Binary.nearest` goes the other way : the number a fraction rounds to, half to even.
-/

namespace UserConfigs.Decimal

/-- The power of two with the exponent `n`. -/
def powTwo (n : Nat) : Nat := Nat.pow 2 n

/-- The power of ten with the exponent `n`. -/
def powTen (n : Nat) : Nat := Nat.pow 10 n

/-- A finite number `mantissa * 2 ^ exponent`, with its sign apart. -/
structure Binary where
  negative : Bool
  mantissa : Nat
  exponent : Int
  deriving Repr, DecidableEq

namespace Binary

/-- The fields of a finite number; `none` for an infinity or for no number. -/
def ofBits? (bits : UInt64) : Option Binary :=
  let n := bits.toNat
  let field : Nat := n / powTwo 52 % powTwo 11
  let fraction : Nat := n % powTwo 52
  if field = 0x7FF then none
  else if field = 0 then some ⟨n / powTwo 63 == 1, fraction, -1074⟩
  else some ⟨n / powTwo 63 == 1, fraction + powTwo 52, (field : Int) - 1075⟩

/-- The fields of a finite number. -/
def ofFloat? (x : Float) : Option Binary := ofBits? x.toBits

/-- The interval that rounds to the number, in units of a quarter of its last place :
lower end, the number, upper end. Below a power of two the places are half as wide. -/
def quarters (b : Binary) : Nat × Nat × Nat :=
  let low := if b.mantissa = powTwo 52 ∧ b.exponent > -1074 then 1 else 2
  (4 * b.mantissa - low, 4 * b.mantissa, 4 * b.mantissa + 2)

end Binary

/-- Decimal digits as a number, with the power of ten of the last one. -/
structure Digits where
  digits : Nat
  exponent : Int
  deriving Repr, DecidableEq

namespace Digits

/-- Drop trailing zeros, at most `fuel` of them. -/
def stripZeros : Nat → Digits → Digits
  | 0, d => d
  | fuel + 1, d =>
    if d.digits ≠ 0 ∧ d.digits % 10 = 0 then stripZeros fuel ⟨d.digits / 10, d.exponent + 1⟩ else d

end Digits

/-- Which of two equally near decimals is taken. -/
inductive Tie where
  | up
  | toEven
  deriving Repr, DecidableEq

/-- An interval on a grid : the ends and the number as multiples of one part of the unit
`unit` of the grid. -/
structure Grid where
  low : Nat
  middle : Nat
  high : Nat
  unit : Nat
  closed : Bool
  deriving Repr

namespace Grid

/-- The grid point `c` lies in the interval. -/
def contains (g : Grid) (c : Nat) : Bool :=
  if g.closed then g.low ≤ c * g.unit && c * g.unit ≤ g.high
  else g.low < c * g.unit && c * g.unit < g.high

/-- The point of the grid in the interval that is nearest to the number, if there is one. -/
def point? (g : Grid) (tie : Tie) : Option Nat :=
  let c := g.middle / g.unit
  let rest := g.middle - c * g.unit
  match g.contains c, g.contains (c + 1) with
  | false, false => none
  | true, false => some c
  | false, true => some (c + 1)
  | true, true =>
    if 2 * rest < g.unit then some c
    else if g.unit < 2 * rest then some (c + 1)
    else match tie with
      | .up => some (c + 1)
      | .toEven => some (if c % 2 = 0 then c else c + 1)

end Grid

namespace Binary

/-- The interval of the number, seen on the grid of the multiples of `10 ^ k`. -/
def grid (b : Binary) (k : Int) : Grid :=
  let (low, middle, high) := b.quarters
  let scale := powTen (-k).toNat * powTwo (b.exponent - 2).toNat
  ⟨low * scale, middle * scale, high * scale,
    powTen k.toNat * powTwo (2 - b.exponent).toNat, b.mantissa % 2 = 0⟩

/-- How many digits stand before the decimal point : the number lies between the powers of
ten just below and at this count. Counted after a shift that makes the least number large. -/
def magnitude (b : Binary) : Int :=
  let g := b.grid (-340)
  ((Nat.repr (g.middle / g.unit)).length : Int) - 340

/-- Search the grids from `k` down, at most `fuel` of them. -/
def search (b : Binary) (tie : Tie) : Nat → Int → Digits
  | 0, k => ⟨(b.grid k).middle / (b.grid k).unit, k⟩
  | fuel + 1, k =>
    match (b.grid k).point? tie with
    | some c => ⟨c, k⟩
    | none => search b tie fuel (k - 1)

/-- The fewest digits that read back as the number, the nearest to it of those. Seventeen
digits always do. -/
def shortest (b : Binary) (tie : Tie) : Digits :=
  if b.mantissa = 0 then ⟨0, 0⟩
  else (search b tie 17 (b.magnitude - 1)).stripZeros 400

/-- `num / den` rounded to a whole number, half to even. -/
def roundHalfEven (num den : Nat) : Nat :=
  let q := num / den
  let r := num % den
  if 2 * r < den then q else if den < 2 * r then q + 1 else if q % 2 = 0 then q else q + 1

/-- The bits of the number nearest to `num / den`, half to even, without its sign. Too large
a fraction gives the bits of infinity. -/
def nearestBits (num den : Nat) : UInt64 :=
  if num = 0 ∨ den = 0 then 0
  else
    -- the exponent for which the quotient has 53 or 54 bits
    let guess : Int := (num.log2 : Int) - (den.log2 : Int) - 53
    let scaled (q : Int) : Nat × Nat := (num * powTwo (-q).toNat, den * powTwo q.toNat)
    let wide := (scaled guess).1 / (scaled guess).2 ≥ powTwo 53
    let q := max (if wide then guess + 1 else guess) (-1074)
    let m := roundHalfEven (scaled q).1 (scaled q).2
    let (m, q) := if m = powTwo 53 then (powTwo 52, q + 1) else (m, q)
    if q + 1075 ≥ 0x7FF then (0x7FF0000000000000 : UInt64)
    else if m < powTwo 52 then UInt64.ofNat m
    else UInt64.ofNat ((q + 1075).toNat * powTwo 52 + (m - powTwo 52))

/-- The number nearest to `digits * 10 ^ exponent`. -/
def nearest (negative : Bool) (digits : Nat) (exponent : Int) : Float :=
  -- beyond these exponents the answer is zero or infinity whatever the digits
  let length := (Nat.repr digits).length
  let magnitude := if digits = 0 ∨ exponent + length < -400 then 0.0
    else if exponent > 400 then Float.ofBits 0x7FF0000000000000
    else Float.ofBits (nearestBits (digits * powTen exponent.toNat) (powTen (-exponent).toNat))
  if negative then -magnitude else magnitude

/-- The remainder of two finite numbers, with the sign of the first; exact. -/
def remainder (x y : Binary) : Float :=
  let q := min x.exponent y.exponent
  let m := x.mantissa * powTwo (x.exponent - q).toNat
  let n := y.mantissa * powTwo (y.exponent - q).toNat
  let r := m % n
  let magnitude := Float.ofBits (nearestBits (r * powTwo q.toNat) (powTwo (-q).toNat))
  if x.negative then -magnitude else magnitude

end Binary

end UserConfigs.Decimal
