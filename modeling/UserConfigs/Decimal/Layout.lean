import UserConfigs.Decimal.Shortest

/-!
# Text of numbers

`Layout` holds the decisions of a number format; `Layout.write` writes a floating point
number in it. Three formats are in use : `Layout.plain` for rendered values, `Layout.json`
inside JSON, and `Layout.inspect` where a message spells out an expression.
-/

namespace UserConfigs.Decimal

/-- The decisions of a format for floating point numbers. A number is positional if the
count of digits before its point is more than `fewest` and at most `most`. -/
structure Layout where
  tie : Tie
  fewest : Option Int
  most : Option Int
  keepPoint : Bool
  notANumber : String
  infinity : String
  deriving Repr

namespace Layout

/-- Always positional, whole numbers without a point. -/
def plain : Layout := ⟨.up, none, none, false, "NaN", "inf"⟩

/-- Positional with at most sixteen digits before the point and at most four zeros after it,
whole numbers end in `.0`; there is no infinity in JSON. -/
def json : Layout := ⟨.toEven, some (-5), some 16, true, "null", "null"⟩

/-- Positional from `0.0001` up to sixteen digits before the point, whole numbers end in
`.0`. -/
def inspect : Layout := ⟨.up, some (-4), some 16, true, "NaN", "inf"⟩

/-- A number is written positionally when its point stands after `point` digits. -/
def positional (l : Layout) (point : Int) : Bool :=
  l.fewest.all (fun n => decide (n < point)) && l.most.all (fun n => decide (point ≤ n))

/-- Digits with the point after the first `point` of them, filled up with zeros. -/
def pointed (l : Layout) (digits : String) (point : Int) : String :=
  let n : Int := digits.length
  if point ≤ 0 then "0." ++ String.ofList (List.replicate (-point).toNat '0') ++ digits
  else if n ≤ point then
    digits ++ String.ofList (List.replicate (point - n).toNat '0') ++ (if l.keepPoint then ".0" else "")
  else (digits.take point.toNat).toString ++ "." ++ (digits.drop point.toNat).toString

/-- One digit, the point and the others, then the exponent. -/
def scientific (digits : String) (point : Int) : String :=
  (digits.take 1).toString ++ (if digits.length ≤ 1 then "" else "." ++ (digits.drop 1).toString) ++
    "e" ++ toString (point - 1)

/-- The text of a floating point number. -/
def write (l : Layout) (x : Float) : String :=
  match Binary.ofFloat? x with
  | none => if x.isNaN then l.notANumber else if x < 0 then "-" ++ l.infinity else l.infinity
  | some b =>
    let d := b.shortest l.tie
    let digits := Nat.repr d.digits
    let point : Int := if d.digits = 0 then 1 else d.exponent + digits.length
    (if b.negative then "-" else "") ++
      (if l.positional point then l.pointed digits point else scientific digits point)

end Layout

end UserConfigs.Decimal
