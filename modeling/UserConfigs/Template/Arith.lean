import UserConfigs.Template.Fault

/-!
# Operators on numbers

Sums, differences and products of whole numbers are exact or a fault : two numbers in the
signed range of 64 bits stay in it, two numbers in the unsigned range stay in that. All else
is floating point. A quotient is floating point too, and one without a fraction is made
whole. A remainder of whole numbers is a fault if the divisor is zero, and for the least signed
number and minus one there is no answer (`wholeRem`). A result that is no finite number is `none`.
-/

namespace UserConfigs.Template

/-- The signed range of 64 bits. -/
def inSigned (n : Int) : Bool := -Number.signedEnd ≤ n && n < Number.signedEnd

/-- The unsigned range of 64 bits. -/
def inUnsigned (n : Int) : Bool := 0 ≤ n && n < Number.unsignedEnd

/-- A floating point result, if it is finite. -/
def finite? (x : Float) : Option Number := if x.isFinite then some (.float x) else none

/-- Apply an operator on whole numbers exactly, in the signed or else the unsigned range, and
one on floating point numbers to any others. -/
def exactOr (symbol : String) (whole : Int → Int → Int) (float : Float → Float → Float)
    (a b : Number) : Except Fault (Option Number) :=
  match a, b with
  | .whole m, .whole n =>
    if inSigned m ∧ inSigned n then
      if inSigned (whole m n) then .ok (some (.whole (whole m n)))
      else .error (.overflow symbol m n true)
    else if inUnsigned m ∧ inUnsigned n then
      if inUnsigned (whole m n) then .ok (some (.whole (whole m n)))
      else .error (.overflow symbol m n false)
    else .ok (finite? (float a.toFloat b.toFloat))
  | _, _ => .ok (finite? (float a.toFloat b.toFloat))

/-- The remainder of two floating point numbers, with the sign of the first. -/
def floatRem (x y : Float) : Option Number :=
  match Decimal.Binary.ofFloat? x, Decimal.Binary.ofFloat? y with
  | some a, some b => if b.mantissa = 0 then none else some (.float (a.remainder b))
  | some _, none => if y.isNaN then none else finite? x
  | none, _ => none

/-- A quotient of two floating point numbers. -/
def quotient (x y : Float) : Option Number :=
  let q := x / y
  if q.isFinite ∧ q.round == q then some (.whole q.toInt64.toInt) else finite? q

/-- The remainder of two whole numbers, with the sign of the first. `byZero` is the fault of a
divisor that is zero. The quotient of the least signed number and minus one is out of range, and the
program stops there. -/
def wholeRem (byZero : Fault) (m n : Int) : Except Fault (Option Number) :=
  if n = 0 then .error byZero
  else if m = -Number.signedEnd ∧ n = -1 then .error (.noAnswer "remainder with overflow")
  else .ok (some (.whole (Int.tmod m n)))

/-- The result of an operator. `byZero` is the fault of a remainder by zero. -/
def ArithOp.apply (op : ArithOp) (byZero : Fault) (a b : Number) :
    Except Fault (Option Number) :=
  match op with
  | .add => exactOr "+" (· + ·) (· + ·) a b
  | .sub => exactOr "-" (· - ·) (· - ·) a b
  | .mul => exactOr "x" (· * ·) (· * ·) a b
  | .div => .ok (quotient a.toFloat b.toFloat)
  | .rem =>
    match a, b with
    | .whole m, .whole n =>
      if (inSigned m ∧ inSigned n) ∨ (inUnsigned m ∧ inUnsigned n) then wholeRem byZero m n
      else .ok (floatRem a.toFloat b.toFloat)
    | _, _ => .ok (floatRem a.toFloat b.toFloat)

/-- Compare two numbers. -/
def Ordering.holds (op : Ordering) (a b : Number) : Bool :=
  match op with
  | .less => a.toFloat < b.toFloat
  | .lessEq => a.toFloat ≤ b.toFloat
  | .greater => b.toFloat < a.toFloat
  | .greaterEq => b.toFloat ≤ a.toFloat

end UserConfigs.Template
