import UserConfigs.Decimal.Layout
import UserConfigs.Fields

/-!
# Values

A `Value` is what a template variable is bound to : null, a truth value, a number, a text,
an array or an object. The fields of an object stand in ascending order of their names, no
name twice (`Value.ofFields`). A number is a whole number or a floating point number, and
the two kinds are never equal (`Number.beq`).
-/

namespace UserConfigs

/-- A whole number, between the least signed and the greatest unsigned of 64 bits, or a
finite floating point number. -/
inductive Number where
  | whole (n : Int)
  | float (x : Float)
  deriving Repr, Inhabited

namespace Number

/-- The first whole number above the signed ones of 64 bits. -/
def signedEnd : Int := 0x8000000000000000

/-- The first whole number above the unsigned ones of 64 bits. -/
def unsignedEnd : Int := 0x10000000000000000

/-- Equality within one kind. -/
def beq : Number → Number → Bool
  | whole m, whole n => m == n
  | float x, float y => x == y
  | _, _ => false

instance : BEq Number := ⟨beq⟩

/-- The floating point number nearest to it. -/
def toFloat : Number → Float
  | whole n => Float.ofInt n
  | float x => x

/-- Neither zero nor undefined. -/
def isTruthy : Number → Bool
  | whole n => n != 0
  | float x => x != 0 && !x.isNaN

/-- The text with floating point numbers in a given layout. -/
def write (l : Decimal.Layout) : Number → String
  | whole n => toString n
  | float x => l.write x

end Number

/-- A JSON value. -/
inductive Value where
  | null
  | bool (b : Bool)
  | number (n : Number)
  | text (s : String)
  | array (items : List Value)
  | object (fields : List (String × Value))
  deriving Repr, Inhabited

namespace Value

/-- The object with the given fields, a later one in place of an earlier one of its name. -/
def ofFields (l : List (String × Value)) : Value := .object (Fields.ofList l)

mutual

/-- Equality; numbers of different kinds differ. -/
def beq : Value → Value → Bool
  | .null, .null => true
  | .bool a, .bool b => a == b
  | .number m, .number n => m == n
  | .text s, .text t => s == t
  | .array xs, .array ys => beqItems xs ys
  | .object fs, .object gs => beqFields fs gs
  | _, _ => false

/-- Equality of arrays, item by item. -/
def beqItems : List Value → List Value → Bool
  | [], [] => true
  | x :: xs, y :: ys => beq x y && beqItems xs ys
  | _, _ => false

/-- Equality of objects, field by field. -/
def beqFields : List (String × Value) → List (String × Value) → Bool
  | [], [] => true
  | (k, x) :: fs, (l, y) :: gs => k == l && beq x y && beqFields fs gs
  | _, _ => false

end

instance : BEq Value := ⟨beq⟩

/-- What counts as true : anything but null, `false`, zero and what is empty. -/
def isTruthy : Value → Bool
  | .null => false
  | .bool b => b
  | .number n => n.isTruthy
  | .text s => !s.isEmpty
  | .array xs => !xs.isEmpty
  | .object fs => !fs.isEmpty

mutual

/-- The plain text of a value : a string as it is, null as nothing, an array in brackets,
an object as a placeholder. -/
def render : Value → String
  | .null => ""
  | .bool b => if b then "true" else "false"
  | .number n => n.write .plain
  | .text s => s
  | .array xs => "[" ++ renderItems xs ++ "]"
  | .object _ => "[object]"

/-- The plain texts of the items of an array with a comma and a blank between them. -/
def renderItems : List Value → String
  | [] => ""
  | [x] => render x
  | x :: y :: xs => render x ++ ", " ++ renderItems (y :: xs)

end

end Value

end UserConfigs
