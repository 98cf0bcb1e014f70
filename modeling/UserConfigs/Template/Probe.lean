import UserConfigs.Template.Arith
import UserConfigs.Template.World
import UserConfigs.Text.Search

/-!
# Tests on values

A `Probe` is what stands after `is`. It is asked about the value at a path, or about the
path leading nowhere, which only `defined` and `undefined` take; and about values given as
arguments. What a regular expression matches is left to the world.
-/

namespace UserConfigs.Template

/-- A test. -/
inductive Probe where
  | defined
  | undefined
  | string
  | number
  | odd
  | even
  | divisibleBy
  | iterable
  | object
  | startingWith
  | endingWith
  | containing
  | matching
  deriving Repr, DecidableEq

namespace Probe

/-- The tests by name. -/
def names : List (String × Probe) :=
  [("defined", defined), ("undefined", undefined), ("string", string), ("number", number),
   ("odd", odd), ("even", even), ("divisibleby", divisibleBy), ("iterable", iterable),
   ("object", object), ("starting_with", startingWith), ("ending_with", endingWith),
   ("containing", containing), ("matching", matching)]

/-- The test of a name. -/
def named? (name : String) : Option Probe := names.lookup name

/-- The name of a test. -/
def title : Probe → String
  | defined => "defined"
  | undefined => "undefined"
  | string => "string"
  | number => "number"
  | odd => "odd"
  | even => "even"
  | divisibleBy => "divisibleby"
  | iterable => "iterable"
  | object => "object"
  | startingWith => "starting_with"
  | endingWith => "ending_with"
  | containing => "containing"
  | matching => "matching"

/-- How many arguments a test takes. -/
def most : Probe → Nat
  | divisibleBy | startingWith | endingWith | containing | matching => 1
  | _ => 0

/-- Refuse more arguments than a test takes. -/
def checkArguments (t : Probe) (given : Nat) : Except Fault Unit :=
  if given ≤ t.most then .ok ()
  else if t.most = 0 then .error (.testTakesNone t.title)
  else .error (.testTakesFewer t.title given t.most)

/-- The text a test is about. -/
def textOf (t : Probe) : Value → Except Fault (List Char)
  | .text s => .ok s.toList
  | _ => .error (.testSubject t.title "string")

/-- The text a test is given. -/
def textGiven (t : Probe) : List Value → Except Fault (List Char)
  | .text s :: _ => .ok s.toList
  | _ => .error (.testParameter t.title "string")

/-- The remainder of two numbers is zero. -/
def divides (n by' : Number) : Bool :=
  match floatRem n.toFloat by'.toFloat with
  | some r => r.toFloat == 0
  | none => false

/-- The number is odd. -/
def isOdd : Value → Except Fault Bool
  | .number n => .ok (!divides n (.whole 2))
  | _ => .error (.testSubject "odd" "number")

/-- The answer of a test about a value. -/
def askValue [World] (t : Probe) (v : Value) (args : List Value) : Except Fault Bool :=
  match t with
  | defined => .ok true
  | undefined => .ok false
  | string => .ok (match v with | .text _ => true | _ => false)
  | number => .ok (match v with | .number _ => true | _ => false)
  | odd => isOdd v
  | even => do pure (!(← isOdd v))
  | divisibleBy =>
    match v, args with
    | .number n, .number m :: _ => .ok (divides n m)
    | .number _, _ => .error (.testParameter t.title "number")
    | _, _ => .error (.testSubject t.title "number")
  | iterable => .ok (match v with | .array _ | .object _ => true | _ => false)
  | object => .ok (match v with | .object _ => true | _ => false)
  | startingWith => do
    let s ← t.textOf v
    let w ← t.textGiven args
    pure (w.isPrefixOf s)
  | endingWith => do
    let s ← t.textOf v
    let w ← t.textGiven args
    pure (w.isSuffixOf s)
  | containing =>
    match v with
    | .text s => do
      let w ← t.textGiven args
      pure (Text.occurs w s.toList)
    | .array xs => .ok (args.head?.any fun x => xs.contains x)
    | .object fields => do
      let w ← t.textGiven args
      pure (Fields.get? (String.ofList w) fields).isSome
    | _ => .error .containingSubject
  | matching => do
    let s ← t.textOf v
    let w ← t.textGiven args
    pure ((← World.pattern (String.ofList w)) (String.ofList s))

/-- The answer of a test about what a path leads to. -/
def ask [World] (t : Probe) (subject : Option Value) (args : List Value) : Except Fault Bool := do
  t.checkArguments args.length
  match t, subject with
  | defined, v => pure v.isSome
  | undefined, v => pure v.isNone
  | _, none => throw (.testUndefined t.title)
  | _, some v => t.askValue v args

end Probe

end UserConfigs.Template
