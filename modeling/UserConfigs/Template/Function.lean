import UserConfigs.Template.World

/-!
# Functions

A function gives a value for named arguments. `range` counts, `throw` fails with a message of the
template, and the others ask the world.
-/

namespace UserConfigs.Template

/-- A function. -/
inductive Function where
  | range
  | throw
  | environment
  | now
  | random
  deriving Repr, DecidableEq

namespace Function

/-- The functions by name. -/
def names : List (String × Function) :=
  [("range", range), ("throw", throw), ("get_env", environment), ("now", now),
   ("get_random", random)]

/-- The function of a name. -/
def named? (name : String) : Option Function := names.lookup name

/-- An argument of `range`, or what it is without one. A message calls it `title`. -/
def bound (args : Fields Value) (name title : String) (default : Except Fault Nat) :
    Except Fault Nat :=
  match args.get? name with
  | none => default
  | some (.number (.whole n)) =>
    if 0 ≤ n then .ok n.toNat
    else .error (.functionArgument "range" name title (.number (.whole n)) "number")
  | some v => .error (.functionArgument "range" name title v "number")

/-- The numbers from `start` up to `stop` in steps. Without a step, and where the step after the
last number is out of range, there is no end of them. -/
def count (start step stop : Nat) : Except Fault (List Value) :=
  let rounds := (stop - start + (step - 1)) / step
  if stop < start then .error .rangeReversed
  else if start < stop ∧ (step = 0 ∨ Number.unsignedEnd ≤ (start + step * rounds : Nat)) then
    .error (.noAnswer "range without end")
  else .ok ((List.range rounds).map fun i => .number (.whole (start + step * i : Nat)))

/-- A text argument, or the fault without one. -/
def textOf (args : Fields Value) (function name : String) (missing : Fault) :
    Except Fault String :=
  match args.get? name with
  | none => .error missing
  | some (.text s) => .ok s
  | some v => .error (.functionArgument function name name v "string")

/-- The value that a function gives. -/
def apply [World] (f : Function) (args : Fields Value) : Except Fault Value :=
  match f with
  | range => do
    let start ← bound args "start" "start" (.ok 0)
    let step ← bound args "step_by" "step" (.ok 1)
    let stop ← bound args "end" "end" (.error (.functionMissing "range" "end"))
    pure (.array (← count start step stop))
  | throw => do
    let message ← textOf args "throw" "message" (.functionMissing "throw" "message")
    .error (.thrown message)
  | environment => do
    let name ← textOf args "get_env" "name" .variableMissing
    match World.environment name, args.get? "default" with
    | some s, _ => pure (.text s)
    | none, some v => pure v
    | none, none => .error (.noVariable name)
  | now => World.now args
  | random => World.random args

end Function

end UserConfigs.Template
