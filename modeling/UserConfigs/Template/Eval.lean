import UserConfigs.Template.Filter
import UserConfigs.Template.Function
import UserConfigs.Template.Probe

/-!
# Evaluating expressions

An expression is read in three ways : as a value (`Expr.value`), as a condition
(`Expr.truth`) and as a number (`Expr.number`). Evaluation binds nothing, so each reading is
a function of the scope and the world alone.

A condition that compares a number with something else is neither true nor false : it does
not hold, and it does not hold when negated either (`Verdict.incomparable`).
-/

namespace UserConfigs.Template

/-- What comes of a condition before negation. -/
inductive Verdict where
  | holds
  | fails
  | incomparable
  deriving Repr, DecidableEq

namespace Verdict

/-- The verdict of a truth value. -/
def ofBool (b : Bool) : Verdict := if b then holds else fails

/-- The condition, or its negation, holds. -/
def under (negated : Bool) : Verdict → Bool
  | holds => !negated
  | fails => negated
  | incomparable => false

end Verdict

/-- Compare two values for equality. Two numbers are compared as floating point numbers, a
number and something else are incomparable. -/
def equate (same : Bool) : Value → Value → Verdict
  | .number m, .number n => .ofBool ((m.toFloat == n.toFloat) == same)
  | .number _, _ => .incomparable
  | _, .number _ => .incomparable
  | v, w => .ofBool ((v == w) == same)

/-- An item is in a container. -/
def isMember (item container : Value) : Except Fault Bool :=
  match container, item with
  | .array xs, _ => .ok (xs.contains item)
  | .text s, .text w => .ok (Text.occurs w.toList s.toList)
  | .text _, _ => .error (.memberOfText item)
  | .object fields, .text k => .ok (Fields.get? k fields).isSome
  | .object _, _ => .error (.memberOfObject item)
  | _, _ => .error .memberContainer

/-- The text of a value as a part of a joined text. -/
def partText (path : String) : Value → Except Fault String
  | .text s => .ok s
  | .number n => .ok (n.write .json)
  | _ => .error (.concatPart path)

/-- A number as a value; `none` is no number. -/
def ofNumber? : Option Number → Value
  | some n => .number n
  | none => .text "NaN"

/-- A number that is not zero. -/
def isNonzero : Option Number → Bool
  | some n => n.toFloat != 0
  | none => false

/-- A value after all filters, as the truth of the contrary if the expression is negated. -/
def settle (negated : Bool) (v : Value) : Value := if negated then .bool (!v.isTruthy) else v

/-- The value of an expression from its parts : the value of its term, the value given by a
leading filter `default`, and the effect of the filters. A path that leads to nothing, or to
null, takes the default value; without one, the negation of a path that leads to nothing is
true. -/
def assemble (t : Term) (negated : Bool) (base : Except Fault Value)
    (default : Option (Except Fault Value)) (filters : Value → Except Fault Value) :
    Except Fault Value :=
  match t, base, default with
  | .path _, .ok .null, some d => do pure (settle negated (← filters (← d)))
  | .path _, .error _, some d => do pure (settle negated (← filters (← d)))
  | .path _, .error e, none => if negated then .ok (.bool true) else .error e
  | _, base, _ => do pure (settle negated (← filters (← base)))

/-- Whether an expression holds, from its value and the verdict on its term. Filters matter
only after a path or a joined text, and a path that fails does not hold. -/
def decideTruth (t : Term) (negated : Bool) (value : Unit → Except Fault Value)
    (verdict : Unit → Except Fault Verdict) : Except Fault Bool :=
  match t with
  | .path _ =>
    match value () with
    | .ok v => .ok v.isTruthy
    | .error _ => .ok false
  | .concat _ => do pure ((← value ()).isTruthy != negated)
  | _ => do pure ((← verdict ()).under negated)

/-- The number an expression stands for : that of its term if there are no filters, and else
its value. -/
def decideNumber (filters : List Call) (value : Unit → Except Fault Value)
    (number : Unit → Except Fault (Option Number)) : Except Fault (Option Number) :=
  if filters.isEmpty then number ()
  else do
    match ← value () with
    | .number n => pure (some n)
    | _ => throw .valueNotNumber

/-- The result of an operator on two operands; without one of them there is none. The expressions
of the operands are told where they are divided by zero. -/
def operate (op : ArithOp) (l r : Expr) (left right : Except Fault (Option Number)) :
    Except Fault (Option Number) := do
  match ← left, ← right with
  | some m, some n => op.apply (.moduloByZero l r) m n
  | _, _ => pure none

/-- The verdict on a comparison of two numbers. -/
def compare (op : Ordering) (left right : Except Fault (Option Number)) :
    Except Fault Verdict := do
  match ← left, ← right with
  | some m, some n => pure (.ofBool (op.holds m n))
  | _, _ => throw .comparesUndefined

/-- The verdict on an equation. -/
def equation (same : Bool) (left right : Except Fault Value) : Except Fault Verdict := do
  pure (equate same (← left) (← right))

/-- The verdict on two conditions; the second is not looked at if the first settles it. -/
def junction (op : Connective) (left : Except Fault Bool) (right : Unit → Except Fault Bool) :
    Except Fault Verdict := do
  match op, ← left with
  | .or, true => pure .holds
  | .and, false => pure .fails
  | _, _ => pure (.ofBool (← right ()))

/-- Whether an item is, or is not, in a container. -/
def membership (negated : Bool) (item container : Except Fault Value) : Except Fault Bool := do
  let v ← item
  let w ← container
  pure ((← isMember v w) != negated)

/-- A verdict as a value. -/
def ofVerdict (negated : Bool) (v : Except Fault Verdict) : Except Fault Value := do
  pure (.bool ((← v).under negated))

/-- A result of an operator as a value. The fault of an operator is told by its message
alone. -/
def ofArithmetic : Except Fault (Option Number) → Except Fault Value
  | .ok n => .ok (ofNumber? n)
  | .error e => .error (.inArithmetic e)

/-- Mark a fault as coming from a filter. -/
def fromFilter {α : Type} (name : String) : Except Fault α → Except Fault α
  | .ok a => .ok a
  | .error e => .error (.inFilter name e)

/-- Mark a fault as coming from a test. -/
def fromTest {α : Type} (name : String) : Except Fault α → Except Fault α
  | .ok a => .ok a
  | .error e => .error (.inTest name e)

/-- Mark a fault as coming from a function. -/
def fromFunction {α : Type} (name : String) : Except Fault α → Except Fault α
  | .ok a => .ok a
  | .error e => .error (.inFunction name e)

/-- The verdict on the value of a function. -/
def verdictOf (name : String) : Value → Except Fault Verdict
  | .bool b => .ok (.ofBool b)
  | _ => .error (.callNotBool name)

/-- The value of a function as a number. -/
def numberOf (name : String) : Value → Except Fault (Option Number)
  | .number n => .ok (some n)
  | _ => .error (.callNotNumber name)

/-- The value of a function as a part of a joined text. -/
def partOf (name : String) : Value → Except Fault String
  | .text s => .ok s
  | .number n => .ok (n.write .json)
  | _ => .error (.concatCall name)

variable [World]

mutual

/-- The value of an expression. -/
def Expr.value (sc : Scope) : Expr → Except Fault Value
  | .mk t negated fs =>
    assemble t negated (t.value sc negated) (defaultValue sc fs) (applyFilters sc fs)

/-- Whether an expression holds as a condition. -/
def Expr.truth (sc : Scope) : Expr → Except Fault Bool
  | .mk t negated fs =>
    decideTruth t negated
      (fun _ => assemble t negated (t.value sc negated) (defaultValue sc fs) (applyFilters sc fs))
      (fun _ => t.verdict sc)

/-- The number an expression stands for, if it is one. -/
def Expr.number (sc : Scope) : Expr → Except Fault (Option Number)
  | .mk t negated fs =>
    decideNumber fs
      (fun _ => assemble t negated (t.value sc negated) (defaultValue sc fs) (applyFilters sc fs))
      (fun _ => t.number sc)

/-- The value of a term. `negated` tells whether the expression it stands in is negated,
which conditions already account for. -/
def Term.value (sc : Scope) (negated : Bool) : Term → Except Fault Value
  | .text s => .ok (.text s)
  | .whole n => .ok (.number (.whole n))
  | .float x => .ok (.number (.float x))
  | .bool b => .ok (.bool b)
  | .path p => sc.read p
  | .call f => callValue sc f
  | .invoke space f => invokeValue sc space f
  | .concat parts => do pure (.text (← concatParts sc parts))
  | .array items => do pure (.array (← itemValues sc items))
  | .arith op l r => ofArithmetic (operate op l r (l.number sc) (r.number sc))
  | .order op l r => ofVerdict negated (compare op (l.number sc) (r.number sc))
  | .equal same l r => ofVerdict negated (equation same (l.value sc) (r.value sc))
  | .junction op l r => ofVerdict negated (junction op (l.truth sc) fun _ => r.truth sc)
  | .member negatedIn item container => do
    pure (.bool (← membership negatedIn (item.value sc) (container.value sc)))
  | .test subject negatedTest name args => do
    pure (.bool ((← askProbe sc subject name args) != negatedTest))

/-- The verdict on a term. -/
def Term.verdict (sc : Scope) : Term → Except Fault Verdict
  | .text s => .ok (.ofBool (!s.isEmpty))
  | .whole n => .ok (.ofBool (n != 0))
  | .float x => .ok (.ofBool (x != 0))
  | .bool b => .ok (.ofBool b)
  | .path p => do pure (.ofBool (← sc.read p).isTruthy)
  | .call (.mk name args) => do verdictOf name (← callValue sc (.mk name args))
  | .invoke space f => do pure (.ofBool (← invokeValue sc space f).isTruthy)
  | .concat parts => do pure (.ofBool (!(← concatParts sc parts).isEmpty))
  | .array items => do pure (.ofBool (!(← itemValues sc items).isEmpty))
  | .arith op l r => do
    pure (.ofBool (isNonzero (← operate op l r (l.number sc) (r.number sc))))
  | .order op l r => compare op (l.number sc) (r.number sc)
  | .equal same l r => equation same (l.value sc) (r.value sc)
  | .junction op l r => junction op (l.truth sc) fun _ => r.truth sc
  | .member negatedIn item container => do
    pure (.ofBool (← membership negatedIn (item.value sc) (container.value sc)))
  | .test subject negatedTest name args => do
    pure (.ofBool ((← askProbe sc subject name args) != negatedTest))

/-- The number a term stands for, if it is one. -/
def Term.number (sc : Scope) : Term → Except Fault (Option Number)
  | .whole n => .ok (some (.whole n))
  | .float x => .ok (some (.float x))
  | .path p => do
    match ← sc.read p with
    | .number n => pure (some n)
    | _ => throw (.pathNotNumber p)
  | .arith op l r => operate op l r (l.number sc) (r.number sc)
  | .text s => .error (.textNotNumber s)
  | .bool b => .error (.boolNotNumber b)
  | .concat parts => .error (.concatNotNumber parts)
  | .test _ _ name _ => .error (.testNotNumber name)
  | .call (.mk name args) => do numberOf name (← callValue sc (.mk name args))
  | .invoke _ _ => .error (.noAnswer "a macro in a math operation")
  | _ => .error .valueNotNumber

/-- The value that a function gives. -/
def callValue (sc : Scope) : Call → Except Fault Value
  | .mk name args =>
    match Function.named? name with
    | none => .error (.noFunction name)
    | some f => do
      let vs ← fromFunction name (argumentValues sc args)
      fromFunction name (f.apply (Fields.ofList vs))

/-- What a macro gives. -/
def invokeValue (sc : Scope) (space : String) : Call → Except Fault Value
  | .mk name args => do
    World.invoke sc.context space name (Fields.ofList (← argumentValues sc args))

/-- The answer of a test about a path. -/
def askProbe (sc : Scope) (subject name : String) (args : List Expr) : Except Fault Bool :=
  match Probe.named? name with
  | none => .error (.noTest name)
  | some t => do
    let vs ← fromTest name (itemValues sc args)
    fromTest name (t.ask (sc.read subject).toOption vs)

/-- Send a value through filters in turn. `safe` changes nothing, and `default` has done its
work before. -/
def applyFilters (sc : Scope) : List Call → Value → Except Fault Value
  | [], v => .ok v
  | .mk name args :: rest, v =>
    if name = "safe" ∨ name = "default" then applyFilters sc rest v
    else
      match filterOf name with
      | none => .error (.noFilter name)
      | some f => do
        let vs ← fromFilter name (argumentValues sc args)
        applyFilters sc rest (← fromFilter name (f v (Fields.ofList vs)))

/-- The value a leading filter `default` gives, if there is one. -/
def defaultValue (sc : Scope) : List Call → Option (Except Fault Value)
  | .mk "default" args :: _ => some (valueArgument sc args)
  | _ => none

/-- The argument `value` of the filter `default`. -/
def valueArgument (sc : Scope) : List (String × Expr) → Except Fault Value
  | [] => .error .noDefault
  | (name, e) :: rest => if name = "value" then e.value sc else valueArgument sc rest

/-- The values of named arguments. -/
def argumentValues (sc : Scope) : List (String × Expr) → Except Fault (List (String × Value))
  | [] => .ok []
  | (name, e) :: rest => do
    let v ← e.value sc
    pure ((name, v) :: (← argumentValues sc rest))

/-- The values of expressions in a row. -/
def itemValues (sc : Scope) : List Expr → Except Fault (List Value)
  | [] => .ok []
  | e :: rest => do
    let v ← e.value sc
    pure (v :: (← itemValues sc rest))

/-- The text of joined parts. -/
def concatParts (sc : Scope) : List Term → Except Fault String
  | [] => .ok ""
  | .text s :: rest => do pure (s ++ (← concatParts sc rest))
  | .whole n :: rest => do pure (toString n ++ (← concatParts sc rest))
  | .float x :: rest => do pure (Decimal.Layout.plain.write x ++ (← concatParts sc rest))
  | .path p :: rest => do
    let s ← partText p (← sc.read p)
    pure (s ++ (← concatParts sc rest))
  | .call (.mk name args) :: rest => do
    let s ← partOf name (← callValue sc (.mk name args))
    pure (s ++ (← concatParts sc rest))
  | _ :: rest => concatParts sc rest

end

end UserConfigs.Template
