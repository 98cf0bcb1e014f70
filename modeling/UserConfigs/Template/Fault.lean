import UserConfigs.Template.Inspect
import UserConfigs.Value.Json

/-!
# Why a rendering fails

A `Fault` is the cause of a failed rendering. `Fault.text` is its message; a fault inside a
filter, a test or a function is told with the fault that it comes from (`Fault.chain`).

Two faults are none that the program tells : where it gives no answer, and where these definitions
do not say what it does. Both have a name of their own, so that neither is taken for an answer.
-/

namespace UserConfigs.Template

/-- The name a template goes by in messages. -/
def documentName : String := "config.yml"

/-- Why a rendering fails. -/
inductive Fault where
  /-- A path leads to nothing. -/
  | unbound (path : String)
  /-- A path leads to nothing once its brackets are resolved. -/
  | unboundIndex (path resolved : String)
  /-- A bracket of the path fails. -/
  | index (path : String) (reason : Fault)
  /-- A bracket of the path holds neither a text nor a number. -/
  | indexKind (index path : String)
  /-- The filter `default` has no value. -/
  | noDefault
  | noFilter (name : String)
  | noTest (name : String)
  | noFunction (name : String)
  | noTemplate (names : List String)
  | inFilter (name : String) (reason : Fault)
  | inTest (name : String) (reason : Fault)
  | inFunction (name : String) (reason : Fault)
  | inArithmetic (reason : Fault)
  /-- A filter is applied to a value of the wrong kind. -/
  | filterSubject (filter : String) (got : Value) (expected : String)
  /-- An argument of a filter is of the wrong kind. -/
  | filterArgument (filter argument : String) (got : Value) (expected : String)
  | filterMissing (filter argument : String)
  | lengthSubject
  | testTakesNone (test : String)
  | testTakesFewer (test : String) (given most : Nat)
  | testUndefined (test : String)
  | testSubject (test kind : String)
  | testParameter (test kind : String)
  | containingSubject
  /-- A regular expression is none. -/
  | noPattern (reason : String)
  /-- An argument of a function, which its message calls `argument`, is of the wrong kind. -/
  | functionArgument (function given argument : String) (got : Value) (kind : String)
  | functionMissing (function argument : String)
  | rangeReversed
  /-- The function `get_env` is not told a name. -/
  | variableMissing
  /-- There is no such variable of the environment. -/
  | noVariable (name : String)
  /-- The message that the template gives to the function `throw`. -/
  | thrown (message : String)
  /-- A result does not fit in 64 bits. -/
  | overflow (op : String) (left right : Int) (signed : Bool)
  /-- The remainder of a division of whole numbers by zero. -/
  | moduloByZero (left right : Expr)
  | pathNotNumber (path : String)
  | textNotNumber (s : String)
  | boolNotNumber (b : Bool)
  | concatNotNumber (parts : List Term)
  | testNotNumber (name : String)
  | callNotNumber (name : String)
  | callNotBool (name : String)
  | valueNotNumber
  | comparesUndefined
  | concatPart (path : String)
  | concatCall (name : String)
  | memberOfText (item : Value)
  | memberOfObject (item : Value)
  | memberContainer
  | loopOver (t : Term)
  | loopKey (container : String)
  | loopNoKey (container : String)
  | loopKind (container : String)
  /-- A loop is left where there is none. -/
  | noLoop (word : String)
  /-- A block replaces no other. -/
  | noParent
  /-- The program stops without an answer, or does not stop. -/
  | noAnswer (why : String)
  /-- What the program does is not said here. -/
  | unsaid (what : String)

namespace Fault

/-- The message of a fault. -/
def text : Fault → String
  | unbound p =>
    "Variable \x60" ++ p ++ "\x60 not found in context while rendering '" ++ documentName ++ "'"
  | unboundIndex p resolved =>
    "Variable \x60" ++ p ++ "\x60 not found in context while rendering '" ++ documentName ++
      "': the evaluated version was \x60" ++ resolved ++
      "\x60. Maybe the index is out of bounds?"
  | index p reason => "Variable " ++ p ++ " can not be evaluated because: " ++ reason.text
  | indexKind i p =>
    "Only variables evaluating to String or Number can be used as index (\x60" ++ i ++ "\x60 of \x60" ++
      p ++ "\x60)"
  | noDefault => "The \x60default\x60 filter requires a \x60value\x60 argument."
  | noFilter n => "Filter '" ++ n ++ "' not found"
  | noTest n => "Test '" ++ n ++ "' not found"
  | noFunction n => "Function '" ++ n ++ "' not found"
  | noTemplate names => "Template '[" ++ ", ".intercalate names ++ "]' not found"
  | inFilter n _ => "Filter call '" ++ n ++ "' failed"
  | inTest n _ => "Test call '" ++ n ++ "' failed"
  | inFunction n _ => "Function call '" ++ n ++ "' failed"
  | inArithmetic reason => reason.text
  | filterSubject f got expected =>
    "Filter \x60" ++ f ++ "\x60 was called on an incorrect value: got \x60" ++ got.json ++
      "\x60 but expected a " ++ expected
  | filterArgument f a got expected =>
    "Filter \x60" ++ f ++ "\x60 received an incorrect type for arg \x60" ++ a ++ "\x60: got \x60" ++
      got.json ++ "\x60 but expected " ++ expected
  | filterMissing f a => "Filter \x60" ++ f ++ "\x60 expected an arg called \x60" ++ a ++ "\x60"
  | lengthSubject =>
    "Filter \x60length\x60 was used on a value that isn't an array, an object, or a string."
  | testTakesNone t =>
    "Tester \x60" ++ t ++ "\x60 was called with some args but this test doesn't take args"
  | testTakesFewer t given most =>
    "Tester \x60" ++ t ++ "\x60 was called with " ++ toString given ++ " args, the max number is " ++
      toString most
  | testUndefined t => "Tester \x60" ++ t ++ "\x60 was called on an undefined variable"
  | testSubject t kind =>
    "Tester \x60" ++ t ++ "\x60 was called on a variable that isn't a " ++ kind
  | testParameter t kind =>
    "Tester \x60" ++ t ++ "\x60 was called with a parameter that isn't a " ++ kind
  | containingSubject => "Tester \x60containing\x60 can only be used on string, array or map"
  | noPattern reason => "Tester \x60matching\x60: Invalid regular expression: " ++ reason
  | functionArgument f given a got kind =>
    "Function \x60" ++ f ++ "\x60 received " ++ given ++ "=" ++ got.json ++ " but \x60" ++ a ++
      "\x60 can only be a " ++ kind
  | functionMissing f a =>
    "Function \x60" ++ f ++ "\x60 was called without a \x60" ++ a ++ "\x60 argument"
  | rangeReversed =>
    "Function \x60range\x60 was called with a \x60start\x60 argument greater than the \x60end\x60 one"
  | variableMissing => "Function \x60get_env\x60 didn't receive a \x60name\x60 argument"
  | noVariable n => "Environment variable \x60" ++ n ++ "\x60 not found"
  | thrown message => message
  | overflow op l r signed =>
    toString l ++ " " ++ op ++ " " ++ toString r ++ " results in an out of bounds " ++
      (if signed then "i64" else "u64")
  | moduloByZero l r => "Tried to do a modulo by zero: " ++ l.inspect ++ "/" ++ r.inspect
  | pathNotNumber p =>
    "Variable \x60" ++ p ++ "\x60 was used in a math operation but is not a number"
  | textNotNumber s => "Tried to do math with a string: \x60" ++ s ++ "\x60"
  | boolNotNumber b => "Tried to do math with a boolean: \x60" ++ inspectBool b ++ "\x60"
  | concatNotNumber parts =>
    "Tried to do math with a string concatenation: " ++
      " ~ ".intercalate (parts.map Term.rejoin)
  | testNotNumber n => "Tried to do math with a test: " ++ n
  | callNotNumber n =>
    "Function \x60" ++ n ++ "\x60 was used in a math operation but is not returning a number"
  | callNotBool n =>
    "Function \x60" ++ n ++ "\x60 was used in a logic operation but is not returning a bool"
  | valueNotNumber => "Tried to do math with an expression not resulting in a number"
  | comparesUndefined => "Comparison to NaN"
  | concatPart p =>
    "Tried to concat a value that is not a string or a number from ident " ++ p
  | concatCall n =>
    "Tried to concat a value that is not a string or a number from function call " ++ n
  | memberOfText v =>
    "Tried to check if " ++ v.inspect ++ " is in a string, but it isn't a string"
  | memberOfObject v =>
    "Tried to check if " ++ v.inspect ++ " is in a object, but it isn't a string"
  | memberContainer => "The \x60in\x60 operator only supports strings, arrays and objects."
  | loopOver t =>
    "Forloop containers have to be an ident or a function call (tried to iterate on '" ++
      t.inspect ++ "')"
  | loopKey c =>
    "Tried to iterate using key value on variable \x60" ++ c ++ "\x60, but it isn't an object/map"
  | loopNoKey c =>
    "Tried to iterate using key value on variable \x60" ++ c ++ "\x60, but it is missing a key"
  | loopKind c =>
    "Tried to iterate on a container (\x60" ++ c ++ "\x60) that has a unsupported type"
  | noLoop w => "Attempted \x60" ++ w ++ "\x60 while not in \x60for loop\x60"
  | noParent => "Tried to use super() in the top level block"
  | noAnswer why => "no answer : " ++ why
  | unsaid what => "not said : " ++ what

/-- The messages from a fault to the one it comes from. -/
def chain : Fault → List String
  | inFilter n reason => (inFilter n reason).text :: reason.chain
  | inTest n reason => (inTest n reason).text :: reason.chain
  | inFunction n reason => (inFunction n reason).text :: reason.chain
  | f => [f.text]

end Fault

end UserConfigs.Template
