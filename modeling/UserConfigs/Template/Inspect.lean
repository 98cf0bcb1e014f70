import UserConfigs.Decimal.Layout
import UserConfigs.Template.Expr
import UserConfigs.Text.Quoted

/-!
# Expressions as messages show them

`Term.inspect` spells out the structure of a term, every part with the name of its kind.
`Term.rejoin` writes the parts of a joined text as a template would.
-/

namespace UserConfigs.Template

/-- The name of an operator on numbers. -/
def ArithOp.inspect : ArithOp → String
  | .add => "Add"
  | .sub => "Sub"
  | .mul => "Mul"
  | .div => "Div"
  | .rem => "Modulo"

/-- The name of a comparison. -/
def Ordering.inspect : Ordering → String
  | .less => "Lt"
  | .lessEq => "Lte"
  | .greater => "Gt"
  | .greaterEq => "Gte"

/-- The name of an operator on conditions. -/
def Connective.inspect : Connective → String
  | .and => "And"
  | .or => "Or"

/-- A truth value. -/
def inspectBool (b : Bool) : String := if b then "true" else "false"

/-- The texts of two operands and the name of their operator. -/
def inspectPair (l r op : String) : String :=
  "\x7b lhs: " ++ l ++ ", rhs: " ++ r ++ ", operator: " ++ op ++ " \x7d"

mutual

/-- The structure of an expression. -/
def Expr.inspect : Expr → String
  | .mk t negated fs =>
    "Expr \x7b val: " ++ t.inspect ++ ", negated: " ++ inspectBool negated ++ ", filters: [" ++
      inspectCalls fs ++ "] \x7d"

/-- The structure of a call, without the name of its kind. -/
def Call.inspect : Call → String
  | .mk name args =>
    "name: " ++ Text.quoted name ++ ", args: \x7b" ++ inspectArgs args ++ "\x7d \x7d"

/-- The structure of a term. -/
def Term.inspect : Term → String
  | .text s => "String(" ++ Text.quoted s ++ ")"
  | .whole n => "Int(" ++ toString n ++ ")"
  | .float x => "Float(" ++ Decimal.Layout.inspect.write x ++ ")"
  | .bool b => "Bool(" ++ inspectBool b ++ ")"
  | .path p => "Ident(" ++ Text.quoted p ++ ")"
  | .call f => "FunctionCall(FunctionCall \x7b " ++ f.inspect ++ ")"
  | .invoke space f =>
    "MacroCall(MacroCall \x7b namespace: " ++ Text.quoted space ++ ", " ++ f.inspect ++ ")"
  | .concat parts => "StringConcat(StringConcat \x7b values: [" ++ inspectTerms parts ++ "] \x7d)"
  | .array items => "Array([" ++ inspectExprs items ++ "])"
  | .arith op l r =>
    "Math(MathExpr " ++ inspectPair l.inspect r.inspect op.inspect ++ ")"
  | .order op l r =>
    "Logic(LogicExpr " ++ inspectPair l.inspect r.inspect op.inspect ++ ")"
  | .equal same l r =>
    "Logic(LogicExpr " ++ inspectPair l.inspect r.inspect (if same then "Eq" else "NotEq") ++ ")"
  | .junction op l r =>
    "Logic(LogicExpr " ++ inspectPair l.inspect r.inspect op.inspect ++ ")"
  | .member negated l r =>
    "In(In \x7b lhs: " ++ l.inspect ++ ", rhs: " ++ r.inspect ++ ", negated: " ++
      inspectBool negated ++ " \x7d)"
  | .test subject negated name args =>
    "Test(Test \x7b ident: " ++ Text.quoted subject ++ ", negated: " ++ inspectBool negated ++
      ", name: " ++ Text.quoted name ++ ", args: [" ++ inspectExprs args ++ "] \x7d)"

/-- Filters in a row. -/
def inspectCalls : List Call → String
  | [] => ""
  | [f] => "FunctionCall \x7b " ++ f.inspect
  | f :: g :: fs => "FunctionCall \x7b " ++ f.inspect ++ ", " ++ inspectCalls (g :: fs)

/-- Named arguments in a row. -/
def inspectArgs : List (String × Expr) → String
  | [] => ""
  | [(n, e)] => Text.quoted n ++ ": " ++ e.inspect
  | (n, e) :: a :: args => Text.quoted n ++ ": " ++ e.inspect ++ ", " ++ inspectArgs (a :: args)

/-- Terms in a row. -/
def inspectTerms : List Term → String
  | [] => ""
  | [t] => t.inspect
  | t :: u :: ts => t.inspect ++ ", " ++ inspectTerms (u :: ts)

/-- Expressions in a row. -/
def inspectExprs : List Expr → String
  | [] => ""
  | [e] => e.inspect
  | e :: f :: es => e.inspect ++ ", " ++ inspectExprs (f :: es)

end

/-- One part of a joined text. -/
def Term.rejoin : Term → String
  | .text s => "'" ++ s ++ "'"
  | .path p => p
  | _ => "unknown"

end UserConfigs.Template
