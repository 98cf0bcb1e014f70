/-!
# Expressions

What a template may compute. An `Expr` is a `Term`, possibly negated, sent through a list
of filters. A `Call` is a name with named arguments : a filter, a function, or a macro. A path
such as `user.keys[0]` is kept as its text, since brackets in it are only resolved against the
bindings of a rendering.
-/

namespace UserConfigs.Template

/-- Operators on numbers. -/
inductive ArithOp where
  | add
  | sub
  | mul
  | div
  | rem
  deriving Repr, DecidableEq

/-- Comparisons of numbers. -/
inductive Ordering where
  | less
  | lessEq
  | greater
  | greaterEq
  deriving Repr, DecidableEq

/-- Operators on conditions. -/
inductive Connective where
  | and
  | or
  deriving Repr, DecidableEq

mutual

/-- A term, possibly negated, sent through filters. -/
inductive Expr where
  | mk (term : Term) (negated : Bool) (filters : List Call)

/-- A name with named arguments, no name twice. -/
inductive Call where
  | mk (name : String) (args : List (String × Expr))

/-- What an expression starts from. -/
inductive Term where
  /-- A text in quotes. -/
  | text (s : String)
  | whole (n : Int)
  | float (x : Float)
  | bool (b : Bool)
  /-- A variable, with the names and brackets that lead into its value. -/
  | path (p : String)
  /-- A call of a function. -/
  | call (f : Call)
  /-- A call of a macro, with the name that the template with the macro goes by. -/
  | invoke (space : String) (f : Call)
  /-- Texts, numbers and paths joined by `~`. -/
  | concat (parts : List Term)
  | array (items : List Expr)
  | arith (op : ArithOp) (left right : Expr)
  | order (op : Ordering) (left right : Expr)
  /-- `==`, or `!=` if not `same`. -/
  | equal (same : Bool) (left right : Expr)
  | junction (op : Connective) (left right : Expr)
  /-- `in`, or `not in` if `negated`. -/
  | member (negated : Bool) (item container : Expr)
  /-- `is name(args)`, or `is not` if `negated`. -/
  | test (subject : String) (negated : Bool) (name : String) (args : List Expr)

end

/-- The term by itself. -/
def Term.alone (t : Term) : Expr := .mk t false []

/-- The same expression, negated or not. -/
def Expr.withNegation (negated : Bool) : Expr → Expr
  | .mk t _ fs => .mk t negated fs

end UserConfigs.Template
