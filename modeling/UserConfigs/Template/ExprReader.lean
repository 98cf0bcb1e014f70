import UserConfigs.Template.Expr
import UserConfigs.Template.Reader
import UserConfigs.Value

/-!
# Reading expressions

The rules of the expression language. Rules that contain each other, conditions inside
parentheses and arguments, are tied together by a `Level` : `level n` reads expressions
nested at most `n` deep, and reads the inner ones with the readers of `level (n - 1)`. A
text nests no deeper than it is long.

Binary operators are read as a flat chain and grouped by `climb` : tight operators first,
each kind from left to right.
-/

namespace UserConfigs.Template

open Reader

/-! ## Grouping chains of operators -/

section Climb

variable {Op α : Type}

/-- Put the pending loose operator in front of an operand. -/
def close (make : Op → α → α → α) : Option (α × Op) → α → α
  | none, a => a
  | some (left, op), a => make op left a

/-- Group the rest of a chain : `pending` is what stands left of the last loose operator. -/
def climbFrom (tight : Op → Bool) (make : Op → α → α → α) (pending : Option (α × Op)) (a : α) :
    List (Op × α) → α
  | [] => close make pending a
  | (op, b) :: rest =>
    if tight op then climbFrom tight make pending (make op a b) rest
    else climbFrom tight make (some (close make pending a, op)) b rest

/-- Group a chain of operands : tight operators bind first, all from left to right. -/
def climb (tight : Op → Bool) (make : Op → α → α → α) (a : α) (rest : List (Op × α)) : α :=
  climbFrom tight make none a rest

end Climb

/-- Products bind tighter than sums. -/
def ArithOp.isTight : ArithOp → Bool
  | .mul | .div | .rem => true
  | .add | .sub => false

/-- `and` binds tighter than `or`. -/
def Connective.isTight : Connective → Bool
  | .and => true
  | .or => false

/-! ## Literals and paths -/

/-- A text between two quotes of one of three kinds : the quote and what is between. -/
def quotedText : Reader (Char × List Char) := do
  let q ← char fun c => c = '\x22' || c = '\x27' || c = '\x60'
  let body ← run (· ≠ q)
  let _ ← char (· = q)
  pure (q, body)

/-- A text in quotes as a term. -/
def textLiteral : Reader Term := do
  let (_, body) ← quotedText
  pure (.text (String.ofList body))

/-- The characters of a whole number, with its sign. -/
def wholeText : Reader (List Char) := do
  let negative ← minus
  let digits ← natural
  pure (if negative then '-' :: digits else digits)

/-- A whole number of 64 bits with sign. -/
def wholeLiteral : Reader Term := do
  let negative ← minus
  let digits ← natural
  let n : Int := if negative then -(valueOf digits : Int) else valueOf digits
  if -Number.signedEnd ≤ n ∧ n < Number.signedEnd then pure (.whole n) else failure

/-- A number with a point and digits on both sides of it. -/
def floatLiteral : Reader Term := do
  let negative ← minus
  let before ← natural
  exact "."
  let after ← run1 Char.isDigit
  pure (.float (Decimal.Binary.nearest negative (valueOf (before ++ after)) (-after.length)))

/-- `true` or `false`, with a small or a capital first letter. -/
def boolLiteral : Reader Term :=
  spelled "true" (.bool true) <|> spelled "false" (.bool false) <|>
    spelled "True" (.bool true) <|> spelled "False" (.bool false)

/-- A point and a name or number after it, as text. -/
def dotPart : Reader (List Char) := do
  exact "."
  let cs ← run1 isNameChar
  pure ('.' :: cs)

/-- A bracket with a whole number, a text or a path in it, as text. -/
def bracketPart (inner : Reader (List Char)) : Reader (List Char) := do
  exact "["
  let cs ← wholeText <|> (do let (q, body) ← quotedText; pure (q :: body ++ [q])) <|> inner
  exact "]"
  pure ('[' :: cs ++ [']'])

/-- A path with brackets nested at most `n` deep, as text. -/
def pathWithin : Nat → Reader (List Char)
  | 0 => failure
  | n + 1 => do
    let root ← name
    let parts ← many (dotPart <|> bracketPart (pathWithin n))
    pure (root ++ parts.flatten)

/-- A path as text. -/
def pathText : Reader (List Char) := fun s => pathWithin (s.length + 1) s

/-- A path as a term. -/
def pathTerm : Reader Term := do
  let cs ← pathText
  pure (.path (String.ofList cs))

/-! ## Operators -/

/-- An operator on numbers. -/
def arithOp : Reader ArithOp :=
  spelled "+" .add <|> spelled "-" .sub <|> spelled "*" .mul <|> spelled "/" .div <|>
    spelled "%" .rem

/-- Builds a comparison from its operands. -/
def comparison : Reader (Expr → Expr → Term) :=
  spelled "<=" (.order .lessEq) <|> spelled ">=" (.order .greaterEq) <|>
    spelled ">" (.order .greater) <|> spelled "<" (.order .less) <|>
    spelled "==" (.equal true) <|> spelled "!=" (.equal false)

/-- A word with one blank after it. -/
def word (w : String) : Reader Unit := do
  exact w
  let _ ← char isSpace

/-- `and` or `or`. -/
def connective : Reader Connective :=
  (do word "or"; pure .or) <|> (do word "and"; pure .and)

/-! ## One level of nesting -/

/-- Readers for what stands inside an expression. -/
structure Level where
  /-- Conditions joined by `and` and `or`. -/
  condition : Reader Expr
  /-- One condition; the items of an array are such. -/
  item : Reader Expr
  /-- Operands joined by operators on numbers. -/
  sum : Reader Term
  /-- A condition, or an array sent through filters. -/
  value : Reader Expr

/-- Keep the last of the arguments with one name. -/
def keepLast : List (String × Expr) → List (String × Expr)
  | [] => []
  | a :: rest => if rest.any (·.1 = a.1) then keepLast rest else a :: keepLast rest

namespace Level

variable (inner : Level)

/-- A named argument. -/
def argument : Reader (String × Expr) := do
  let n ← name
  gap
  exact "="
  gap
  let e ← inner.value
  pure (String.ofList n, e)

/-- Named arguments with commas between them and perhaps one at the end. -/
def arguments : Reader (List (String × Expr)) := do
  let first ← inner.argument
  let rest ← many do
    gap
    exact ","
    gap
    inner.argument
  gap
  let _ ← given (exact ",")
  pure (keepLast (first :: rest))

/-- A name with arguments in parentheses. -/
def call : Reader Call := do
  let n ← name
  gap
  exact "("
  gap
  let args ← maybe inner.arguments
  gap
  exact ")"
  pure (.mk (String.ofList n) (args.getD []))

/-- A name, with or without arguments in parentheses. -/
def filter : Reader Call :=
  inner.call <|> (do let n ← name; pure (.mk (String.ofList n) []))

/-- The filters after an operand, each after a bar. -/
def filters : Reader (List Call) :=
  many do
    gap
    exact "|"
    gap
    inner.filter

/-- A term sent through filters. -/
def filtered (term : Reader Term) : Reader Expr := do
  let t ← term
  let fs ← inner.filters
  pure (.mk t false fs)

/-- Items in brackets; a comma may end them. -/
def array : Reader Term := do
  exact "["
  gap
  let items ← many do
    let e ← inner.item
    gap
    exact ","
    gap
    pure e
  let last ← maybe inner.item
  gap
  exact "]"
  pure (.array (items ++ last.toList))

/-- An array sent through filters. -/
def arrayFiltered : Reader Expr := inner.filtered inner.array

/-- The arguments of a test. -/
def testArguments : Reader (List Expr) := do
  exact "("
  gap
  let first ← inner.value
  let rest ← many do
    gap
    exact ","
    gap
    inner.value
  gap
  exact ")"
  pure (first :: rest)

/-- `is` or `is not`, and the name of a test with its arguments. -/
def testAfter (negated : Bool) : Reader Term := do
  let subject ← pathText
  gap
  exact "is"
  gap
  if negated then
    exact "not"
    gap
  let n ← name
  let args ← maybe do
    gap
    inner.testArguments
  pure (.test (String.ofList subject) negated (String.ofList n) (args.getD []))

/-- A function call as a term. -/
def callTerm : Reader Term := Term.call <$> inner.call

/-- A macro call as a term. -/
def invokeTerm : Reader Term := do
  let space ← name
  gap
  exact "::"
  gap
  let f ← inner.call
  pure (.invoke (String.ofList space) f)

/-- One operand of an operator on numbers. -/
def operand : Reader Term :=
  (do
    exact "("
    gap
    let t ← inner.sum
    gap
    exact ")"
    pure t) <|>
  boolLiteral <|> inner.testAfter true <|> inner.testAfter false <|> inner.invokeTerm <|>
    inner.callTerm <|> pathTerm <|> floatLiteral <|> wholeLiteral

/-- Operands joined by operators on numbers. -/
def readSum : Reader Term := do
  let first ← inner.operand
  let rest ← many do
    gap
    let op ← arithOp
    gap
    let t ← inner.operand
    pure (op, t)
  pure (climb ArithOp.isTight (fun op a b => .arith op a.alone b.alone) first rest)

/-- One part of a joined text. -/
def part : Reader Term :=
  inner.callTerm <|> floatLiteral <|> wholeLiteral <|> textLiteral <|> pathTerm

/-- Parts of a joined text, with neighbouring texts made one and empty ones left out. -/
def mergeTexts (before : String) : List Term → List Term
  | [] => if before.isEmpty then [] else [.text before]
  | .text s :: rest => mergeTexts (before ++ s) rest
  | t :: rest => (if before.isEmpty then [] else [.text before]) ++ t :: mergeTexts "" rest

/-- The term for joined parts : a text if all are texts. -/
def joined (parts : List Term) : Term :=
  match mergeTexts "" parts with
  | [] => .text ""
  | [.text s] => .text s
  | ts => .concat ts

/-- Two or more parts joined by `~`. -/
def concat : Reader Term := do
  let first ← inner.part
  gap
  exact "~"
  gap
  let second ← inner.part
  let rest ← many do
    gap
    exact "~"
    gap
    inner.part
  pure (joined (first :: second :: rest))

/-- A joined text, or a text, sent through filters. -/
def textFiltered : Reader Expr := inner.filtered (inner.concat <|> textLiteral)

/-- Operands joined by operators on numbers, sent through filters. -/
def sumFiltered : Reader Expr := inner.filtered inner.readSum

/-- Filtered sums, joined by operators on numbers. -/
def filteredSums : Reader Expr := do
  let first ← inner.sumFiltered
  let rest ← many do
    gap
    let op ← arithOp
    gap
    let e ← inner.sumFiltered
    pure (op, e)
  pure (climb ArithOp.isTight (fun op a b => (Term.arith op a b).alone) first rest)

/-- A text or filtered sums. -/
def side : Reader Expr := inner.textFiltered <|> inner.filteredSums

/-- One or two sides, with a comparison between them. -/
def compared : Reader Expr := do
  let left ← inner.side
  let right ← maybe do
    gap
    let make ← comparison
    gap
    let e ← inner.side
    pure (make, e)
  pure (match right with
    | none => left
    | some (make, e) => (make left e).alone)

/-- What the right side of `in` may be. -/
def container : Reader Expr :=
  inner.textFiltered <|> inner.arrayFiltered <|> Term.alone <$> pathTerm

/-- A side, `in` or `not in`, and a container. -/
def membership : Reader Expr := do
  let left ← inner.textFiltered <|> inner.sumFiltered
  gap
  let negated ← given (word "not")
  gap
  exact "in"
  gap
  let right ← inner.container
  pure (Term.member negated left right).alone

/-- One condition, perhaps after `not`, or conditions in parentheses. Parentheses forget a
`not` right inside them. -/
def readItem : Reader Expr :=
  (do
    let negated ← given (word "not")
    gap
    let e ← inner.membership <|> inner.compared
    pure (e.withNegation negated)) <|>
  (do
    exact "("
    gap
    let e ← inner.condition
    gap
    exact ")"
    pure (e.withNegation false))

/-- Conditions joined by `and` and `or`. -/
def readCondition : Reader Expr := do
  let first ← inner.readItem
  let rest ← many do
    gap
    let op ← connective
    gap
    let e ← inner.readItem
    pure (op, e)
  pure (climb Connective.isTight (fun op a b => (Term.junction op a b).alone) first rest)

/-- The level around `inner`. -/
def next : Level where
  condition := inner.readCondition
  item := inner.readItem
  sum := inner.readSum
  value := inner.readCondition <|> inner.arrayFiltered

end Level

/-- Readers for expressions nested at most `n` deep. -/
def level : Nat → Level
  | 0 => ⟨failure, failure, failure, failure⟩
  | n + 1 => (level n).next

end UserConfigs.Template
