import UserConfigs.Template.ExprReader
import UserConfigs.Template.Node

/-!
# Reading templates

The rules for literal text and tags. A body is a row of nodes; the bodies inside it are read
by the same rule one level down (`bodyWithin`). `break` and `continue` are tags only inside
the body of a loop and not inside a filter section in it, and `super()` is a tag of its own only
inside a block, so what a body may hold depends on where it stands (`Setting`). Tags that may not
stand where they do are read nevertheless; `Node.wellFormed` refuses them afterwards.

A template is read whole : a text that starts like a tag and is none makes the whole
template malformed.
-/

namespace UserConfigs.Template

open Reader

/-! ## Tag ends -/

/-- The start of a tag : whether it carries a dash. -/
def openTag (w : String) : Reader Bool := spelled (w ++ "-") true <|> spelled w false

/-- The end of a tag : whether it carries a dash. -/
def closeTag (w : String) : Reader Bool := spelled ("-" ++ w) true <|> spelled w false

/-- The start of a tag around a value. -/
def openValue : Reader Bool := openTag "\x7b\x7b"

/-- The end of a tag around a value. -/
def closeValue : Reader Bool := closeTag "\x7d\x7d"

/-- The start of a comment. -/
def openComment : Reader Bool := openTag "\x7b#"

/-- The end of a comment. -/
def closeComment : Reader Bool := closeTag "#\x7d"

/-- The start of a statement. -/
def openStatement : Reader Bool := openTag "\x7b%"

/-- The end of a statement. -/
def closeStatement : Reader Bool := closeTag "%\x7d"

/-- A statement that is one word, blanks around it. -/
def wordTag (w : String) : Reader Dashes := do
  let left ← openStatement
  gap
  exact w
  gap
  let right ← closeStatement
  pure ⟨left, right⟩

/-- The start of a statement up to the blanks after its first word. -/
def openWord (w : String) : Reader Bool := do
  let left ← openStatement
  gap
  exact w
  space
  pure left

/-- The blanks before the end of a statement, and the end. -/
def closeWord : Reader Bool := do
  gap
  closeStatement

/-! ## Literal text, comments and raw text -/

/-- The characters before the next place where a tag could start. -/
def literalRun : List Char → List Char × List Char
  | [] => ([], [])
  | [c] => ([c], [])
  | c :: d :: s =>
    if c = '\x7b' ∧ (d = '\x7b' ∨ d = '%' ∨ d = '#') then ([], c :: d :: s)
    else
      let (run, rest) := literalRun (d :: s)
      (c :: run, rest)

/-- Literal text up to the next tag. -/
def literal : Reader Node := fun s =>
  match literalRun s with
  | ([], _) => none
  | (run, rest) => some (.text run, rest)

/-- A comment with at least one character in it. -/
def comment : Reader Node := do
  let left ← openComment
  let body ← upTo closeComment
  if body.isEmpty then failure
  let right ← closeComment
  pure (.comment ⟨left, right⟩)

/-- Text between `raw` and `endraw`. -/
def rawText : Reader Node := do
  let first ← wordTag "raw"
  let body ← upTo (wordTag "endraw")
  let last ← wordTag "endraw"
  pure (.raw first body last)

/-! ## Statements without a body -/

/-- What the body that a node stands in makes a tag. -/
inductive Setting where
  /-- Nothing but what is a tag everywhere. -/
  | plain
  /-- `break` and `continue`, in a loop. -/
  | loop
  /-- `super()`, in a block. -/
  | block
  deriving Repr, DecidableEq

/-- Only before the end of a tag around a value, which is not taken. -/
def beforeClose : Reader Unit
  | '\x7d' :: s => some ((), '\x7d' :: s)
  | '-' :: '\x7d' :: s => some ((), '-' :: '\x7d' :: s)
  | _ => none

/-- The call that stands for the block that a block replaces, up to the end of its tag. -/
def superCall : Reader Unit := do
  exact "super()"
  gap
  beforeClose

section

variable (exprs : Level)

/-- The value of an expression, or right inside a block the block that it replaces. -/
def valueTag (place : Setting) : Reader Node := do
  let left ← openValue
  gap
  let e ← (if place = .block then (do superCall; pure none) else failure) <|> some <$> exprs.value
  gap
  let right ← closeValue
  pure (match e with
    | none => .parent ⟨left, right⟩
    | some e => .value ⟨left, right⟩ e)

/-- `set` or `set_global`. -/
def assignTag (w : String) (global : Bool) : Reader Node := do
  let left ← openWord w
  let n ← name
  gap
  exact "="
  gap
  let e ← exprs.value
  let right ← closeWord
  pure (.assign ⟨left, right⟩ global (String.ofList n) e)

/-- A text in quotes, without them. -/
def templateName : Reader String := do
  let (_, body) ← quotedText
  pure (String.ofList body)

/-- Texts in brackets; a comma may end them. -/
def templateNames : Reader (List String) := do
  exact "["
  gap
  let names ← many do
    let n ← templateName
    gap
    exact ","
    gap
    pure n
  let last ← maybe templateName
  gap
  exact "]"
  pure (names ++ last.toList)

/-- `include` of one or several names. -/
def insertTag : Reader Node := do
  let left ← openWord "include"
  let names ← List.singleton <$> templateName <|> templateNames
  gap
  let optional ← given (exact "ignore missing")
  let right ← closeWord
  pure (.insert ⟨left, right⟩ names optional)

/-- `import` of the macros of a template. -/
def loadTag : Reader Node := do
  let left ← openWord "import"
  let template ← templateName
  space
  exact "as"
  space
  let n ← name
  let right ← closeWord
  pure (.load ⟨left, right⟩ template (String.ofList n))

/-- `extends` a template. -/
def parentTag : Reader String := do
  let _ ← openStatement
  gap
  exact "extends"
  gap
  let n ← templateName
  gap
  let _ ← closeStatement
  pure n

/-! ## Statements with a body -/

variable (body : Setting → Reader (List Node))

/-- The end of a section, where the name of what ends may stand again. -/
def endTag (w : String) : Reader Dashes := do
  let left ← openStatement
  gap
  exact w
  let _ ← maybe do
    space
    name
  gap
  let right ← closeStatement
  pure ⟨left, right⟩

/-- A block. -/
def blockSection : Reader Node := do
  let left ← openWord "block"
  let n ← name
  let right ← closeWord
  let nodes ← body .block
  let last ← endTag "endblock"
  pure (.block ⟨left, right⟩ (String.ofList n) nodes last)

/-- A literal : a truth value, a text or a number. -/
def literalTerm : Reader Term :=
  boolLiteral <|> textLiteral <|> floatLiteral <|> wholeLiteral

/-- An argument of a macro, perhaps with a value to take when it is left out. -/
def parameter : Reader (String × Option Term) := do
  let n ← name
  let value ← maybe do
    gap
    exact "="
    gap
    literalTerm
  pure (String.ofList n, value)

/-- The arguments of a macro with commas between them and perhaps one at the end. -/
def parameters : Reader (List (String × Option Term)) := do
  let first ← parameter
  let rest ← many do
    gap
    exact ","
    gap
    parameter
  gap
  let _ ← given (exact ",")
  pure (first :: rest)

/-- A macro. -/
def defineSection : Reader Node := do
  let left ← openWord "macro"
  let n ← name
  gap
  exact "("
  gap
  let arguments ← maybe parameters
  gap
  exact ")"
  let right ← closeWord
  let nodes ← body .plain
  let last ← endTag "endmacro"
  pure (.define ⟨left, right⟩ (String.ofList n) (arguments.getD []) nodes last)

/-- A filter section. Nothing in it leaves a loop around it. -/
def filterSection : Reader Node := do
  let left ← openWord "filter"
  let f ← exprs.filter
  let right ← closeWord
  let nodes ← body .plain
  let last ← wordTag "endfilter"
  pure (.filtered ⟨left, right⟩ f nodes last)

/-- What a loop runs over. -/
def loopContainer : Reader Expr := exprs.sumFiltered <|> exprs.arrayFiltered

/-- A loop, perhaps with a body for the empty container. -/
def loopSection : Reader Node := do
  let left ← openWord "for"
  let first ← name
  let second ← maybe do
    exact ","
    gap
    name
  space
  exact "in"
  space
  let container ← loopContainer exprs
  let right ← closeWord
  let nodes ← body .loop
  let otherwise ← maybe do
    let _ ← wordTag "else"
    body .loop
  let last ← wordTag "endfor"
  pure (match second with
    | none => .loop ⟨left, right⟩ none (String.ofList first) container nodes otherwise last
    | some v =>
      .loop ⟨left, right⟩ (some (String.ofList first)) (String.ofList v) container nodes otherwise
        last)

/-- An arm of a branch, which starts with the given word. -/
def armOf (w : String) (place : Setting) : Reader (Dashes × Expr × List Node) := do
  let left ← openWord w
  let e ← exprs.value
  let right ← closeWord
  let nodes ← body place
  pure (⟨left, right⟩, e, nodes)

/-- A branch. -/
def branchSection (place : Setting) : Reader Node := do
  let first ← armOf exprs body "if" place
  let rest ← many (armOf exprs body "elif" place)
  let otherwise ← maybe do
    let d ← wordTag "else"
    let nodes ← body place
    pure (d, nodes)
  let last ← wordTag "endif"
  pure (.branch (first :: rest) otherwise last)

/-- Leave the loop, or the round. -/
def leaveTag : Reader Node := Node.stop <$> wordTag "break" <|> Node.skip <$> wordTag "continue"

/-- One node of a body. -/
def node (place : Setting) : Reader Node :=
  insertTag <|> loadTag <|> valueTag exprs place <|> comment <|> assignTag exprs "set" false <|>
    assignTag exprs "set_global" true <|> defineSection body <|> blockSection body <|>
    branchSection exprs body place <|> loopSection exprs body <|> filterSection exprs body <|>
    (if place = .loop then leaveTag else failure) <|> rawText <|> literal

end

/-- Nodes in a row, with bodies nested at most `n` deep. -/
def bodyWithin (exprs : Level) : Nat → Setting → Reader (List Node)
  | 0, _ => pure []
  | n + 1, place => many (node exprs (bodyWithin exprs n) place)

/-- A template as read : the parent that it extends, and its nodes. -/
structure Source where
  parent : Option String
  nodes : List Node

/-- A whole template. A parent stands before all but comments. -/
def source (depth : Nat) : Reader Source := do
  let comments ← many comment
  let parent ← maybe parentTag
  let nodes ← bodyWithin (level depth) depth .plain
  atEnd
  pure ⟨parent, comments ++ nodes⟩

/-- Read a template, if it is one. -/
def Source.read? (s : List Char) : Option Source := (source (s.length + 1) s).map (·.1)

end UserConfigs.Template
