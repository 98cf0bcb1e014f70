import UserConfigs.Template.Expr
import UserConfigs.Text.Blank

/-!
# Pieces of a template

A template is a list of `Node`s. Tags carry `Dashes` : a dash on one side of a tag asks that
the literal text on that side lose its blanks at that end. `Node.trimAll` carries the
dashes out : each literal text is trimmed on the sides where its neighbour, or the tag of
the body around it, has a dash. Nothing but literal and raw text changes.

Some tags are there for templates that share their parts : blocks, macros, and the tag that inserts
a template. They stand in some places only (`Node.fits`).
-/

namespace UserConfigs.Template

/-- Which sides of a tag carry a dash. -/
structure Dashes where
  left : Bool
  right : Bool
  deriving Repr, DecidableEq

/-- A piece of a template. Tags that enclose a body carry the dashes of both tags. -/
inductive Node where
  /-- Literal text. -/
  | text (s : List Char)
  /-- The value of an expression. -/
  | value (dashes : Dashes) (e : Expr)
  | comment (dashes : Dashes)
  /-- Text that is not read as template. -/
  | raw (first : Dashes) (s : List Char) (last : Dashes)
  /-- Bind a name, in the outermost scope if `global`. -/
  | assign (dashes : Dashes) (global : Bool) (name : String) (e : Expr)
  /-- Insert the first of the named templates that exists. -/
  | insert (dashes : Dashes) (names : List String) (optional : Bool)
  /-- A part of the template with a name, which a template that extends this one can replace. -/
  | block (first : Dashes) (name : String) (body : List Node) (last : Dashes)
  /-- The block that the block around it replaces. -/
  | parent (dashes : Dashes)
  /-- A macro with its arguments, which may have a value to take when they are left out. -/
  | define (first : Dashes) (name : String) (arguments : List (String × Option Term))
    (body : List Node) (last : Dashes)
  /-- The macros of a template, under the name that they are called by. -/
  | load (dashes : Dashes) (template space : String)
  /-- Render the body and send its text through a filter. -/
  | filtered (first : Dashes) (filter : Call) (body : List Node) (last : Dashes)
  /-- Render the body once for each item of a container, or `otherwise` if there is none. -/
  | loop (first : Dashes) (key : Option String) (item : String) (container : Expr)
    (body : List Node) (otherwise : Option (List Node)) (last : Dashes)
  /-- Render the body of the first arm whose condition holds, or `otherwise`. -/
  | branch (arms : List (Dashes × Expr × List Node)) (otherwise : Option (Dashes × List Node))
    (last : Dashes)
  /-- Leave the loop. -/
  | stop (dashes : Dashes)
  /-- Go on with the next round of the loop. -/
  | skip (dashes : Dashes)

namespace Node

/-- The node has a dash on the left of its first tag. -/
def dashLeft : Node → Bool
  | text _ => false
  | value d _ | comment d | raw d _ _ | assign d _ _ _ | insert d _ _ | block d _ _ _ | parent d
  | define d _ _ _ _ | load d _ _ | filtered d _ _ _ | loop d _ _ _ _ _ _ | stop d | skip d =>
    d.left
  | branch ((d, _) :: _) _ _ => d.left
  | branch [] _ _ => false

/-- The node has a dash on the right of its last tag. -/
def dashRight : Node → Bool
  | text _ => false
  | value d _ | comment d | assign d _ _ _ | insert d _ _ | parent d | load d _ _ | stop d
  | skip d => d.right
  | raw _ _ d | block _ _ _ d | define _ _ _ _ d | filtered _ _ _ d | loop _ _ _ _ _ _ d
  | branch _ _ d => d.right

/-- Trim a text on the sides asked for. -/
def trimText (left right : Bool) (s : List Char) : List Char :=
  let s := if left then Text.trimStart s else s
  if right then Text.trimEnd s else s

/-- What stands after a list of nodes has a dash on its left : the first node, or what
follows the list. -/
def dashAhead (after : Bool) : List Node → Bool
  | [] => after
  | n :: _ => n.dashLeft

/-- The dash that closes an arm : of the next arm, of the last branch or of the end. -/
def armEnd (otherwise : Option (Dashes × List Node)) (last : Dashes) :
    List (Dashes × Expr × List Node) → Bool
  | (d, _) :: _ => d.left
  | [] => (otherwise.map (·.1.left)).getD last.left

mutual

/-- Carry out the dashes inside a node. The bodies of a loop lie between its two tags; what
is rendered for an empty container keeps its blanks. -/
def trim : Node → Node
  | block first name body last => block first name (trimAll first.right last.left body) last
  | define first name arguments body last =>
    define first name arguments (trimAll first.right last.left body) last
  | filtered first f body last => filtered first f (trimAll first.right last.left body) last
  | loop first key item container body otherwise last =>
    loop first key item container (trimAll first.right last.left body) otherwise last
  | branch arms none last => branch (trimArms none last arms) none last
  | branch arms (some (d, body)) last =>
    branch (trimArms (some (d, body)) last arms) (some (d, trimAll d.right last.left body)) last
  | raw first s last => raw first (trimText first.right last.left s) last
  | n => n

/-- Carry out the dashes of nodes in a row. `before` and `after` tell whether what stands
around them has a dash towards them. -/
def trimAll (before after : Bool) : List Node → List Node
  | [] => []
  | text s :: rest =>
    text (trimText before (dashAhead after rest) s) :: trimAll false after rest
  | n :: rest => n.trim :: trimAll n.dashRight after rest

/-- Carry out the dashes of the arms of a branch. -/
def trimArms (otherwise : Option (Dashes × List Node)) (last : Dashes) :
    List (Dashes × Expr × List Node) → List (Dashes × Expr × List Node)
  | [] => []
  | (d, e, body) :: arms =>
    (d, e, trimAll d.right (armEnd otherwise last arms) body) :: trimArms otherwise last arms

end

/-! ## Tags in their places -/

/-- Where tags stand that are not read everywhere. -/
inductive Place where
  /-- In no body, or only in bodies of branches. -/
  | top
  /-- In a block, and perhaps in branches in it. -/
  | block
  /-- In a loop, a filter section or a macro. -/
  | inner
  deriving Repr, DecidableEq

mutual

/-- Macros are defined and loaded at the top only, and blocks stand there or in blocks. -/
def fits (place : Place) : Node → Bool
  | block _ _ body _ => place != .inner && fitAll .block body
  | define _ _ _ body _ => place == .top && fitAll .inner body
  | load _ _ _ => place == .top
  | filtered _ _ body _ => fitAll .inner body
  | loop _ _ _ _ body none _ => fitAll .inner body
  | loop _ _ _ _ body (some otherwise) _ => fitAll .inner body && fitAll .inner otherwise
  | branch arms none _ => fitArms place arms
  | branch arms (some (_, otherwise)) _ => fitArms place arms && fitAll place otherwise
  | _ => true

/-- All nodes of a row stand where they may. -/
def fitAll (place : Place) : List Node → Bool
  | [] => true
  | n :: rest => n.fits place && fitAll place rest

/-- All nodes of the arms of a branch stand where they may. -/
def fitArms (place : Place) : List (Dashes × Expr × List Node) → Bool
  | [] => true
  | (_, _, body) :: arms => fitAll place body && fitArms place arms

end

mutual

/-- The name of a block and of the blocks right inside it. -/
def blocks : Node → List String
  | block _ name body _ => name :: blocksAll body
  | _ => []

/-- The names of the blocks in a row of nodes. -/
def blocksAll : List Node → List String
  | [] => []
  | n :: rest => n.blocks ++ blocksAll rest

end

/-- The name of a macro. -/
def defines : Node → Option String
  | define _ name _ _ _ => some name
  | _ => none

/-- The template that macros are loaded from. -/
def loads : Node → Option String
  | load _ template _ => some template
  | _ => none

/-- The nodes can be those of a template : each tag stands where it may, and no two blocks and no
two macros have one name. -/
def wellFormed (nodes : List Node) : Bool :=
  fitAll .top nodes && decide (blocksAll nodes).Nodup && decide (nodes.filterMap defines).Nodup

end Node

end UserConfigs.Template
