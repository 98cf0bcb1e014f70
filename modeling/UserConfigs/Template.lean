import UserConfigs.Template.NodeReader
import UserConfigs.Template.Render

/-!
# Templates

A `Template` is text with tags in double braces. `Template.parse` reads one, or refuses it
whole; `Template.render` fills it in from a `Context`, or fails at the first tag that cannot
be evaluated. There is but one template, which no other one can extend, insert or take macros from.
-/

namespace UserConfigs

open Template (Context Fault Node World)

/-- A template that was read, with the dashes of its tags carried out. -/
structure Template where
  nodes : List Template.Node

namespace Template

/-- Why a template is refused or cannot be rendered. -/
inductive Error where
  /-- The text is no template. -/
  | malformed
  /-- The template extends one that does not exist. -/
  | missingParent (name : String)
  /-- The template extends itself. -/
  | circular
  /-- The template takes macros from one that does not exist. -/
  | missingMacros (name : String)
  /-- The rendering fails. -/
  | render (fault : Fault)

namespace Error

/-- What a failed rendering says before its cause. -/
def renderTitle : String := "Failed to render '" ++ documentName ++ "'"

/-- The message of an error without the word for its kind. -/
def title : Error → String
  | malformed => "Failed to parse '" ++ documentName ++ "'"
  | missingParent name =>
    "Template '" ++ documentName ++ "' is inheriting from '" ++ name ++
      "', which doesn't exist or isn't loaded."
  | circular =>
    "Circular extend detected for template '" ++ documentName ++ "'. Inheritance chain: \x60[" ++
      Text.quoted documentName ++ "]\x60"
  | missingMacros name =>
    "Template \x60" ++ documentName ++ "\x60 loads macros from \x60" ++ name ++
      "\x60 which isn't present in Tera"
  | render _ => renderTitle

/-- The message of an error. -/
def message (e : Error) : String := "template error: " ++ e.title

/-- The messages below the error's own, outermost first. -/
def causes : Error → List String
  | render fault => renderTitle :: fault.chain
  | e => [e.title]

end Error

/-- Refuse a template that needs another one than itself. -/
def checkOthers (parent : Option String) (nodes : List Node) : Except Error Unit :=
  match parent, (nodes.filterMap Node.loads).find? (· ≠ documentName) with
  | some name, _ => .error (if name = documentName then .circular else .missingParent name)
  | none, some name => .error (.missingMacros name)
  | none, none => .ok ()

/-- Read a template. -/
def parse (text : String) : Except Error Template :=
  match Source.read? text.toList with
  | none => .error .malformed
  | some ⟨parent, nodes⟩ =>
    if Node.wellFormed nodes then do
      checkOthers parent nodes
      pure ⟨Node.trimAll false false nodes⟩
    else .error .malformed

/-- Fill in a template. -/
def render [World] (t : Template) (context : Context) : Except Error String :=
  match renderAll t.nodes ⟨[], [], context⟩ with
  | .ok o => .ok o.text
  | .error fault => .error (.render fault)

end Template

end UserConfigs
