import UserConfigs.Template.Eval

/-!
# Rendering nodes

A node turns a scope into a text and a scope (`Node.render`); nodes in a row pass the scope
on (`renderAll`). A `break` or `continue` cuts the row short, and the loop around it ends
the round or the loop (`rounds`).

A block is rendered where it stands, for no template extends another. What the tags do that define
or load macros, or insert the template in itself, is left to the world. So is what a reader takes
for the single characters of a text that is not plain ASCII, which a loop over it needs
(`clusters`).
-/

namespace UserConfigs.Template

/-- How a row of nodes ended. -/
inductive Flow where
  /-- At its end. -/
  | next
  /-- At a `break`. -/
  | stop
  /-- At a `continue`. -/
  | skip
  deriving Repr, DecidableEq

/-- What comes of rendering. -/
structure Outcome where
  scope : Scope
  text : String
  flow : Flow

/-- An effect of rendering from a scope on. -/
abbrev Rendering := Scope → Except Fault Outcome

/-- Nothing rendered. -/
def nothing : Rendering := fun sc => .ok ⟨sc, "", .next⟩

/-- A text rendered. -/
def written (s : String) : Rendering := fun sc => .ok ⟨sc, s, .next⟩

/-- The single characters of a plain text, a carriage return and line feed as one. -/
def plainClusters : List Char → List String
  | [] => []
  | '\r' :: '\n' :: s => "\r\n" :: plainClusters s
  | c :: s => c.toString :: plainClusters s

/-- The characters of ASCII. -/
def isPlain (c : Char) : Bool := c.toNat < 128

section

variable [World]

/-- What a reader takes for the single characters of a text. -/
def clusters (s : List Char) : Except Fault (List String) :=
  if s.all isPlain then .ok (plainClusters s) else World.clusters s

/-- The items a loop runs over, with their keys. `name` is the container's in messages. -/
def loopItems (name : String) (keyed : Bool) : Value → Except Fault (List (String × Value))
  | .array xs => if keyed then .error (.loopKey name) else .ok (xs.map fun v => ("", v))
  | .text s =>
    if keyed then .error (.loopKey name)
    else do pure ((← clusters s.toList).map fun c => ("", .text c))
  | .object fields => if keyed then .ok fields else .error (.loopNoKey name)
  | _ => .error (.loopKind name)

/-- The name a container goes by in messages, if a loop may run over it. -/
def containerName : Expr → Except Fault String
  | .mk (.path p) _ _ => .ok p
  | .mk (.call (.mk name _)) _ _ => .ok name
  | .mk (.array _) _ _ => .ok "an array literal"
  | .mk t _ _ => .error (.loopOver t)

/-- The rounds of a loop, one for each item. The frame tells the names and the position; the
names a round binds are gone after it. -/
def rounds (body : Rendering) (frame : LoopFrame) : List (String × Value) → Rendering
  | [], sc => nothing sc
  | (k, v) :: rest, sc => do
    let o ← body (sc.enter { frame with currentKey := k, current := v, names := [] })
    match o.flow with
    | .stop => pure ⟨o.scope.leave, o.text, .next⟩
    | _ =>
      let p ← rounds body { frame with index := frame.index + 1 } rest o.scope.leave
      pure ⟨p.scope, o.text ++ p.text, .next⟩

/-- A loop over the items of a container, or `otherwise` if there are none. -/
def runLoop (key : Option String) (item : String) (container : Expr) (body otherwise : Rendering) :
    Rendering := fun sc => do
  let name ← containerName container
  let items ← loopItems name key.isSome (← container.value sc)
  match items with
  | [] => otherwise sc
  | items => rounds body ⟨item, key, 0, items.length, "", .null, []⟩ items sc

/-- A text sent through the filter of a section. -/
def filterText (sc : Scope) (s : String) : Call → Except Fault Value
  | .mk name args =>
    if name = "safe" then .ok (.text s)
    else
      match filterOf name with
      | none => .error (.noFilter name)
      | some f => do
        let vs ← fromFilter name (argumentValues sc args)
        fromFilter name (f (.text s) (Fields.ofList vs))

/-- End the row of nodes inside a loop. -/
def leaveBy (flow : Flow) (word : String) : Rendering := fun sc =>
  if sc.inLoop then .ok ⟨sc, "", flow⟩ else .error (.noLoop word)

/-- What a tag gives that defines or loads macros. -/
def shared (n : Node) : Rendering := fun sc => do pure ⟨sc, ← World.shared n, .next⟩

/-- The template inserted in itself. -/
def itself : Rendering := fun sc => do
  let (sc', text) ← World.itself sc
  pure ⟨sc', text, .next⟩

mutual

/-- Render a node. -/
def Node.render : Node → Rendering
  | .text s => written (String.ofList s)
  | .value _ e => fun sc => do pure ⟨sc, (← e.value sc).render, .next⟩
  | .comment _ => nothing
  | .raw _ s _ => written (String.ofList s)
  | .assign _ global name e => fun sc => do
    let v ← e.value sc
    pure ⟨if global then sc.assignGlobal name v else sc.assign name v, "", .next⟩
  | .insert _ names optional => fun sc =>
    if documentName ∈ names then itself sc
    else if optional then nothing sc
    else .error (.noTemplate names)
  | .block _ _ body _ => fun sc => renderAll body sc
  | .parent _ => fun _ => .error .noParent
  | .define first name arguments body last => shared (.define first name arguments body last)
  | .load d template space => shared (.load d template space)
  | .filtered _ f body _ => fun sc => do
    let o ← renderAll body sc
    pure ⟨o.scope, (← filterText o.scope o.text f).render, .next⟩
  | .loop _ key item container body none _ =>
    runLoop key item container (fun sc => renderAll body sc) nothing
  | .loop _ key item container body (some otherwise) _ =>
    runLoop key item container (fun sc => renderAll body sc) (fun sc => renderAll otherwise sc)
  | .branch arms none _ => renderArms nothing arms
  | .branch arms (some (_, otherwise)) _ => renderArms (fun sc => renderAll otherwise sc) arms
  | .stop _ => leaveBy .stop "break"
  | .skip _ => leaveBy .skip "continue"

/-- Render nodes in a row, up to a `break` or `continue`. -/
def renderAll : List Node → Rendering
  | [], sc => nothing sc
  | n :: rest, sc => do
    let o ← n.render sc
    match o.flow with
    | .next =>
      let p ← renderAll rest o.scope
      pure ⟨p.scope, o.text ++ p.text, p.flow⟩
    | _ => pure o

/-- Render the body of the first arm whose condition holds, or `otherwise`. -/
def renderArms (otherwise : Rendering) : List (Dashes × Expr × List Node) → Rendering
  | [], sc => otherwise sc
  | (_, e, body) :: arms, sc => do
    if ← e.truth sc then renderAll body sc else renderArms otherwise arms sc

end

end

end UserConfigs.Template
