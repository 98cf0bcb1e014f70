import Mathlib
import UserConfigs.Proofs.Filling
import UserConfigs.Proofs.Statements

/-!
# Bindings as contexts

A name that a template binds has the same effect as a name that the context binds. After a name is
set, it stands for the same as in a context that binds it, as long as it is not set again (`SetAs`).
In a round of a loop the name of the item does so too (`RoundAs`), where the body does not ask for
its place in the loop. Both relations between scopes are kept by a rendering (`Simulation`), within
what the nodes may ask for and do (`setLimits`, `roundLimits`), so the texts are the same.

A body without `break` and `continue` comes to its end in each round (`renderAll_endsNext`). So a
loop gives the texts of its body in the contexts with the items, one after the other
(`text_rounds`, by induction on the items). For whole templates both are stated in
`bindings_as_contexts`, and `bindings_differ` shows what its conditions are for.
-/

namespace UserConfigs.Template

/-! ## A name that is set -/

/-- In both scopes the name stands for the same, as it was set in the one and is in the context of
the other, and the scopes agree on all other names. -/
structure SetAs (x : String) (v : Value) (a b : Scope) : Prop where
  loops : a.loops = [] ∧ b.loops = []
  names : ∀ z, Fields.get? z a.names = if z = x then some v else Fields.get? z b.names
  unset : Fields.get? x b.names = none
  context : ∀ z, Fields.get? z b.context = if z = x then some v else Fields.get? z a.context
  unbound : Fields.get? x a.context = none

theorem findIn?_eq_none {names : Fields Value} {p : List Char}
    (h : Fields.get? (root p) names = none) : findIn? names p = none := by
  have hempty : Fields.get? (root p) names = Fields.get? (root p) ([] : Fields Value) := h
  rw [findIn?_congr hempty]
  unfold findIn?
  split <;> rfl

theorem SetAs.assignGlobal {x name : String} {v : Value} {a b : Scope} (h : SetAs x v a b)
    (hname : name ≠ x) (w : Value) : SetAs x v (a.assignGlobal name w) (b.assignGlobal name w) where
  loops := h.loops
  names := fun z => by
    simp only [Scope.assignGlobal, Fields.get?_insert, h.names z]
    by_cases hz : z = name <;> simp [hz, hname]
  unset := by simp only [Scope.assignGlobal, Fields.get?_insert, if_neg hname.symm, h.unset]
  context := h.context
  unbound := h.unbound

/-- What may be asked for and done where a name is set in place of the context. The name itself is
not set again, and loops that bind it do not ask for all bindings. -/
def setLimits (x : String) : Limits where
  asked := fun _ => True
  set := (· ≠ x)
  leaving := True
  whole := True
  bound := (· ≠ x)
  bound_of_set := id

/-- The scopes stay alike as long as the name is not set again. -/
theorem simulation_setAs (x : String) (v : Value) : Simulation (setLimits x) (SetAs x v) where
  find? := fun {a b q} h _ => by
    have hnames := h.names (root q)
    have hcontext := h.context (root q)
    rw [Scope.find?, Scope.find?, h.loops.1, h.loops.2]
    by_cases hq : root q = x
    · rw [if_pos hq] at hnames hcontext
      rw [findIn?_eq_none (hq ▸ h.unset : Fields.get? (root q) b.names = none),
        findIn?_eq_none (hq ▸ h.unbound : Fields.get? (root q) a.context = none),
        findIn?_congr (hnames.trans hcontext.symm)]
      cases findIn? b.context q <;> rfl
    · rw [if_neg hq] at hnames hcontext
      rw [findIn?_congr hnames, findIn?_congr hcontext]
  whole := fun {a b} h _ z => by
    have hnames := h.names z
    have hcontext := h.context z
    rw [Scope.over?, Scope.over?, h.loops.1, h.loops.2]
    by_cases hz : z = x
    · rw [if_pos hz] at hnames hcontext
      refine .inr ⟨fun hbound => hbound hz, ?_⟩
      rw [hnames, hcontext, hz, h.unset]
      rfl
    · rw [if_neg hz] at hnames hcontext
      exact .inl ⟨by rw [hnames], hcontext.symm⟩
  assign := fun {a b name} h hname w => by
    have hassign : ∀ sc : Scope, sc.loops = [] → sc.assign name w = sc.assignGlobal name w :=
      fun sc hsc => by simp only [Scope.assign, Scope.assignGlobal, hsc]
    rw [hassign a h.loops.1, hassign b h.loops.2]
    exact h.assignGlobal hname w
  assignGlobal := fun {a b name} h hname w => h.assignGlobal hname w
  inLoop := fun {a b} h _ => by rw [Scope.inLoop, Scope.inLoop, h.loops.1, h.loops.2]

/-- The name is set at the top on one side and given on the other. -/
theorem setAs_insert {x : String} (v : Value) {c : Context} (hx : Fields.get? x c = none) :
    SetAs x v ⟨[], Fields.insert x v [], c⟩ ⟨[], [], Fields.insert x v c⟩ where
  loops := ⟨rfl, rfl⟩
  names := fun z => Fields.get?_insert x z v []
  unset := rfl
  context := fun z => Fields.get?_insert x z v c
  unbound := hx

/-- A plain name by itself has the value that the context gives it. -/
theorem value_name_context [World] {y : String} (hy : IsPlainName y.toList)
    (hname : y ≠ wholeContext) {c : Context} {v : Value} (hv : Fields.get? y c = some v) :
    (Expr.mk (.path y) false []).value ⟨[], [], c⟩ = .ok v := by
  rw [value_path, read_plain hy hname, hv]

/-- Setting a name to what another name means has the same effect as a context in which it means
that. -/
theorem render_setNode [World] {x y : String} (hy : IsPlainName y.toList) (hname : y ≠ wholeContext)
    {nodes : List Node} (hwithin : ∀ n ∈ partsAll nodes, n.Within (setLimits x)) {c : Context}
    {v : Value} (hv : Fields.get? y c = some v) (hx : Fields.get? x c = none) :
    Template.render ⟨setNode x y :: nodes⟩ c = Template.render ⟨nodes⟩ (Fields.insert x v c) := by
  have halike := render_of_goesAlike (renderAll_goesAlike nodes (simulation_setAs x v) hwithin)
    (setAs_insert v hx)
  have hset : (renderAll (setNode x y :: nodes) ⟨[], [], c⟩).map Outcome.text =
      (renderAll nodes ⟨[], Fields.insert x v [], c⟩).map Outcome.text := by
    have hscope : (⟨[], [], c⟩ : Scope).assign x v = ⟨[], Fields.insert x v [], c⟩ := rfl
    simp only [setNode, renderAll, Node.render, value_name_context hy hname hv, bind, Except.bind,
      pure, Except.pure, Bool.false_eq_true, if_false, hscope]
    cases renderAll nodes ⟨[], Fields.insert x v [], c⟩ <;> simp [Except.map]
  rw [render_eq_map, render_eq_map, hset, halike]

/-! ## A name that a loop binds -/

/-- In one round of a loop over an array the name stands for the item, as it does in the context of
the other scope. -/
def RoundAs (x : String) (v : Value) (c : Context) (a b : Scope) : Prop :=
  (∃ index count, a = ⟨[⟨x, none, index, count, "", v, []⟩], [], c⟩) ∧
    b = ⟨[], [], Fields.insert x v c⟩

theorem position?_eq_none {f : LoopFrame} {q : List Char} (hq : root q ≠ "loop") :
    f.position? (String.ofList q) = none := by
  have hne : ∀ p : String, root p.toList = "loop" → String.ofList q ≠ p := by
    rintro p hp rfl
    exact hq (by rwa [String.toList_ofList] at hp)
  rw [LoopFrame.position?, if_neg (hne _ (by decide)), if_neg (hne _ (by decide)),
    if_neg (hne _ (by decide)), if_neg (hne _ (by decide))]

/-- The item of a loop is found as a name with its value is. -/
theorem item?_eq (x : String) (v : Value) (index count : Nat) (q : List Char) :
    LoopFrame.item? ⟨x, none, index, count, "", v, []⟩ q = findIn? [(x, v)] q := by
  unfold LoopFrame.item? findIn?
  split
  · next r h => by_cases hr : r = x <;> simp [Fields.get?, hr]
  · next r rest h => by_cases hr : r = x <;> simp [Fields.get?, hr]

/-- In a round the frame holds the one value under its name. -/
theorem find?_round (x : String) (v : Value) (index count : Nat) {q : List Char}
    (hq : root q ≠ "loop") :
    LoopFrame.find? ⟨x, none, index, count, "", v, []⟩ q = findIn? [(x, v)] q := by
  rw [LoopFrame.find?, findIn?_eq_none rfl, position?_eq_none hq, item?_eq]
  rfl

/-- What may be asked for and done in the rounds of a loop in place of the context. Nothing is set,
the loop is not left, and loops that bind its name again do not ask for all bindings. -/
def roundLimits (x : String) : Limits where
  asked := (· ≠ "loop")
  set := fun _ => False
  leaving := False
  whole := True
  bound := (· ≠ x)
  bound_of_set := False.elim

/-- Paths are found alike in the round and in the context with the name. -/
theorem simulation_roundAs {x : String} (v : Value) {c : Context} (hx : Fields.get? x c = none) :
    Simulation (roundLimits x) (RoundAs x v c) where
  find? := by
    rintro a b q ⟨⟨index, count, rfl⟩, rfl⟩ hq
    have hinsert := Fields.get?_insert x (root q) v c
    rw [Scope.find?, Scope.find?, List.findSome?_cons, find?_round x v index count hq,
      findIn?_eq_none (rfl : Fields.get? (root q) ([] : Fields Value) = none)]
    by_cases hqx : root q = x
    · have hitem : Fields.get? (root q) [(x, v)] = Fields.get? (root q) (Fields.insert x v c) := by
        rw [hinsert, if_pos hqx, Fields.get?, if_pos hqx]
      rw [findIn?_congr hitem, findIn?_eq_none (hqx ▸ hx : Fields.get? (root q) c = none)]
      cases findIn? (Fields.insert x v c) q <;> rfl
    · have hitem : Fields.get? (root q) [(x, v)] = none := by
        rw [Fields.get?, if_neg hqx, Fields.get?]
      rw [if_neg hqx] at hinsert
      rw [findIn?_eq_none hitem, findIn?_congr hinsert]
  whole := by
    rintro a b ⟨⟨index, count, rfl⟩, rfl⟩ - z
    have hinsert := Fields.get?_insert x z v c
    by_cases hz : z = x
    · refine .inr ⟨fun hbound => hbound hz, ?_⟩
      rw [hinsert, if_pos hz]
      simp [Scope.over?, Scope.loopsOver?, LoopFrame.bound?, Fields.get?, hz]
    · rw [if_neg hz] at hinsert
      refine .inl ⟨?_, hinsert.symm⟩
      simp [Scope.over?, Scope.loopsOver?, LoopFrame.bound?, Fields.get?, hz]
  assign := fun _ h => h.elim
  assignGlobal := fun _ h => h.elim
  inLoop := fun _ h => h.elim

/-! ## Nodes that do not leave a loop -/

/-- A rendering that does not fail comes to its end. -/
def EndsNext (r : Except Fault Outcome) : Prop := ∀ o, r = .ok o → o.flow = .next

theorem endsNext_ok {sc : Scope} {text : String} : EndsNext (.ok ⟨sc, text, .next⟩) := by
  rintro o ⟨⟩
  rfl

theorem endsNext_error (fault : Fault) : EndsNext (.error fault) := nofun

namespace EndsNext

variable {α : Type}

/-- Something that may fail, and then the rest. -/
theorem after (r : Except Fault α) {f : α → Except Fault Outcome} (hf : ∀ a, EndsNext (f a)) :
    EndsNext (r >>= f) := by
  cases r with
  | error fault => exact endsNext_error fault
  | ok a => exact hf a

/-- What is done after a piece that ends next. -/
theorem bind {r : Except Fault Outcome} (h : EndsNext r) {f : Outcome → Except Fault Outcome}
    (hf : ∀ o, o.flow = .next → EndsNext (f o)) : EndsNext (r >>= f) := by
  cases r with
  | error fault => exact endsNext_error fault
  | ok o => exact hf o (h o rfl)

end EndsNext

theorem endsNext_rounds (body : Rendering) : ∀ (items : List (String × Value)) (frame : LoopFrame)
    (sc : Scope), EndsNext (rounds body frame items sc)
  | [], _, _ => endsNext_ok
  | (key, v) :: items, frame, sc => by
    unfold rounds
    refine .after _ fun o => ?_
    split
    · exact endsNext_ok
    · exact .after _ fun p => endsNext_ok

section

variable [World]

/-- A loop catches whatever leaves its rounds. -/
theorem endsNext_runLoop {key : Option String} {item : String} {container : Expr}
    {body otherwise : Rendering} {sc : Scope} (h : EndsNext (otherwise sc)) :
    EndsNext (runLoop key item container body otherwise sc) := by
  unfold runLoop
  refine .after _ fun name => .after _ fun v => .after _ fun items => ?_
  split
  · exact h
  · exact endsNext_rounds _ _ _ _

mutual

/-- Without `break` and `continue` a rendering comes to its end. -/
theorem Node.endsNext : ∀ (n : Node) (sc : Scope), (∀ m ∈ n.parts, m.leaves = false) →
    EndsNext (n.render sc)
  | .text s, _, _ => by
    rw [Node.render]
    exact endsNext_ok
  | .comment d, _, _ => by
    rw [Node.render]
    exact endsNext_ok
  | .raw first s last, _, _ => by
    rw [Node.render]
    exact endsNext_ok
  | .value d e, _, _ => by
    rw [Node.render]
    exact .after _ fun v => endsNext_ok
  | .assign d global name e, _, _ => by
    rw [Node.render]
    exact .after _ fun v => endsNext_ok
  | .insert d names optional, _, _ => by
    rw [Node.render]
    split
    · exact .after _ fun _ => endsNext_ok
    · split
      · exact endsNext_ok
      · exact endsNext_error _
  | .block first name body last, sc, h => by
    rw [Node.parts, List.forall_mem_cons] at h
    rw [Node.render]
    exact renderAll_endsNext body sc h.2
  | .parent d, _, _ => by
    rw [Node.render]
    exact endsNext_error _
  | .define first name arguments body last, _, _ => by
    rw [Node.render]
    exact .after _ fun _ => endsNext_ok
  | .load d template space, _, _ => by
    rw [Node.render]
    exact .after _ fun _ => endsNext_ok
  | .filtered first f body last, _, _ => by
    rw [Node.render]
    exact .after _ fun o => .after _ fun v => endsNext_ok
  | .loop first key item container body none last, _, _ => by
    rw [Node.render]
    exact endsNext_runLoop endsNext_ok
  | .loop first key item container body (some otherwise) last, sc, h => by
    rw [Node.parts, List.forall_mem_cons, List.forall_mem_append] at h
    rw [Node.render]
    exact endsNext_runLoop (renderAll_endsNext otherwise sc h.2.2)
  | .branch arms none last, sc, h => by
    rw [Node.parts, List.forall_mem_cons] at h
    rw [Node.render]
    exact renderArms_endsNext endsNext_ok arms h.2
  | .branch arms (some (d, otherwise)) last, sc, h => by
    rw [Node.parts, List.forall_mem_cons, List.forall_mem_append] at h
    rw [Node.render]
    exact renderArms_endsNext (renderAll_endsNext otherwise sc h.2.2) arms h.2.1
  | .stop d, _, h => absurd (h (.stop d) (Node.mem_parts _)) (by simp [Node.leaves])
  | .skip d, _, h => absurd (h (.skip d) (Node.mem_parts _)) (by simp [Node.leaves])

theorem renderAll_endsNext : ∀ (nodes : List Node) (sc : Scope),
    (∀ m ∈ partsAll nodes, m.leaves = false) → EndsNext (renderAll nodes sc)
  | [], _, _ => by
    rw [renderAll]
    exact endsNext_ok
  | n :: rest, sc, h => by
    rw [partsAll, List.forall_mem_append] at h
    rw [renderAll]
    refine (Node.endsNext n sc h.1).bind fun o ho => ?_
    rw [ho]
    exact (renderAll_endsNext rest o.scope h.2).bind fun p hp => by
      rw [hp]
      exact endsNext_ok

theorem renderArms_endsNext {otherwise : Rendering} {sc : Scope}
    (hother : EndsNext (otherwise sc)) : ∀ arms : List (Dashes × Expr × List Node),
      (∀ m ∈ partsArms arms, m.leaves = false) → EndsNext (renderArms otherwise arms sc)
  | [], _ => by
    rw [renderArms]
    exact hother
  | (d, e, body) :: arms, h => by
    rw [partsArms, List.forall_mem_append] at h
    rw [renderArms]
    refine .after _ fun holds => ?_
    cases holds with
    | true => exact renderAll_endsNext body sc h.1
    | false => exact renderArms_endsNext hother arms h.2

end

/-! ## Rounds as contexts -/

/-- The text of nodes in a context. -/
def textIn (nodes : List Node) (c : Context) : Except Fault String :=
  (renderAll nodes ⟨[], [], c⟩).map Outcome.text

/-- A template is rendered in a scope with nothing but the context. -/
theorem render_eq_textIn (nodes : List Node) (c : Context) :
    Template.render ⟨nodes⟩ c = (textIn nodes c).mapError .render := by
  rw [render_eq_map, textIn]
  cases (renderAll nodes ⟨[], [], c⟩).map Outcome.text <;> rfl

section

variable {x : String} {c : Context} (hx : Fields.get? x c = none) {nodes : List Node}
  (hwithin : ∀ n ∈ partsAll nodes, n.Within (roundLimits x))

include hx hwithin

/-- One round gives what the body gives in the context that binds the name to the item, and nothing
that it binds stays outside of it. -/
theorem renderAll_round (index count : Nat) (v : Value) :
    ∃ f : LoopFrame, renderAll nodes
        (Scope.enter ⟨[], [], c⟩ ⟨x, none, index, count, "", v, []⟩) =
      (textIn nodes (Fields.insert x v c)).map fun text => ⟨⟨[f], [], c⟩, text, .next⟩ := by
  obtain ⟨a, ha⟩ : ∃ a, a = Scope.enter ⟨[], [], c⟩ ⟨x, none, index, count, "", v, []⟩ := ⟨_, rfl⟩
  have hends : EndsNext (renderAll nodes a) :=
    renderAll_endsNext nodes a fun m hm => Bool.eq_false_iff.mpr (hwithin m hm).leaves
  have halike : SameOutcome (Under (roundLimits x).bound (RoundAs x v c) []) (renderAll nodes a)
      (renderAll nodes ⟨[], [], Fields.insert x v c⟩) :=
    renderAll_goesAlike nodes (simulation_roundAs v hx) hwithin (fun _ => List.forall_mem_nil _)
      (.base ⟨⟨index, count, ha⟩, rfl⟩)
  rw [← ha, textIn]
  generalize renderAll nodes a = inRound at hends halike ⊢
  generalize renderAll nodes ⟨[], [], Fields.insert x v c⟩ = inContext at halike ⊢
  cases halike with
  | error fault => exact ⟨⟨x, none, index, count, "", v, []⟩, rfl⟩
  | ok h text flow =>
    obtain rfl : flow = .next := hends _ rfl
    -- the relation that holds after the round tells that one frame is left to take off
    cases h with
    | base h =>
      obtain ⟨⟨index', count', rfl⟩, -⟩ := h
      exact ⟨_, rfl⟩

/-- The rounds of a loop give one after the other what the body gives in the contexts that bind the
name to the items. -/
theorem text_rounds (count : Nat) (key : String) (v₀ : Value) : ∀ (items : List Value)
    (index : Nat),
      (rounds (fun sc => renderAll nodes sc) ⟨x, none, index, count, key, v₀, []⟩
          (items.map fun v => ("", v)) ⟨[], [], c⟩).map Outcome.text =
        (items.mapM fun v => textIn nodes (Fields.insert x v c)).map String.join
  | [], _ => rfl
  | v :: items, index => by
    have ih := text_rounds count key v₀ items (index + 1)
    obtain ⟨f, hround⟩ := renderAll_round hx hwithin index count v
    have hleave : (⟨[f], [], c⟩ : Scope).leave = ⟨[], [], c⟩ := rfl
    rw [List.map_cons, rounds, hround, List.mapM_cons]
    cases textIn nodes (Fields.insert x v c) with
    | error fault => rfl
    | ok text =>
      simp only [Except.map, bind, Except.bind, hleave, pure, Except.pure]
      generalize rounds _ _ _ _ = later at ih ⊢
      generalize List.mapM (m := Except Fault) _ items = texts at ih ⊢
      cases later <;> cases texts <;> simp_all [Except.map]

end

/-- A single node gives its own text. -/
theorem text_singleton (n : Node) (sc : Scope) :
    (renderAll [n] sc).map Outcome.text = (n.render sc).map Outcome.text := by
  rw [renderAll]
  cases n.render sc with
  | error fault => rfl
  | ok o =>
    obtain ⟨sc', text, flow⟩ := o
    cases flow <;> simp [renderAll, nothing, bind, Except.bind, pure, Except.pure, Except.map]

/-- A loop over an array gives one after the other what its body gives in the contexts that bind
the name to the items, or what the body for the empty array gives. -/
theorem textIn_forNode {x y : String} (hy : IsPlainName y.toList) (hname : y ≠ wholeContext)
    {nodes : List Node} (hwithin : ∀ n ∈ partsAll nodes, n.Within (roundLimits x))
    (others : List Node) {c : Context} {items : List Value} (hx : Fields.get? x c = none)
    (hitems : Fields.get? y c = some (.array items)) :
    textIn [forNode x y nodes others] c =
      if items = [] then textIn others c
      else (items.mapM fun v => textIn nodes (Fields.insert x v c)).map String.join := by
  have hvalue := value_name_context hy hname hitems
  rw [textIn, text_singleton, forNode, Node.render]
  cases items with
  | nil => simp [runLoop, containerName, hvalue, loopItems, bind, Except.bind, textIn]
  | cons v items =>
    rw [if_neg (List.cons_ne_nil v items), ← text_rounds hx hwithin]
    simp only [runLoop, containerName, hvalue, loopItems, bind, Except.bind]
    rfl

end

/-! ## Templates -/

theorem mapM_mapError {α β ε δ : Type} (f : ε → δ) (g : α → Except ε β) : ∀ xs : List α,
    (xs.mapM fun a => (g a).mapError f) = (xs.mapM g).mapError f
  | [] => rfl
  | a :: xs => by
    have ih := mapM_mapError f g xs
    rw [List.mapM_cons, List.mapM_cons, ih]
    cases g a <;> cases xs.mapM g <;> rfl

/-- The template asks for nothing but what names tell. Where a loop in it binds the name `x`, it
does not ask for all bindings. -/
structure AsksNames (x : String) (t : Template) : Prop where
  outside : .outside ∉ t.queries
  rounds : ∀ n ∈ partsAll t.nodes, x ∈ n.items →
    ∀ m ∈ n.rounds, .path wholeContext ∉ m.queries

/-- A template for which a name may be set in place of the context : it does not set it itself. -/
structure AllowsSet (x : String) (t : Template) : Prop extends AsksNames x t where
  binds : ∀ n ∈ partsAll t.nodes, x ∉ n.binds

/-- A template that can be the body of a loop without telling it : it sets no names, leaves no loop,
does not ask where in a loop it is and has no parts to share. -/
structure IsLoopBody (x : String) (t : Template) : Prop extends AsksNames x t where
  binds : ∀ n ∈ partsAll t.nodes, n.binds = []
  leaves : ∀ n ∈ partsAll t.nodes, n.leaves = false
  place : "loop" ∉ t.names
  unshared : Unshared t.nodes

/-- A template that can be what a loop has for the empty array : no dash takes blanks in it, and it
has no parts to share. -/
structure IsLoopOtherwise (t : Template) : Prop where
  outside : .outside ∉ t.queries
  undashed : ∀ n ∈ partsAll t.nodes, n.dashed = false
  unshared : Unshared t.nodes

section

variable {x : String} {t : Template}

/-- A loop over the name itself asks for no whole context in its rounds. -/
theorem AsksNames.rounds_or (h : AsksNames x t) {n : Node} (hn : n ∈ partsAll t.nodes) :
    (∀ z ∈ n.items, z ≠ x) ∨ ∀ m ∈ n.rounds, .path wholeContext ∉ m.queries := by
  by_cases hx : x ∈ n.items
  · exact .inr (h.rounds n hn hx)
  · exact .inl fun z hz hzx => hx (hzx ▸ hz)

theorem AllowsSet.within (h : AllowsSet x t) : ∀ n ∈ partsAll t.nodes, n.Within (setLimits x) :=
  fun n hn => {
    asks := fun q hq => by
      cases q with
      | outside => exact h.outside (List.mem_flatMap.mpr ⟨n, hn, hq⟩)
      | path p => exact ⟨fun _ => trivial, fun _ _ _ => trivial⟩
    binds := fun z hz hzx => h.binds n hn (hzx ▸ hz)
    rounds := h.rounds_or hn
    leaves := fun _ => trivial }

theorem IsLoopBody.within (h : IsLoopBody x t) : ∀ n ∈ partsAll t.nodes, n.Within (roundLimits x) :=
  fun n hn => {
    asks := fun q hq => by
      have hmem : q ∈ t.queries := List.mem_flatMap.mpr ⟨n, hn, hq⟩
      cases q with
      | outside => exact h.outside hmem
      | path p =>
        exact ⟨fun _ => trivial, fun _ z hz hloop =>
          h.place (List.mem_flatMap.mpr ⟨_, hmem, hloop ▸ hz⟩)⟩
    binds := fun z hz => by simp [h.binds n hn] at hz
    rounds := h.rounds_or hn
    leaves := fun hleaves => by simp [h.leaves n hn] at hleaves }

end

/-- A loop over an array is rendered as its body, one after the other, in the contexts that bind the
name to the items. -/
theorem render_forNode [World] {x y : String} (hy : IsPlainName y.toList) (hname : y ≠ wholeContext)
    {t : Template} (ht : t.IsLoopBody x) (u : Template) {c : Context} {items : List Value}
    (hx : Fields.get? x c = none) (hitems : Fields.get? y c = some (.array items)) :
    Template.render ⟨[forNode x y t.nodes u.nodes]⟩ c =
      if items = [] then u.render c
      else (items.mapM fun v => t.render (Fields.insert x v c)).map String.join := by
  have hrender : ∀ (t : Template) (c : Context), t.render c = (textIn t.nodes c).mapError .render :=
    fun t c => render_eq_textIn t.nodes c
  simp only [hrender, textIn_forNode hy hname ht.within u.nodes hx hitems, mapM_mapError]
  split
  · rfl
  · cases items.mapM fun v => textIn t.nodes (Fields.insert x v c) <;> rfl

/-- Statements that bind a name mean a context that binds it. To set a name first is to render in
the context with what it is set to. A loop over an array renders its body in the contexts with the
items, or the body for the empty array in the context as it is. -/
theorem bindings_as_contexts [World] {x y : String} (hx : IsIdentifier x.toList)
    (hy : IsPlainName y.toList) (hname : y ≠ wholeContext) {c : Context} {v : Value}
    (hunbound : Fields.get? x c = none) (hbound : Fields.get? y c = some v) :
    (∀ text : String,
      ((∃ t', parse (setText x y ++ text) = .ok t') ↔ ∃ t, parse text = .ok t) ∧
        ∀ t t', parse text = .ok t → parse (setText x y ++ text) = .ok t' → t.AllowsSet x →
          t'.render c = t.render (Fields.insert x v c)) ∧
    ∀ items : List Value, v = .array items → ∀ body otherwise : String, ∀ t u : Template,
      parse body = .ok t → t.IsLoopBody x → body.toList.getLast? ≠ some '{' →
        parse otherwise = .ok u → u.IsLoopOtherwise → otherwise.toList.getLast? ≠ some '{' →
          ∃ w, parse (forText x y body otherwise) = .ok w ∧
            w.render c = if items = [] then u.render c
              else (items.mapM fun v => t.render (Fields.insert x v c)).map String.join := by
  refine ⟨fun text => ⟨⟨?_, ?_⟩, fun t t' ht ht' hset => ?_⟩, ?_⟩
  · rintro ⟨t', ht'⟩
    obtain ⟨t, ht, -⟩ := (parse_setText hx hy).mp ht'
    exact ⟨t, ht⟩
  · rintro ⟨t, ht⟩
    exact ⟨_, (parse_setText hx hy).mpr ⟨t, ht, rfl⟩⟩
  · obtain ⟨t₀, ht₀, rfl⟩ := (parse_setText hx hy).mp ht'
    obtain rfl : t = t₀ := Except.ok.inj (ht.symm.trans ht₀)
    exact render_setNode hy hname hset.within hbound hunbound
  · rintro items rfl body otherwise t u ht hbody hbrace hu hother hbrace'
    exact ⟨_, parse_forText hx hy ht hbrace hu hbrace' hother.undashed hbody.unshared
      hother.unshared, render_forNode hy hname hbody u hunbound hbound⟩

/-- A name for two numbers, set and looped over. -/
theorem bindings_as_contexts_numbers :
    (∃ t, parse (setText "x" "y" ++ "\x7b\x7b x \x7d\x7d") = .ok t ∧
      t.render [("y", .array [.number (.whole 1), .number (.whole 2)])] = .ok "[1, 2]") ∧
    ∃ t, parse (forText "x" "y" "<\x7b\x7b x \x7d\x7d>" "none") = .ok t ∧
      t.render [("y", .array [.number (.whole 1), .number (.whole 2)])] = .ok "<1><2>" := by
  have hx : IsIdentifier "x".toList := ⟨'x', [], by decide, by decide, List.forall_mem_nil _⟩
  have hy : IsPlainName "y".toList :=
    ⟨⟨'y', [], by decide, by decide, List.forall_mem_nil _⟩, by decide⟩
  obtain ⟨hset, hfor⟩ := bindings_as_contexts hx hy (by decide)
    (c := [("y", .array [.number (.whole 1), .number (.whole 2)])]) rfl rfl
  have hvalue : parse "\x7b\x7b x \x7d\x7d" =
      .ok ⟨[.value ⟨false, false⟩ (.mk (.path "x") false [])]⟩ := by cbv
  have hbody : parse "<\x7b\x7b x \x7d\x7d>" = .ok ⟨[.text ['<'],
      .value ⟨false, false⟩ (.mk (.path "x") false []), .text ['>']]⟩ := by cbv
  have hnone : parse "none" = .ok ⟨[.text ['n', 'o', 'n', 'e']]⟩ := by cbv
  constructor
  · obtain ⟨t, ht⟩ := (hset "\x7b\x7b x \x7d\x7d").1.mpr ⟨_, hvalue⟩
    have hallows : AllowsSet "x" ⟨[.value ⟨false, false⟩ (.mk (.path "x") false [])]⟩ :=
      ⟨⟨by decide, by decide⟩, by decide⟩
    refine ⟨t, ht, ((hset _).2 _ t hvalue ht hallows).trans ?_⟩
    cbv
  · obtain ⟨t, ht, hrender⟩ := hfor _ rfl _ _ _ _ hbody
      ⟨⟨by decide, by decide⟩, by decide, by decide, by decide, by decide⟩ (by decide) hnone
      ⟨by decide, by decide, by decide⟩ (by decide)
    refine ⟨t, ht, hrender.trans ?_⟩
    cbv

/-- After a name is set a text is not rendered as it is in a context that binds the name. The worlds
are those of the two renderings. -/
def TellsSet (w w' : World) (text : String) (v : Value) : Prop :=
  ∃ t t', parse text = .ok t ∧ parse (setText "x" "y" ++ text) = .ok t' ∧
    @render w t' [("y", v)] ≠ @render w' t (Fields.insert "x" v [("y", v)])

theorem tellsSet_of_render {w w' : World} {text : String} {nodes : List Node} {v : Value}
    (hparse : parse text = .ok ⟨nodes⟩) (s s' : String)
    (hset : @render w ⟨setNode "x" "y" :: nodes⟩ [("y", v)] = .ok s)
    (hcontext : @render w' ⟨nodes⟩ (Fields.insert "x" v [("y", v)]) = .ok s') (hne : s ≠ s') :
    TellsSet w w' text v := by
  have hx : IsIdentifier "x".toList := ⟨'x', [], by decide, by decide, List.forall_mem_nil _⟩
  have hy : IsPlainName "y".toList :=
    ⟨⟨'y', [], by decide, by decide, List.forall_mem_nil _⟩, by decide⟩
  refine ⟨_, _, hparse, (parse_setText hx hy).mpr ⟨_, hparse, rfl⟩, ?_⟩
  rw [hset, hcontext]
  exact fun heq => hne (Except.ok.inj heq)

/-- A world in which macros tell whether the context has an `x`. -/
@[reducible]
def World.askingMacros : World :=
  { World.bare with
    shared := fun _ => .ok ""
    invoke := fun c _ _ _ => .ok (.bool (Fields.get? "x" c).isSome) }

/-- A world in which chance gives a number. -/
@[reducible]
def World.drawing (n : Int) : World :=
  { World.bare with random := fun _ => .ok (.number (.whole n)) }

set_option maxRecDepth 1000 in
/-- A brace at the end of the body makes another sign of the one behind it, a block may not stand in
a loop, and in the body for the empty array dashes take no blanks. A name that is set stands above
the loops where all bindings are asked for, a macro does not see it, and chance need not give the
same twice. -/
theorem bindings_differ :
    ((∃ t, parse "\x7b" = .ok t) ∧ parse (forText "x" "y" "\x7b" "e") = .error .malformed) ∧
    ((∃ t, parse "\x7b% block b %\x7d\x7b% endblock %\x7d" = .ok t) ∧
      parse (forText "x" "y" "\x7b% block b %\x7d\x7b% endblock %\x7d" "e") = .error .malformed) ∧
    (∃ u w, parse "a \x7b\x7b- 'm' \x7d\x7d b" = .ok u ∧
      parse (forText "x" "y" "" "a \x7b\x7b- 'm' \x7d\x7d b") = .ok w ∧
        w.render [("y", .array [])] ≠ u.render [("y", .array [])]) ∧
    TellsSet .bare .bare
      "\x7b% for x in y %\x7d\x7b\x7b __tera_context \x7d\x7d\x7b% endfor %\x7d"
      (.array [.bool true]) ∧
    TellsSet .askingMacros .askingMacros
      "\x7b% macro f() %\x7d\x7b\x7b x \x7d\x7d\x7b% endmacro %\x7d\x7b\x7b self::f() \x7d\x7d"
      (.bool true) ∧
    TellsSet (.drawing 0) (.drawing 1) "\x7b\x7b get_random(start=0, end=2) \x7d\x7d" .null := by
  refine ⟨⟨⟨⟨[.text ['\x7b']]⟩, by cbv⟩, by cbv⟩,
    ⟨⟨⟨[.block ⟨false, false⟩ "b" [] ⟨false, false⟩]⟩, by cbv⟩, by cbv⟩, ?_, ?_, ?_, ?_⟩
  · have htaken : Template.render ⟨[.text ['a'], .value ⟨true, false⟩ (.mk (.text "m") false []),
        .text [' ', 'b']]⟩ [("y", .array [])] = .ok "am b" := by cbv
    have hkept : Template.render ⟨[forNode "x" "y" [] [.text ['a', ' '],
        .value ⟨true, false⟩ (.mk (.text "m") false []), .text [' ', 'b']]]⟩ [("y", .array [])] =
          .ok "a m b" := by cbv
    have hparse : parse "a \x7b\x7b- 'm' \x7d\x7d b" = .ok ⟨[.text ['a'],
        .value ⟨true, false⟩ (.mk (.text "m") false []), .text [' ', 'b']]⟩ := by cbv
    have hloop : parse (forText "x" "y" "" "a \x7b\x7b- 'm' \x7d\x7d b") =
        .ok ⟨[forNode "x" "y" [] [.text ['a', ' '],
          .value ⟨true, false⟩ (.mk (.text "m") false []), .text [' ', 'b']]]⟩ := by cbv
    refine ⟨_, _, hparse, hloop, ?_⟩
    rw [htaken, hkept]
    exact fun heq => absurd (Except.ok.inj heq) (by decide)
  · have hparse : parse
        "\x7b% for x in y %\x7d\x7b\x7b __tera_context \x7d\x7d\x7b% endfor %\x7d" =
        .ok ⟨[.loop ⟨false, false⟩ none "x" (.mk (.path "y") false [])
          [.value ⟨false, false⟩ (.mk (.path "__tera_context") false [])] none
          ⟨false, false⟩]⟩ := by cbv
    exact tellsSet_of_render hparse
      "\x7b\n  \"x\": [\n    true\n  ],\n  \"y\": [\n    true\n  ]\n\x7d"
      "\x7b\n  \"x\": true,\n  \"y\": [\n    true\n  ]\n\x7d" (by cbv) (by cbv) (by decide)
  · have hparse : parse
        "\x7b% macro f() %\x7d\x7b\x7b x \x7d\x7d\x7b% endmacro %\x7d\x7b\x7b self::f() \x7d\x7d" =
        .ok ⟨[.define ⟨false, false⟩ "f" [] [.value ⟨false, false⟩ (.mk (.path "x") false [])]
          ⟨false, false⟩, .value ⟨false, false⟩ (.mk (.invoke "self" (.mk "f" [])) false [])]⟩ := by
      cbv
    exact tellsSet_of_render hparse "false" "true" (by cbv) (by cbv) (by decide)
  · have hparse : parse "\x7b\x7b get_random(start=0, end=2) \x7d\x7d" =
        .ok ⟨[.value ⟨false, false⟩ (.mk (.call (.mk "get_random"
          [("start", .mk (.whole 0) false []), ("end", .mk (.whole 2) false [])])) false [])]⟩ := by
      cbv
    exact tellsSet_of_render hparse "0" "1" (by cbv) (by cbv) (by decide)

end UserConfigs.Template
