import UserConfigs.Proofs.Overlay
import UserConfigs.Proofs.Parts
import UserConfigs.Proofs.Reading

/-!
# Scopes that cannot be told apart

A rendering may go the same way in different scopes. It does if names lead to the same in both, as
far as the paths of the nodes ask for them, and if this stays so when a name is bound that the nodes
bind (`Simulation`). The loops of the nodes put the same frames on both scopes (`Under`), so the
nodes under the loops cannot tell them apart either (`Node.goesAlike`, by induction on the nodes) :
both renderings fail with the same fault, or they give the same text (`SameOutcome`).

What nodes may ask for and do is set by `Limits`. Calls of macros and chance are beyond them all,
and so is the template inserted in itself. Where all bindings are asked for at once, scopes are not
told apart if the same lies over both (`SameBindings`), but for names that no loop around binds. So
the rounds of loops are told apart by whether they bind such names (`Limits.under`).

So the bindings of a context that no path of a template asks for are never observed
(`render_of_agree`).
-/

namespace UserConfigs.Template

/-! ## The nodes of a template -/

/-- What a node itself asks for. -/
def Node.queries : Node → List Query
  | .value _ e | .assign _ _ _ e => e.queries
  | .filtered _ f _ _ => f.queries
  | .loop _ _ _ container _ _ _ => container.queries
  | .branch arms _ _ => arms.flatMap fun arm => arm.2.1.queries
  | .insert _ names _ => if documentName ∈ names then [.outside] else []
  | .text _ | .comment _ | .raw _ _ _ | .block _ _ _ _ | .parent _ | .define _ _ _ _ _
  | .load _ _ _ | .stop _ | .skip _ => []

/-- The names that a node itself binds by `set` or `set_global`. -/
def Node.binds : Node → List String
  | .assign _ _ name _ => [name]
  | _ => []

/-- The names that a node itself binds in the rounds of a loop. -/
def Node.items : Node → List String
  | .loop _ key item _ _ _ _ => item :: key.toList
  | _ => []

/-- The nodes in the rounds of a loop. -/
def Node.rounds : Node → List Node
  | .loop _ _ _ _ body _ _ => partsAll body
  | _ => []

/-- The node leaves the loop or the round that it is in. -/
def Node.leaves : Node → Bool
  | .stop _ | .skip _ => true
  | _ => false

/-- What a template asks for. -/
def queries (t : Template) : List Query := (partsAll t.nodes).flatMap Node.queries

/-- The names that are asked for. -/
def Query.names : Query → List String
  | .path p => pathNames p
  | .outside => []

/-- The names that the paths of a template ask for. -/
def names (t : Template) : List String := t.queries.flatMap Query.names

/-- What nodes may ask for and do. -/
structure Limits where
  /-- The names that may be asked for. -/
  asked : String → Prop
  /-- The names that may be set. -/
  set : String → Prop
  /-- A loop may be left. -/
  leaving : Prop
  /-- All bindings may be asked for at once. -/
  whole : Prop
  /-- The names that may be bound where all bindings are asked for. -/
  bound : String → Prop
  bound_of_set : ∀ {x}, set x → bound x

namespace Limits

/-- The query stays within the limits. -/
def Allows (L : Limits) : Query → Prop
  | .path p => (p = wholeContext → L.whole) ∧ (p ≠ wholeContext → ∀ x ∈ pathNames p, L.asked x)
  | .outside => False

/-- The limits in the rounds of a loop. All bindings may be asked for only if the loop is `clear`,
that is, if it binds no name beyond the limits. -/
def under (L : Limits) (clear : Bool) : Limits := { L with whole := clear = true ∧ L.whole }

end Limits

/-- The node itself stays within the limits, and the rounds of a loop do not ask for all bindings if
the loop binds a name beyond the limits. -/
structure Node.Within (L : Limits) (n : Node) : Prop where
  asks : ∀ q ∈ n.queries, L.Allows q
  binds : ∀ x ∈ n.binds, L.set x
  rounds : (∀ x ∈ n.items, L.bound x) ∨ ∀ m ∈ n.rounds, .path wholeContext ∉ m.queries
  leaves : n.leaves = true → L.leaving

/-- A node that does not ask for all bindings stays within the limits in any loop. -/
theorem Node.Within.under {L : Limits} {n : Node} (h : n.Within L) {clear : Bool}
    (hclear : clear = true ∨ .path wholeContext ∉ n.queries) : n.Within (L.under clear) where
  asks := fun q hq => by
    have hallows := h.asks q hq
    cases q with
    | outside => exact hallows
    | path p =>
      exact ⟨fun hp => ⟨hclear.resolve_right fun hn => hn (hp ▸ hq), hallows.1 hp⟩, hallows.2⟩
  binds := h.binds
  rounds := h.rounds
  leaves := h.leaves

/-- The rounds of a loop stay within their limits. -/
theorem Node.Within.exists_under {L : Limits} {n : Node} (h : n.Within L)
    (hrounds : ∀ m ∈ n.rounds, m.Within L) : ∃ clear : Bool,
      (clear = true → ∀ x ∈ n.items, L.bound x) ∧ ∀ m ∈ n.rounds, m.Within (L.under clear) := by
  rcases h.rounds with hitems | hqueries
  · exact ⟨true, fun _ => hitems, fun m hm => (hrounds m hm).under (.inl rfl)⟩
  · exact ⟨false, nofun, fun m hm => (hrounds m hm).under (.inr (hqueries m hm))⟩

/-! ## Relations between scopes -/

/-- The scopes have the same bindings, and keep them when loops are entered that bind names such
that `bound`. -/
def SameBindings (bound : String → Prop) (a b : Scope) : Prop :=
  ∀ z, a.over? z = b.over? z ∧ Fields.get? z a.context = Fields.get? z b.context ∨
    ¬bound z ∧
      (a.over? z <|> Fields.get? z a.context) = (b.over? z <|> Fields.get? z b.context)

/-- Scopes that are related by `P` cannot be told apart by what is asked for, and stay related when
a name is bound. -/
structure Simulation (L : Limits) (P : Scope → Scope → Prop) : Prop where
  find? : ∀ {a b q}, P a b → L.asked (root q) → a.find? q = b.find? q
  whole : ∀ {a b}, P a b → L.whole → SameBindings L.bound a b
  assign : ∀ {a b name}, P a b → L.set name → ∀ v, P (a.assign name v) (b.assign name v)
  assignGlobal : ∀ {a b name}, P a b → L.set name → ∀ v,
    P (a.assignGlobal name v) (b.assignGlobal name v)
  inLoop : ∀ {a b}, P a b → L.leaving → a.inLoop = b.inLoop

theorem Simulation.under {L : Limits} {P : Scope → Scope → Prop} (h : Simulation L P)
    (clear : Bool) : Simulation (L.under clear) P where
  find? := h.find?
  whole := fun hab hwhole => h.whole hab hwhole.2
  assign := h.assign
  assignGlobal := h.assignGlobal
  inLoop := h.inLoop

/-- The loop binds no other names. -/
def LoopFrame.Within (bound : String → Prop) (f : LoopFrame) : Prop :=
  ∀ z, (f.bound? z).isSome → bound z

/-- The scopes are in the same rounds of loops, and what is around these is related. Clear rounds
bind only names such that `bound`. -/
inductive Under (bound : String → Prop) (P : Scope → Scope → Prop) :
    List Bool → Scope → Scope → Prop where
  | base {a b : Scope} (h : P a b) : Under bound P [] a b
  | enter {clear : Bool} {rounds : List Bool} {a b : Scope} {f : LoopFrame}
    (hf : clear = true → f.Within bound) (h : Under bound P rounds a b) :
    Under bound P (clear :: rounds) (a.enter f) (b.enter f)

theorem Scope.find?_enter (sc : Scope) (f : LoopFrame) (p : List Char) :
    (sc.enter f).find? p = (f.find? p <|> sc.find? p) := by
  unfold Scope.find? Scope.enter
  rw [List.findSome?_cons]
  cases f.find? p <;> rfl

/-- A round in which nothing is set yet binds the item and the key. -/
theorem LoopFrame.within_fresh {bound : String → Prop} {f : LoopFrame} (hnames : f.names = [])
    (h : ∀ x ∈ f.item :: f.key.toList, bound x) : f.Within bound := fun z hz => by
  rw [bound?, hnames] at hz
  split at hz
  · next hkey => exact h z (by simp [hkey])
  · split at hz
    · next hitem => exact h z (by simp [hitem])
    · simp [Fields.get?] at hz

theorem LoopFrame.Within.insert {bound : String → Prop} {f : LoopFrame} (hf : f.Within bound)
    {name : String} (hname : bound name) (v : Value) :
    LoopFrame.Within bound { f with names := Fields.insert name v f.names } := fun z hz => by
  have hold := hf z
  unfold bound? at hold hz
  by_cases hz' : z = name
  · rwa [hz']
  · rw [Fields.get?_insert, if_neg hz'] at hz
    exact hold hz

namespace Under

variable {L : Limits} {P : Scope → Scope → Prop} {rounds : List Bool} {a b : Scope}

/-- The names of a round are gone when it is left. -/
theorem leave {clear : Bool} (h : Under L.bound P (clear :: rounds) a b) :
    Under L.bound P rounds a.leave b.leave := by
  cases h with
  | enter _ h => exact h

variable (hP : Simulation L P) (h : Under L.bound P rounds a b)
include hP h

/-- A path whose first name is asked for is found alike. -/
theorem find? {q : List Char} (hq : L.asked (root q)) : a.find? q = b.find? q := by
  induction h with
  | base h => exact hP.find? h hq
  | enter _ _ ih => rw [Scope.find?_enter, Scope.find?_enter, ih]

/-- A clear loop binds the same in both scopes, below what lies over them. -/
theorem sameBindings (hwhole : L.whole) (hclear : ∀ clear ∈ rounds, clear = true) :
    SameBindings L.bound a b := by
  induction h with
  | base h => exact hP.whole h hwhole
  | @enter clear rounds a b f hf _ ih =>
    rw [List.forall_mem_cons] at hclear
    intro z
    have hcontext : (a.enter f).context = a.context ∧ (b.enter f).context = b.context := ⟨rfl, rfl⟩
    rw [Scope.over?_enter, Scope.over?_enter, hcontext.1, hcontext.2]
    rcases ih hclear.2 z with ⟨hover, hsame⟩ | ⟨hfree, hsame⟩
    · exact .inl ⟨by rw [hover], hsame⟩
    · have hnone : f.bound? z = none := by
        cases hz : f.bound? z with
        | none => rfl
        | some v => exact absurd (hf hclear.1 z (by rw [hz]; rfl)) hfree
      exact .inr ⟨hfree, by simpa [hnone] using hsame⟩

/-- A name that may be set is set on both sides. -/
theorem assignGlobal {name : String} (hname : L.set name) (v : Value) :
    Under L.bound P rounds (a.assignGlobal name v) (b.assignGlobal name v) := by
  induction h with
  | base h => exact .base (hP.assignGlobal h hname v)
  | enter hf _ ih => exact .enter hf ih

/-- A name is bound in the innermost round, which is the same in both scopes. -/
theorem assign {name : String} (hname : L.set name) (v : Value) :
    Under L.bound P rounds (a.assign name v) (b.assign name v) := by
  cases h with
  | base h => exact .base (hP.assign h hname v)
  | enter hf h => exact .enter (fun hclear => (hf hclear).insert (L.bound_of_set hname) v) h

theorem inLoop (hleaving : L.leaving) : a.inLoop = b.inLoop := by
  cases h with
  | base h => exact hP.inLoop h hleaving
  | enter _ h => rfl

/-- Within the limits the scopes read the same. -/
theorem readAlike (hclear : L.whole → ∀ clear ∈ rounds, clear = true) {qs : List Query}
    (hqs : ∀ q ∈ qs, L.Allows q) : ReadAlike a b qs := by
  intro q hq
  cases q with
  | outside => exact (hqs .outside hq).elim
  | path p =>
    obtain ⟨hwhole, hnames⟩ := hqs (.path p) hq
    refine ⟨p, rfl, ?_⟩
    by_cases hp : p = wholeContext
    · rw [hp]
      exact Scope.read_whole_congr fun z => by
        rcases h.sameBindings hP (hwhole hp) (hclear (hwhole hp)) z with ⟨hover, hsame⟩ | ⟨-, hsame⟩
        · rw [hover, hsame]
        · exact hsame
    · exact Scope.read_congr hp fun _ hq => h.find? hP (hnames hp _ hq)

end Under

/-! ## Renderings that go the same way -/

/-- Both renderings fail with one fault, or give one text and end alike. -/
inductive SameOutcome (Q : Scope → Scope → Prop) :
    Except Fault Outcome → Except Fault Outcome → Prop where
  | error (fault : Fault) : SameOutcome Q (.error fault) (.error fault)
  | ok {a b : Scope} (h : Q a b) (text : String) (flow : Flow) :
    SameOutcome Q (.ok ⟨a, text, flow⟩) (.ok ⟨b, text, flow⟩)

theorem SameOutcome.bind {Q Q' : Scope → Scope → Prop} {x y : Except Fault Outcome}
    {f g : Outcome → Except Fault Outcome} (h : SameOutcome Q x y)
    (hf : ∀ {a b} text flow, Q a b → SameOutcome Q' (f ⟨a, text, flow⟩) (g ⟨b, text, flow⟩)) :
    SameOutcome Q' (x >>= f) (y >>= g) := by
  cases h with
  | error fault => exact .error fault
  | ok h text flow => exact hf text flow h

/-- Something that goes the same way first, and then the rest. -/
theorem SameOutcome.bind_eq {Q : Scope → Scope → Prop} {α : Type} {x y : Except Fault α}
    {f g : α → Except Fault Outcome} (h : x = y) (hf : ∀ v, SameOutcome Q (f v) (g v)) :
    SameOutcome Q (x >>= f) (y >>= g) := by
  subst h
  cases x with
  | error fault => exact .error fault
  | ok v => exact hf v

/-- A rendering goes the same way in related scopes, in any number of loops. They are all clear if
the rendering may ask for all bindings. -/
def GoesAlike (L : Limits) (P : Scope → Scope → Prop) (r : Rendering) : Prop :=
  ∀ ⦃rounds a b⦄, (L.whole → ∀ clear ∈ rounds, clear = true) → Under L.bound P rounds a b →
    SameOutcome (Under L.bound P rounds) (r a) (r b)

section

variable {L : Limits} {P : Scope → Scope → Prop}

theorem goesAlike_nothing : GoesAlike L P nothing := fun _ _ _ _ h => .ok h "" .next

theorem goesAlike_written (s : String) : GoesAlike L P (written s) := fun _ _ _ _ h =>
  .ok h s .next

/-- Rounds go alike if the body does within the limits of a loop. -/
theorem goesAlike_rounds {body : Rendering} (clear : Bool)
    (hbody : GoesAlike (L.under clear) P body) :
    ∀ (items : List (String × Value)) (frame : LoopFrame),
      (clear = true → ∀ x ∈ frame.item :: frame.key.toList, L.bound x) →
        GoesAlike L P (rounds body frame items)
  | [], _, _ => goesAlike_nothing
  | (key, v) :: items, frame, hframe => fun _ _ _ hclear h => by
    have hrest := goesAlike_rounds clear hbody items { frame with index := frame.index + 1 } hframe
    have hfresh : clear = true →
        LoopFrame.Within L.bound { frame with currentKey := key, current := v, names := [] } :=
      fun hclear => LoopFrame.within_fresh rfl (hframe hclear)
    have hround := hbody (fun hwhole => List.forall_mem_cons.mpr ⟨hwhole.1, hclear hwhole.2⟩)
      (.enter hfresh h)
    unfold rounds
    refine hround.bind fun text flow hround => ?_
    cases flow with
    | stop => exact .ok hround.leave text .next
    | next | skip =>
      exact (hrest hclear hround.leave).bind fun text' _ h' => .ok h' (text ++ text') .next

theorem goesAlike_leaveBy (hP : Simulation L P) (flow : Flow) (word : String)
    (hleaving : L.leaving) : GoesAlike L P (leaveBy flow word) := fun _ _ _ _ h => by
  have hloop := h.inLoop hP hleaving
  unfold leaveBy
  rw [hloop]
  split
  · exact .ok h "" flow
  · exact .error _

variable [World]

/-- What the world says does not depend on the scope. -/
theorem goesAlike_shared (n : Node) : GoesAlike L P (shared n) := fun _ _ _ _ h =>
  .bind_eq rfl fun text => .ok h text .next

theorem goesAlike_runLoop (hP : Simulation L P) {key : Option String} {item : String}
    {container : Expr} {body otherwise : Rendering}
    (hcontainer : ∀ q ∈ container.queries, L.Allows q) (clear : Bool)
    (hitems : clear = true → ∀ x ∈ item :: key.toList, L.bound x)
    (hbody : GoesAlike (L.under clear) P body) (hotherwise : GoesAlike L P otherwise) :
    GoesAlike L P (runLoop key item container body otherwise) := fun _ _ _ hclear h => by
  have hvalue := (Expr.congr container (h.readAlike hP hclear hcontainer)).value
  unfold runLoop
  refine .bind_eq rfl fun name => .bind_eq hvalue fun v => .bind_eq rfl fun items => ?_
  split
  · exact hotherwise hclear h
  · exact goesAlike_rounds clear hbody _ _ hitems hclear h

/-- Filters on a text read the scope only by their arguments. -/
theorem filterText_congr {a b : Scope} {f : Call} (h : ReadAlike a b f.queries) (text : String) :
    filterText a text f = filterText b text f := by
  obtain ⟨name, args⟩ := f
  rw [Call.queries] at h
  rw [filterText, filterText, (args_congr args h).1]

mutual

/-- A node goes the same way where names lead to the same. -/
theorem Node.goesAlike : ∀ (n : Node) {L : Limits}, Simulation L P → (∀ m ∈ n.parts, m.Within L) →
    GoesAlike L P n.render
  | .text s, _, _, _ => by
    rw [Node.render]
    exact goesAlike_written _
  | .comment d, _, _, _ => by
    rw [Node.render]
    exact goesAlike_nothing
  | .raw first s last, _, _, _ => by
    rw [Node.render]
    exact goesAlike_written _
  | .value d e, _, hP, hn => fun _ _ _ hclear h => by
    have hwithin := hn (.value d e) (by simp [Node.parts])
    have hvalue := (Expr.congr e (h.readAlike hP hclear hwithin.asks)).value
    simp only [Node.render]
    exact .bind_eq hvalue fun v => .ok h v.render .next
  | .assign d global name e, L, hP, hn => fun _ _ _ hclear h => by
    have hwithin := hn (.assign d global name e) (by simp [Node.parts])
    have hvalue := (Expr.congr e (h.readAlike hP hclear hwithin.asks)).value
    have hset : L.set name := hwithin.binds name (by simp [Node.binds])
    simp only [Node.render]
    refine .bind_eq hvalue fun v => ?_
    cases global with
    | true => exact .ok (h.assignGlobal hP hset v) "" .next
    | false => exact .ok (h.assign hP hset v) "" .next
  | .insert d names optional, _, _, hn => by
    have hasks := (hn (.insert d names optional) (by simp [Node.parts])).asks
    have hother : documentName ∉ names := fun hmem => hasks .outside (by simp [Node.queries, hmem])
    rw [Node.render]
    simp only [if_neg hother]
    cases optional with
    | true => exact goesAlike_nothing
    | false => exact fun _ _ _ _ _ => .error _
  | .block first name body last, _, hP, hn => fun _ _ _ hclear h => by
    rw [Node.parts, List.forall_mem_cons] at hn
    simp only [Node.render]
    exact renderAll_goesAlike body hP hn.2 hclear h
  | .parent d, _, _, _ => fun _ _ _ _ _ => by
    simp only [Node.render]
    exact .error _
  | .define first name arguments body last, _, _, _ => by
    rw [Node.render]
    exact goesAlike_shared _
  | .load d template space, _, _, _ => by
    rw [Node.render]
    exact goesAlike_shared _
  | .filtered first f body last, _, hP, hn => fun _ _ _ hclear h => by
    rw [Node.parts, List.forall_mem_cons] at hn
    simp only [Node.render]
    refine (renderAll_goesAlike body hP hn.2 hclear h).bind fun text flow hout => ?_
    have hfilter := filterText_congr (hout.readAlike hP hclear hn.1.asks) text
    exact .bind_eq hfilter fun v => .ok hout v.render .next
  | .loop first key item container body none last, _, hP, hn => by
    rw [Node.parts, List.forall_mem_cons] at hn
    obtain ⟨clear, hitems, hbody⟩ := hn.1.exists_under hn.2
    rw [Node.render]
    exact goesAlike_runLoop hP hn.1.asks clear hitems
      (renderAll_goesAlike body (hP.under clear) hbody) goesAlike_nothing
  | .loop first key item container body (some otherwise) last, _, hP, hn => by
    rw [Node.parts, List.forall_mem_cons, List.forall_mem_append] at hn
    obtain ⟨clear, hitems, hbody⟩ := hn.1.exists_under hn.2.1
    rw [Node.render]
    exact goesAlike_runLoop hP hn.1.asks clear hitems
      (renderAll_goesAlike body (hP.under clear) hbody) (renderAll_goesAlike otherwise hP hn.2.2)
  | .branch arms none last, _, hP, hn => by
    rw [Node.parts, List.forall_mem_cons] at hn
    rw [Node.render]
    exact renderArms_goesAlike goesAlike_nothing arms hP hn.1.asks hn.2
  | .branch arms (some (d, otherwise)) last, _, hP, hn => by
    rw [Node.parts, List.forall_mem_cons, List.forall_mem_append] at hn
    rw [Node.render]
    exact renderArms_goesAlike (renderAll_goesAlike otherwise hP hn.2.2) arms hP hn.1.asks hn.2.1
  | .stop d, _, hP, hn => by
    rw [Node.render]
    exact goesAlike_leaveBy hP _ _ ((hn (.stop d) (by simp [Node.parts])).leaves rfl)
  | .skip d, _, hP, hn => by
    rw [Node.render]
    exact goesAlike_leaveBy hP _ _ ((hn (.skip d) (by simp [Node.parts])).leaves rfl)

theorem renderAll_goesAlike : ∀ (nodes : List Node) {L : Limits}, Simulation L P →
    (∀ m ∈ partsAll nodes, m.Within L) → GoesAlike L P fun sc => renderAll nodes sc
  | [], _, _, _ => fun _ _ _ hclear h => by
    simp only [renderAll]
    exact goesAlike_nothing hclear h
  | n :: rest, _, hP, hn => fun _ _ _ hclear h => by
    rw [partsAll, List.forall_mem_append] at hn
    simp only [renderAll]
    refine (Node.goesAlike n hP hn.1 hclear h).bind fun text flow hout => ?_
    cases flow with
    | next =>
      exact (renderAll_goesAlike rest hP hn.2 hclear hout).bind fun text' flow' h' =>
        .ok h' (text ++ text') flow'
    | stop | skip => exact .ok hout text _

theorem renderArms_goesAlike {L : Limits} {otherwise : Rendering}
    (hotherwise : GoesAlike L P otherwise) :
    ∀ arms : List (Dashes × Expr × List Node), Simulation L P →
      (∀ q ∈ (arms.flatMap fun arm => arm.2.1.queries), L.Allows q) →
        (∀ m ∈ partsArms arms, m.Within L) →
          GoesAlike L P (renderArms otherwise arms)
  | [], _, _, _ => fun _ _ _ hclear h => by
    simp only [renderArms]
    exact hotherwise hclear h
  | (d, e, body) :: arms, hP, he, hn => fun _ _ _ hclear h => by
    rw [partsArms, List.forall_mem_append] at hn
    rw [List.flatMap_cons, List.forall_mem_append] at he
    have htruth := (Expr.congr e (h.readAlike hP hclear he.1)).truth
    simp only [renderArms]
    refine .bind_eq htruth fun holds => ?_
    cases holds with
    | true => exact renderAll_goesAlike body hP hn.1 hclear h
    | false => exact renderArms_goesAlike hotherwise arms hP he.2 hn.2 hclear h

end

end

/-! ## Templates -/

section

variable [World]

/-- Related scopes give one text, or one fault. -/
theorem render_of_goesAlike {L : Limits} {P : Scope → Scope → Prop} {nodes : List Node}
    {a b : Scope} (h : GoesAlike L P fun sc => renderAll nodes sc) (hab : P a b) :
    (renderAll nodes a).map Outcome.text = (renderAll nodes b).map Outcome.text := by
  have hout : SameOutcome (Under L.bound P []) (renderAll nodes a) (renderAll nodes b) :=
    h (fun _ => List.forall_mem_nil _) (.base hab)
  generalize renderAll nodes a = x at hout ⊢
  generalize renderAll nodes b = y at hout ⊢
  cases hout with
  | error fault => rfl
  | ok _ text flow => rfl

theorem render_eq_map (t : Template) (c : Context) :
    t.render c = match (renderAll t.nodes ⟨[], [], c⟩).map Outcome.text with
      | .ok text => .ok text
      | .error fault => .error (.render fault) := by
  unfold render
  cases renderAll t.nodes ⟨[], [], c⟩ <;> rfl

end

/-- A path is looked up by its first name. -/
theorem findIn?_congr {names names' : Fields Value} {p : List Char}
    (h : Fields.get? (root p) names = Fields.get? (root p) names') :
    findIn? names p = findIn? names' p := by
  unfold root at h
  unfold findIn?
  split
  · next hp => simpa [hp] using h
  · next hp => simp only [hp] at h; rw [h]

/-- Contexts that agree on some names, where nothing else can tell them apart. -/
def AgreeOn (asked : String → Prop) (a b : Scope) : Prop :=
  a.loops = [] ∧ b.loops = [] ∧ a.names = b.names ∧
    ∀ x, asked x → Fields.get? x a.context = Fields.get? x b.context

/-- What may be asked for in contexts that agree on some names, and nothing more. -/
def agreeLimits (asked : String → Prop) : Limits where
  asked := asked
  set := fun _ => True
  leaving := True
  whole := False
  bound := fun _ => True
  bound_of_set := id

theorem simulation_agreeOn (asked : String → Prop) :
    Simulation (agreeLimits asked) (AgreeOn asked) where
  find? := fun {a b q} ⟨ha, hb, hnames, hcontext⟩ hq => by
    simp only [Scope.find?, ha, hb, hnames, findIn?_congr (hcontext _ hq)]
  whole := fun _ hwhole => hwhole.elim
  assign := fun {a b name} ⟨ha, hb, hnames, hcontext⟩ _ v => by
    simp only [AgreeOn, Scope.assign, ha, hb, hnames, true_and]
    exact hcontext
  assignGlobal := fun {a b name} ⟨ha, hb, hnames, hcontext⟩ _ v =>
    ⟨ha, hb, by simp only [Scope.assignGlobal, hnames], hcontext⟩
  inLoop := fun {a b} ⟨ha, hb, _, _⟩ _ => by simp only [Scope.inLoop, ha, hb]

/-- A template is rendered to the same in contexts that agree on the names that it asks for, if it
asks for names alone. -/
theorem render_of_agree [World] {t : Template} (hwhole : .path wholeContext ∉ t.queries)
    (houtside : .outside ∉ t.queries) {c c' : Context}
    (h : ∀ x ∈ t.names, Fields.get? x c = Fields.get? x c') : t.render c = t.render c' := by
  have hallows : ∀ q ∈ t.queries, (agreeLimits (· ∈ t.names)).Allows q := fun q hq => by
    cases q with
    | outside => exact houtside hq
    | path p => exact ⟨fun hp => hwhole (hp ▸ hq), fun _ x hx => List.mem_flatMap.mpr ⟨_, hq, hx⟩⟩
  have hparts : ∀ n ∈ partsAll t.nodes, n.Within (agreeLimits (· ∈ t.names)) := fun n hn => {
    asks := fun q hq => hallows q (List.mem_flatMap.mpr ⟨n, hn, hq⟩)
    binds := fun _ _ => trivial
    rounds := .inl fun _ _ => trivial
    leaves := fun _ => trivial }
  have halike := renderAll_goesAlike t.nodes (simulation_agreeOn (· ∈ t.names)) hparts
  have hscopes : AgreeOn (· ∈ t.names) ⟨[], [], c⟩ ⟨[], [], c'⟩ := ⟨rfl, rfl, rfl, h⟩
  rw [render_eq_map, render_eq_map, render_of_goesAlike halike hscopes]

end UserConfigs.Template
