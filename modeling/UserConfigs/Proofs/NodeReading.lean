import UserConfigs.Proofs.Agreement
import UserConfigs.Proofs.Carrying

/-!
# Nodes where another text follows

A body is read up to a tag that closes or divides it, or to the end (`EndsBody`). It is read the
same where another text follows, if that starts with such a tag (`Follows`, `bodyCarries`, by
induction on the depth of bodies). Each rule for a node reads only texts with a head of its own and
carries on what it reads (`Rule`), and a tag that ends a body has no head of a node
(`node_of_endsBody`). The paths of the nodes stand in the source (`Node.IsFrom`).

Comments and raw text run up to their end tag, which the closing brace of the tag settles
(`EndsAtBrace`). Literal text stops at the next sign. With an opening brace at its end it would make
a sign with what follows, so the source may not end in one.
-/

namespace UserConfigs.Template

open Reader

/-! ## Nodes from a source -/

/-- All paths in the node stand in the source. -/
def Node.IsFrom (S : List Char) (n : Node) : Prop := ∀ m ∈ n.parts, ∀ q ∈ m.queries, q.IsFrom S

section

variable {S : List Char}

/-- A node without a body. -/
theorem Node.isFrom_leaf {n : Node} (hparts : n.parts = [n]) (h : ∀ q ∈ n.queries, q.IsFrom S) :
    n.IsFrom S := by
  rw [Node.IsFrom, hparts]
  exact List.forall_mem_singleton.mpr h

/-- A node with one body. -/
theorem Node.isFrom_section {n : Node} {body : List Node} (hparts : n.parts = n :: partsAll body)
    (h : ∀ q ∈ n.queries, q.IsFrom S) (hbody : ∀ m ∈ body, m.IsFrom S) : n.IsFrom S := by
  rw [Node.IsFrom, hparts, List.forall_mem_cons, forall_mem_partsAll]
  exact ⟨h, hbody⟩

/-- A tag that inserts a template asks for no path. -/
theorem isFrom_insert (d : Dashes) (names : List String) (optional : Bool) :
    (Node.insert d names optional).IsFrom S := by
  refine Node.isFrom_leaf rfl fun q hq => ?_
  rw [Node.queries] at hq
  split at hq
  · rw [List.mem_singleton.mp hq]
    trivial
  · simp at hq

end

/-- What is read in the first body is read alike in the second one. -/
inductive Setting.Keeps : Setting → Setting → Prop where
  | same (place : Setting) : Keeps place place
  /-- In a loop there are tags besides those that are tags everywhere. -/
  | loop : Keeps .plain .loop

/-! ## Statements without a body -/

/-- The starts of what closes or divides a body. -/
def closingHeads : List Head :=
  [.statement "endblock", .statement "endmacro", .statement "endfilter", .statement "endfor",
    .statement "endif", .statement "else", .statement "elif"]

/-- What closes or divides a body starts here, or the text ends. -/
def EndsBody (t : List Char) : Prop := t = [] ∨ head t ∈ closingHeads

namespace Twin

variable {S R : List Char} {k : Nat}

theorem templateName : Twin S R k true templateName templateName fun _ => True :=
  quotedText.andThen fun _ _ => .pure trivial

/-- Texts in brackets, in which no brace is looked for. -/
theorem templateNames : Twin S R k true templateNames templateNames fun _ => True := by
  have hname := templateName.andThen (S := S) (R := R) (k := k) fun n _ =>
    gap.bind fun _ _ => (Twin.exact (w := ",") (by decide)).loose.bind fun _ _ =>
      gap.bind fun _ _ => Twin.pure (a := n) (G := fun _ => True) trivial
  exact (Twin.exact (by decide)).andThen fun _ _ => gap.bind fun _ _ => hname.many.bind fun _ _ =>
    templateName.maybe.bind fun _ _ => gap.bind fun _ _ =>
      (Twin.exact (by decide)).loose.bind fun _ _ => .pure trivial

/-- The end of a tag is seen in any case, for a closing brace comes. -/
theorem beforeClose : Twin S R k false beforeClose beforeClose fun _ => True := by
  have hother : ∀ {c : Char} (s : List Char), c ≠ '\x7d' → c ≠ '-' →
      Template.beforeClose (c :: s) = none := fun s hbrace hdash => by
    unfold Template.beforeClose
    split <;> simp_all
  have hdashed : ∀ {c : Char} (s : List Char), c ≠ '\x7d' →
      Template.beforeClose ('-' :: c :: s) = none := fun s hbrace => by
    unfold Template.beforeClose
    split <;> simp_all
  have hquote : ∀ {q : Char}, isQuote q = true → q ≠ '\x7d' ∧ q ≠ '-' := fun {q} hq => by
    constructor <;>
    · rintro rfl
      exact absurd hq (by decide)
  refine ⟨fun {s a r} _ hp => ?_, fun {s} _ _ hfits => ?_⟩
  · have hr : s = r := by
      unfold Template.beforeClose at hp
      split at hp <;> simp_all
    exact ⟨trivial, [], .nil, nofun, hr⟩
  · rcases hfits with rfl | ⟨w, t, hw, rfl⟩
    · simp
    -- the first two characters settle it
    · cases hw with
      | nil => rfl
      | quoted hq _ _ =>
        simp only [List.cons_append, hother _ (hquote hq).1 (hquote hq).2, Option.map_none]
      | @char c w _ hbrace hw =>
        by_cases hdash : c = '-'
        · subst hdash
          cases hw with
          | nil => rfl
          | char _ hbrace _ => simp only [List.cons_append, hdashed _ hbrace, Option.map_none]
          | quoted hq _ _ => simp only [List.cons_append, hdashed _ (hquote hq).1, Option.map_none]
        · simp only [List.cons_append, hother _ hbrace hdash, Option.map_none]

/-- The call for the block that is overridden, which is one only in front of the end of a tag. -/
theorem superCall : Twin S R k true superCall superCall fun _ => True :=
  (Twin.exact (by decide)).andThen fun _ _ => gap.bind fun _ _ => beforeClose

/-- A literal asks for no path. -/
theorem literalTerm : Twin S R k true literalTerm literalTerm fun _ => True :=
  (boolLiteral.orElse <| textLiteral.orElse <| floatLiteral.orElse wholeLiteral).mono
    (Nat.le_refl k) fun _ _ => trivial

theorem parameter : Twin S R k true parameter parameter fun _ => True :=
  name.andThen fun _ _ => (twin_afterSign (by decide) literalTerm).maybe.bind fun _ _ =>
    .pure trivial

/-- The arguments of a macro have literals for values, so they ask for no path. -/
theorem parameters : Twin S R k true parameters parameters fun _ => True :=
  parameter.andThen fun _ _ => (twin_afterSign (by decide) parameter).many.bind fun _ _ =>
    gap.bind fun _ _ => (Twin.exact (by decide)).given.bind fun _ _ => .pure trivial

end Twin

section

variable {S R : List Char} {k : Nat} {exprs exprs' : Level}
  (hexprs : LevelTwin S R (S.length + 1) exprs exprs')

/-- Tags without a body are sealed by their closing signs. -/
theorem seals_insertTag : Seals S R k Anywhere insertTag insertTag (Node.IsFrom S) :=
  (Twin.openWord (by decide)).bind_seals fun _ _ =>
    ((Twin.templateName.map fun _ _ => trivial).orElse Twin.templateNames).bind_seals fun _ _ =>
      Twin.gap.bind_seals fun _ _ => (Twin.exact (by decide)).given.bind_seals fun _ _ =>
        seals_closeWord.pure fun _ _ => isFrom_insert _ _ _

theorem seals_loadTag : Seals S R k Anywhere loadTag loadTag (Node.IsFrom S) :=
  (Twin.openWord (by decide)).bind_seals fun _ _ => Twin.templateName.bind_seals fun _ _ =>
    Twin.space.bind_seals fun _ _ => (Twin.exact (by decide)).bind_seals fun _ _ =>
      Twin.space.bind_seals fun _ _ => Twin.name.bind_seals fun _ _ =>
        seals_closeWord.pure fun _ _ => Node.isFrom_leaf rfl nofun

include hexprs

/-- Inside a block there is one more thing that a tag around a value may hold. -/
theorem seals_valueTag {place place' : Setting} (hplace : place.Keeps place') :
    Seals S R k Anywhere (valueTag exprs place) (valueTag exprs' place') (Node.IsFrom S) := by
  have hsuper : Twin S R (S.length + 1) true
      (if place = .block then (do superCall; pure none) else failure)
      (if place' = .block then (do superCall; pure none) else failure)
      fun o : Option Expr => ∀ e ∈ o, e.IsFrom S := by
    cases hplace with
    | same place => exact .ite (Twin.superCall.andThen fun _ _ => .pure nofun) .failure
    | loop => exact .failure
  have hvalue : Twin S R (S.length + 1) true (some <$> exprs.value) (some <$> exprs'.value)
      fun o : Option Expr => ∀ e ∈ o, e.IsFrom S :=
    hexprs.value.map fun e he f hf => Option.some.inj hf ▸ he
  refine Twin.openValue.bind_seals fun _ _ => Twin.gap.bind_seals fun _ _ =>
    (hsuper.orElse hvalue).bind_seals fun o ho => Twin.gap.bind_seals fun _ _ =>
      seals_closeValue.pure fun _ _ => ?_
  cases o with
  | none => exact Node.isFrom_leaf rfl nofun
  | some e => exact Node.isFrom_leaf rfl (ho e rfl)

/-- An assignment has the paths of its value. -/
theorem seals_assignTag {w : String} (hw : w.toList ≠ [] ∧ w.toList.all isPassed = true)
    (global : Bool) :
    Seals S R k Anywhere (assignTag exprs w global) (assignTag exprs' w global) (Node.IsFrom S) :=
  (Twin.openWord hw).bind_seals fun _ _ => Twin.name.bind_seals fun _ _ =>
    Twin.gap.bind_seals fun _ _ => (Twin.exact (by decide)).bind_seals fun _ _ =>
      Twin.gap.bind_seals fun _ _ => hexprs.value.bind_seals fun _ he =>
        seals_closeWord.pure fun _ _ => Node.isFrom_leaf rfl he

end

/-! ## Statements with a body -/

/-- Bodies are read again, where what follows closes or divides them. -/
def BodyCarries (S R : List Char) (k : Nat) (body body' : Setting → Reader (List Node)) : Prop :=
  ∀ ⦃place place' : Setting⦄, place.Keeps place' →
    Carries S R k EndsBody false (body place) (body' place') fun nodes => ∀ n ∈ nodes, n.IsFrom S

section

variable {S R : List Char} {k : Nat} {exprs exprs' : Level}
  {body body' : Setting → Reader (List Node)}
  (hexprs : LevelTwin S R (S.length + 1) exprs exprs') (hbody : BodyCarries S R k body body')

/-- What a statement reads that closes or divides a body. -/
theorem endsBody_of_readsAt {α : Type} {H : List Head} {p : Reader α} (h : ReadsAt H p)
    (hH : ∀ x ∈ H, x ∈ closingHeads) {t : List Char} {x : α × List Char} (hx : p t = some x) :
    EndsBody t :=
  .inr (hH _ (h hx))

/-- The end of a section, with or without the name of what ends. -/
theorem seals_endTag {w : String} (hw : w.toList ≠ [] ∧ w.toList.all isPassed = true) :
    Seals S R k Anywhere (endTag w) (endTag w) fun _ => True :=
  Twin.openStatement.bind_seals fun _ _ => Twin.gap.bind_seals fun _ _ =>
    (Twin.exact hw).bind_seals fun _ _ =>
      (Twin.space.andThen fun _ _ => Twin.name.loose).maybe.bind_seals fun _ _ =>
        Twin.gap.bind_seals fun _ _ => seals_closeStatement.pure fun _ _ => trivial

include hbody in
/-- A block has the paths of its body. -/
theorem seals_blockSection : Seals S R (k + 1) Anywhere (blockSection body) (blockSection body')
    (Node.IsFrom S) :=
  (Twin.openWord (by decide)).bind_seals fun _ _ => Twin.name.bind_seals fun _ _ =>
    seals_closeWord.bind (fun _ _ _ _ => trivial) fun _ _ => (hbody (.same .block)).bind
      (fun _ _ _ => endsBody_of_readsAt ((readsAt_endTag (by decide)).bind _) (by decide))
        fun _ hnodes => (seals_endTag (by decide)).toCarries.loose.bind_pure fun _ _ =>
          Node.isFrom_section rfl nofun hnodes

include hbody in
/-- A macro has the paths of its body. -/
theorem seals_defineSection : Seals S R (k + 1) Anywhere (defineSection body)
    (defineSection body') (Node.IsFrom S) :=
  (Twin.openWord (by decide)).bind_seals fun _ _ => Twin.name.bind_seals fun _ _ =>
    Twin.gap.bind_seals fun _ _ => (Twin.exact (by decide)).bind_seals fun _ _ =>
      Twin.gap.bind_seals fun _ _ => Twin.parameters.maybe.bind_seals fun _ _ =>
        Twin.gap.bind_seals fun _ _ => (Twin.exact (by decide)).bind_seals fun _ _ =>
          seals_closeWord.bind (fun _ _ _ _ => trivial) fun _ _ => (hbody (.same .plain)).bind
            (fun _ _ _ => endsBody_of_readsAt ((readsAt_endTag (by decide)).bind _) (by decide))
              fun _ hnodes => (seals_endTag (by decide)).toCarries.loose.bind_pure fun _ _ =>
                Node.isFrom_section rfl nofun hnodes

include hexprs hbody

theorem seals_filterSection : Seals S R (k + 1) Anywhere (filterSection exprs body)
    (filterSection exprs' body') (Node.IsFrom S) := by
  have hfilter : Twin S R (S.length + 1) true exprs.filter exprs'.filter (Call.IsFrom S) :=
    hexprs.filter.mono (Nat.le_succ _) fun _ h => h
  refine (Twin.openWord (by decide)).bind_seals fun _ _ => hfilter.bind_seals fun f hf =>
    seals_closeWord.bind (fun _ _ _ _ => trivial) fun _ _ => (hbody (.same .plain)).bind
      (fun _ _ _ => endsBody_of_readsAt ((readsAt_wordTag (by decide)).bind _) (by decide))
        fun nodes hnodes => (seals_wordTag (by decide)).toCarries.loose.bind_pure fun _ _ => ?_
  exact Node.isFrom_section rfl hf hnodes

omit hbody in
theorem twin_loopContainer : Twin S R (S.length + 1) true (loopContainer exprs)
    (loopContainer exprs') (Expr.IsFrom S) :=
  (hexprs.sumFiltered.orElse hexprs.arrayFiltered).mono (Nat.le_succ _) fun _ h => h

omit hexprs hbody in
/-- A loop has the paths of its container and of its bodies. -/
theorem isFrom_loop {first last : Dashes} {key : Option String} {item : String} {container : Expr}
    {nodes : List Node} {otherwise : Option (List Node)} (hcontainer : container.IsFrom S)
    (hnodes : ∀ n ∈ nodes, n.IsFrom S) (hother : ∀ ns ∈ otherwise, ∀ n ∈ ns, n.IsFrom S) :
    (Node.loop first key item container nodes otherwise last).IsFrom S := by
  cases otherwise with
  | none => exact Node.isFrom_section rfl hcontainer hnodes
  | some ns =>
    rw [Node.IsFrom, Node.parts, List.forall_mem_cons, List.forall_mem_append, forall_mem_partsAll,
      forall_mem_partsAll]
    exact ⟨hcontainer, hnodes, hother ns rfl⟩

/-- The body of a loop ends at `else` or at `endfor`, whichever comes first. -/
theorem seals_loopSection : Seals S R (k + 1) Anywhere (loopSection exprs body)
    (loopSection exprs' body') (Node.IsFrom S) := by
  have hkey : Twin S R (S.length + 1) true (do exact ","; gap; name) (do exact ","; gap; name)
      fun x => IsIdentifier x :=
    (Twin.exact (by decide)).andThen fun _ _ => Twin.gap.bind fun _ _ => Twin.name.loose
  have hotherwise : Carries S R k EndsBody true (do let _ ← wordTag "else"; body .loop)
      (do let _ ← wordTag "else"; body' .loop) fun nodes => ∀ n ∈ nodes, n.IsFrom S :=
    (seals_wordTag (by decide)).toCarries.bind (fun _ _ _ _ => trivial) fun _ _ =>
      hbody (.same .loop)
  refine (Twin.openWord (by decide)).bind_seals fun _ _ => Twin.name.bind_seals fun first _ =>
    hkey.maybe.bind_seals fun second _ => Twin.space.bind_seals fun _ _ =>
      (Twin.exact (by decide)).bind_seals fun _ _ => Twin.space.bind_seals fun _ _ =>
        (twin_loopContainer hexprs).bind_seals fun container hcontainer =>
          seals_closeWord.bind (fun _ _ _ _ => trivial) fun _ _ => ?_
  refine (hbody (.same .loop)).bind (fun _ _ _ => endsBody_of_readsAt
    (((readsAt_wordTag (by decide)).bind _).maybe ((readsAt_wordTag (by decide)).bind _))
      (by decide)) fun nodes hnodes => ?_
  refine hotherwise.maybe_bind ((readsAt_wordTag (by decide)).bind _) (fun _ _ _ =>
    endsBody_of_readsAt ((readsAt_wordTag (by decide)).bind _) (by decide))
      ((readsAt_wordTag (by decide)).bind _) (by decide) fun otherwise hother => ?_
  refine (seals_wordTag (by decide)).toCarries.loose.bind_pure fun _ _ => ?_
  cases second <;> exact isFrom_loop hcontainer hnodes hother

omit hbody in
theorem seals_armOf {w : String} (hw : w.toList ≠ [] ∧ w.toList.all isPassed = true)
    {place place' : Setting} (hbody : Carries S R k EndsBody false (body place) (body' place')
      fun nodes => ∀ n ∈ nodes, n.IsFrom S) :
    Seals S R (k + 1) EndsBody (armOf exprs body w place) (armOf exprs' body' w place')
      fun arm => arm.2.1.IsFrom S ∧ ∀ n ∈ arm.2.2, n.IsFrom S :=
  (Twin.openWord hw).bind_seals fun _ _ => hexprs.value.bind_seals fun _ he =>
    seals_closeWord.bind (fun _ _ _ _ => trivial) fun _ _ => hbody.bind_pure fun _ hnodes =>
      ⟨he, hnodes⟩

omit hexprs hbody in
/-- A branch has the paths of its conditions and of its bodies. -/
theorem isFrom_branch {arms : List (Dashes × Expr × List Node)}
    {otherwise : Option (Dashes × List Node)} {last : Dashes}
    (harms : ∀ arm ∈ arms, arm.2.1.IsFrom S ∧ ∀ n ∈ arm.2.2, n.IsFrom S)
    (hother : ∀ o ∈ otherwise, ∀ n ∈ o.2, n.IsFrom S) :
    (Node.branch arms otherwise last).IsFrom S := by
  have hconditions : ∀ q ∈ (arms.flatMap fun arm => arm.2.1.queries), q.IsFrom S := fun q hq => by
    obtain ⟨arm, harm, hmem⟩ := List.mem_flatMap.mp hq
    exact (harms arm harm).1 q hmem
  have hparts : ∀ m ∈ partsArms arms, ∀ q ∈ m.queries, q.IsFrom S :=
    forall_mem_partsArms.mpr fun arm harm => (harms arm harm).2
  cases otherwise with
  | none =>
    rw [Node.IsFrom, Node.parts, List.forall_mem_cons]
    exact ⟨hconditions, hparts⟩
  | some o =>
    rw [Node.IsFrom, Node.parts, List.forall_mem_cons, List.forall_mem_append, forall_mem_partsAll]
    exact ⟨hconditions, hparts, hother o rfl⟩

/-- The bodies of a branch end at the next arm, at `else` or at `endif`. -/
theorem seals_branchSection {place place' : Setting} (hplace : place.Keeps place') :
    Seals S R (k + 1) Anywhere (branchSection exprs body place)
      (branchSection exprs' body' place') (Node.IsFrom S) := by
  have harm : ∀ {w : String}, w.toList ≠ [] ∧ w.toList.all isPassed = true →
      Seals S R (k + 1) EndsBody (armOf exprs body w place) (armOf exprs' body' w place')
        fun arm => arm.2.1.IsFrom S ∧ ∀ n ∈ arm.2.2, n.IsFrom S := fun hw =>
    seals_armOf hexprs hw (hbody hplace)
  have hmore := ((harm (w := "elif") (by decide)).mono (Nat.le_succ k)).toCarries.many
    fun _ _ => endsBody_of_readsAt ((readsAt_openWord (by decide)).bind _) (by decide)
  have hotherwise : Carries S R k EndsBody true
      (do let d ← wordTag "else"; let nodes ← body place; pure (d, nodes))
      (do let d ← wordTag "else"; let nodes ← body' place'; pure (d, nodes))
      fun o => ∀ n ∈ o.2, n.IsFrom S :=
    (seals_wordTag (by decide)).toCarries.bind (fun _ _ _ _ => trivial) fun _ _ =>
      (hbody hplace).bind_pure fun _ hnodes => hnodes
  refine (harm (by decide)).bind (fun _ _ _ => endsBody_of_readsAt
    (((readsAt_openWord (by decide)).bind _).many (((readsAt_wordTag (by decide)).bind _).maybe
      ((readsAt_wordTag (by decide)).bind _))) (by decide)) fun first hfirst => ?_
  refine hmore.bind (fun rest t x hx => ?_) fun rest hrest => ?_
  · -- what divides the branch is not read as an arm
    have hhead : head t ∈ [.statement "else"] ++ [.statement "endif"] :=
      ReadsAt.maybe ((readsAt_wordTag (by decide)).bind _) ((readsAt_wordTag (by decide)).bind _) hx
    have hcloses : ∀ x ∈ [Head.statement "else", .statement "endif"], x ∈ closingHeads := by decide
    refine ⟨.inr (hcloses _ hhead),
      ((readsAt_openWord (w := "elif") (by decide)).bind _).eq_none fun helif => ?_⟩
    rw [List.mem_singleton.mp helif] at hhead
    exact absurd hhead (by decide)
  refine hotherwise.maybe_bind ((readsAt_wordTag (by decide)).bind _) (fun _ _ _ =>
    endsBody_of_readsAt ((readsAt_wordTag (by decide)).bind _) (by decide))
      ((readsAt_wordTag (by decide)).bind _) (by decide) fun otherwise hother => ?_
  exact (seals_wordTag (by decide)).toCarries.loose.bind_pure fun _ _ =>
    isFrom_branch (List.forall_mem_cons.mpr ⟨hfirst, hrest⟩) hother

end

/-! ## Comments, raw and literal text -/

/-- The reader reads texts with their only closing brace at the end. -/
structure EndsAtBrace {α : Type} (p : Reader α) : Prop where
  brace : ∀ {s a r}, p s = some (a, r) → ∃ u, '\x7d' ∉ u ∧ s = u ++ '\x7d' :: r
  carries : ∀ {u a r}, p (u ++ '\x7d' :: r) = some (a, r) → '\x7d' ∉ u → ∀ t,
    p (u ++ '\x7d' :: t) = some (a, t)

namespace EndsAtBrace

variable {α : Type} {p : Reader α} (h : EndsAtBrace p)
include h

theorem append {s r : List Char} {a : α} (hp : p s = some (a, r)) (R : List Char) :
    p (s ++ R) = some (a, r ++ R) := by
  obtain ⟨u, hu, rfl⟩ := h.brace hp
  rw [List.append_assoc, List.cons_append]
  exact h.carries hp hu (r ++ R)

theorem append_none {s : List Char} (hs : '\x7d' ∈ s) (hp : p s = none) (R : List Char) :
    p (s ++ R) = none := by
  cases hsome : p (s ++ R) with
  | none => rfl
  | some x =>
    obtain ⟨a, r⟩ := x
    obtain ⟨v, t, rfl, hv⟩ := List.eq_append_cons_of_mem hs
    obtain ⟨u, hu, hsplit⟩ := h.brace hsome
    rw [List.append_assoc, List.cons_append] at hsplit
    obtain ⟨rfl, rfl⟩ := append_cons_inj hv hu hsplit
    rw [List.append_assoc, List.cons_append] at hsome
    rw [h.carries hsome hv t] at hp
    exact absurd hp (by simp)

/-- The characters before the place where the reader reads. -/
theorem upTo_append : ∀ {s cs r : List Char}, upTo p s = some (cs, r) → ∀ R : List Char,
    upTo p (s ++ R) = some (cs, r ++ R) ∧ r <:+ s ∧ '\x7d' ∈ s
  | [], _, _, hp, _ => by simp [upTo] at hp
  | c :: s, cs, r, hp, R => by
    rw [upTo] at hp
    rw [List.cons_append, upTo]
    cases hstop : p (c :: s) with
    | some x =>
      rw [hstop] at hp
      obtain ⟨rfl, rfl⟩ : [] = cs ∧ c :: s = r := by simpa using hp
      obtain ⟨u, -, hbrace⟩ := h.brace hstop
      have happend := h.append hstop R
      rw [List.cons_append] at happend
      rw [happend]
      exact ⟨rfl, List.suffix_refl _, hbrace ▸ by simp⟩
    | none =>
      rw [hstop] at hp
      obtain ⟨⟨ds, t⟩, hds, hpair⟩ := Option.map_eq_some_iff.mp hp
      obtain ⟨rfl, rfl⟩ : c :: ds = cs ∧ t = r := by simpa using hpair
      obtain ⟨hmore, hsuffix, hbrace⟩ := upTo_append hds R
      have hnone := h.append_none (List.mem_cons_of_mem c hbrace) hstop R
      rw [List.cons_append] at hnone
      rw [hnone, hmore]
      exact ⟨rfl, hsuffix.trans (List.suffix_cons c s), List.mem_cons_of_mem c hbrace⟩

end EndsAtBrace

theorem endsAtBrace_closeComment : EndsAtBrace closeComment where
  brace := fun {s dash r} hp => by
    refine ⟨(if dash then ['-'] else []) ++ ['#'], ?_, ?_⟩
    · cases dash <;> decide
    · rw [eq_of_closeTag hp, List.append_assoc]
      rfl
  carries := fun {u dash r} hp hu t => by
    have hform : u = (if dash then ['-'] else []) ++ ['#'] := by
      have hsplit := eq_of_closeTag hp
      have hassoc : (if dash then ['-'] else []) ++ ("#\x7d".toList ++ r) =
          ((if dash then ['-'] else []) ++ ['#']) ++ '\x7d' :: r := by simp
      rw [hassoc] at hsplit
      exact (append_cons_inj hu (by cases dash <;> decide) hsplit).1
    have htext : u ++ '\x7d' :: t = (if dash then ['-'] else []) ++ ("#\x7d".toList ++ t) := by
      simp [hform]
    rw [htext]
    exact closeTag_append (c := '#') (v := ['\x7d']) rfl (by decide) dash t

/-- The text of a statement that is one word, up to its closing brace. -/
def statementText (d : Dashes) (before w after : List Char) : List Char :=
  "\x7b%".toList ++ ((if d.left then ['-'] else []) ++ (before ++ (w ++ (after ++
    ((if d.right then ['-'] else []) ++ ['%'])))))

/-- What a statement of one word is read from. -/
theorem eq_of_wordTag {w : String} {s r : List Char} {d : Dashes}
    (h : wordTag w s = some (d, r)) : ∃ before after, (∀ c ∈ before, isSpace c = true) ∧
      (∀ c ∈ after, isSpace c = true) ∧
        s = statementText d before w.toList after ++ '\x7d' :: r := by
  obtain ⟨left, t, hopen, h⟩ := bind_eq_some h
  obtain ⟨⟨⟩, u, hgap, h⟩ := bind_eq_some h
  obtain ⟨⟨⟩, v, hword, h⟩ := bind_eq_some h
  obtain ⟨⟨⟩, v', hgap', h⟩ := bind_eq_some h
  obtain ⟨right, r', hclose, h⟩ := bind_eq_some h
  obtain ⟨rfl, rfl⟩ : ⟨left, right⟩ = d ∧ r' = r := by simpa using h
  obtain ⟨before, hbefore, rfl⟩ := eq_append_of_gap hgap
  obtain ⟨after, hafter, rfl⟩ := eq_append_of_gap hgap'
  refine ⟨before, after, hbefore, hafter, ?_⟩
  rw [eq_of_openTag hopen, eq_append_of_exact hword, eq_of_closeTag hclose]
  simp [statementText]

/-- A statement of one word is read from its text, whatever blanks are in it. -/
theorem wordTag_statementText {w : String} (hw : IsWord w) (hne : w.toList ≠ []) (d : Dashes)
    {before after : List Char} (hbefore : ∀ c ∈ before, isSpace c = true)
    (hafter : ∀ c ∈ after, isSpace c = true) (t : List Char) :
    wordTag w (statementText d before w.toList after ++ '\x7d' :: t) = some (d, t) := by
  obtain ⟨c, cs, hcs⟩ := List.exists_cons_of_ne_nil hne
  have hname : isNameChar c = true := List.all_eq_true.mp hw c (by simp [hcs])
  have hfirst : isSpace c = false ∧ c ≠ '-' := by
    refine ⟨Bool.eq_false_iff.mpr fun h => ?_, ?_⟩
    · simp [isNameChar_of_isSpace h] at hname
    · rintro rfl
      simp [isNameChar] at hname
  have hdash : ∀ u, ∀ b ∈ (before ++ (w.toList ++ u)).head?, b ≠ '-' := fun u b hb => by
    cases before with
    | nil =>
      obtain rfl : c = b := by simpa [hcs] using hb
      exact hfirst.2
    | cons d before =>
      obtain rfl : d = b := by simpa using hb
      rintro rfl
      simpa [isSpace] using hbefore '-' List.mem_cons_self
  have hword : ∀ u, gap (before ++ (w.toList ++ u)) = some ((), w.toList ++ u) := fun u => by
    rw [gap_apply, dropWhile_blanks hbefore (by simp [hcs, hfirst.1])]
  have hend : ∀ u, gap (after ++ ((if d.right then ['-'] else []) ++ ("%\x7d".toList ++ u))) =
      some ((), (if d.right then ['-'] else []) ++ ("%\x7d".toList ++ u)) := fun u => by
    rw [gap_apply, dropWhile_blanks hafter (by cases d.right <;> simp [isSpace])]
  have htext : statementText d before w.toList after ++ '\x7d' :: t =
      "\x7b%".toList ++ ((if d.left then ['-'] else []) ++ (before ++ (w.toList ++ (after ++
        ((if d.right then ['-'] else []) ++ ("%\x7d".toList ++ t)))))) := by
    simp [statementText]
  rw [htext, wordTag]
  simp only [bind_apply, pure_apply, openStatement, closeStatement,
    openTag_append _ d.left fun _ => hdash _, hword, exact_apply, dropFront?_append, hend,
    closeTag_append (w := "%\x7d") (c := '%') (v := ['\x7d']) rfl (by decide), Option.map_some,
    Option.bind_some]

theorem endsAtBrace_wordTag {w : String} (hw : IsWord w) (hne : w.toList ≠ []) :
    EndsAtBrace (wordTag w) := by
  have hbrace : ∀ {d : Dashes} {before after : List Char}, (∀ c ∈ before, isSpace c = true) →
      (∀ c ∈ after, isSpace c = true) → '\x7d' ∉ statementText d before w.toList after :=
    fun {d before after} hbefore hafter h => by
      have hword := List.all_eq_true.mp hw '\x7d'
      have hblank := hbefore '\x7d'
      have hblank' := hafter '\x7d'
      cases hl : d.left <;> cases hr : d.right <;>
        simp_all [statementText, isSpace, isNameChar]
  refine ⟨fun {s d r} hp => ?_, fun {u d r} hp hu t => ?_⟩
  · obtain ⟨before, after, hbefore, hafter, rfl⟩ := eq_of_wordTag hp
    exact ⟨_, hbrace hbefore hafter, rfl⟩
  · obtain ⟨before, after, hbefore, hafter, hs⟩ := eq_of_wordTag hp
    obtain ⟨rfl, -⟩ := append_cons_inj hu (hbrace hbefore hafter) hs
    exact wordTag_statementText hw hne d hbefore hafter t

/-- A comment in its parts. -/
theorem comment_eq_some {s r : List Char} {n : Node} : comment s = some (n, r) ↔
    ∃ left body right t u, openComment s = some (left, t) ∧
      upTo closeComment t = some (body, u) ∧ body ≠ [] ∧
        closeComment u = some (right, r) ∧ n = .comment ⟨left, right⟩ := by
  constructor
  · intro h
    obtain ⟨left, t, hopen, h⟩ := bind_eq_some h
    obtain ⟨body, u, hbody, h⟩ := bind_eq_some h
    split at h
    · exact nomatch h
    · next hempty =>
      obtain ⟨right, v, hclose, h⟩ := bind_eq_some h
      obtain ⟨rfl, rfl⟩ : Node.comment ⟨left, right⟩ = n ∧ v = r := by simpa using h
      exact ⟨left, body, right, t, u, hopen, hbody, by simpa using hempty, hclose, rfl⟩
  · rintro ⟨left, body, right, t, u, hopen, hbody, hempty, hclose, rfl⟩
    simp [comment, hopen, hbody, hempty, hclose, map_apply]

section

variable {S R : List Char} {k : Nat}

/-- A comment ends at the first closing sign. What follows comes too late for it. -/
theorem carries_comment : Carries S R k Anywhere true comment comment (Node.IsFrom S) := by
  refine ⟨fun {s n r} _ _ hp => ?_, fun {s n r} _ _ hp _ => ?_⟩
  · obtain ⟨left, body, right, t, u, hopen, hbody, -, hclose, rfl⟩ := comment_eq_some.mp hp
    obtain ⟨-, hu, -⟩ := endsAtBrace_closeComment.upTo_append hbody []
    have hr : r <:+ u ∧ r.length < u.length := by
      have hlength := congrArg List.length (eq_of_closeTag hclose)
      rw [List.length_append, List.length_append] at hlength
      refine ⟨?_, ?_⟩
      · rw [eq_of_closeTag hclose, ← List.append_assoc]
        exact List.suffix_append _ r
      · simp only [String.reduceToList, List.length_cons, List.length_nil] at hlength
        omega
    have ht : t <:+ s := by
      rw [eq_of_openTag hopen, ← List.append_assoc]
      exact List.suffix_append _ t
    have hus := hu.trans ht
    exact ⟨Node.isFrom_leaf rfl nofun, hr.1.trans hus,
      fun _ => Nat.lt_of_lt_of_le hr.2 hus.length_le⟩
  · obtain ⟨left, body, right, t, u, hopen, hbody, hempty, hclose, rfl⟩ := comment_eq_some.mp hp
    obtain ⟨hupTo, -, hbrace⟩ := endsAtBrace_closeComment.upTo_append hbody R
    exact comment_eq_some.mpr ⟨left, body, right, t ++ R, u ++ R,
      openTag_carries hopen (List.ne_nil_of_mem hbrace) R, hupTo, hempty,
      endsAtBrace_closeComment.append hclose R, rfl⟩

/-- Raw text ends at the first `endraw`. -/
theorem carries_rawText : Carries S R k Anywhere true rawText rawText (Node.IsFrom S) := by
  have hupTo : Carries S R k Anywhere false (upTo (wordTag "endraw")) (upTo (wordTag "endraw"))
      fun _ => True := by
    have hends := endsAtBrace_wordTag (w := "endraw") (by decide) (by decide)
    exact ⟨fun _ _ hp => ⟨trivial, (hends.upTo_append hp []).2.1, nofun⟩,
      fun _ _ hp _ => (hends.upTo_append hp R).1⟩
  exact (seals_wordTag (by decide)).toCarries.bind (fun _ _ _ _ => trivial) fun _ _ =>
    hupTo.bind (fun _ _ _ _ => trivial) fun _ _ =>
      (seals_wordTag (by decide)).toCarries.loose.bind_pure fun _ _ => Node.isFrom_leaf rfl nofun

/-- Nothing follows, or a tag that the source does not run into. -/
def Follows (S R : List Char) : Prop := R = [] ∨ startsTag R = true ∧ S.getLast? ≠ some '\x7b'

theorem literalRun_append_literalRun : ∀ s : List Char,
    (literalRun s).1 ++ (literalRun s).2 = s
  | [] | [_] => rfl
  | c :: d :: s => by
    rw [literalRun]
    split
    · rfl
    · exact congrArg (c :: ·) (literalRun_append_literalRun (d :: s))

theorem literalRun_append_of_follows (hR : R = [] ∨ startsTag R = true) : ∀ {s : List Char},
    (R = [] ∨ s.getLast? ≠ some '\x7b') →
      literalRun (s ++ R) = ((literalRun s).1, (literalRun s).2 ++ R)
  | [], _ => by
    rcases hR with rfl | hR
    · rfl
    · exact literalRun_of_startsTag hR
  | [c], hs => by
    rcases hs with rfl | hs
    · rfl
    · have hc : c ≠ '\x7b' := by simpa using hs
      exact literalRun_append hR (a := [c]) (by simpa [isLiteral] using hc)
  | c :: d :: s, hs => by
    have ih := literalRun_append_of_follows hR (s := d :: s) (by simpa using hs)
    rw [List.cons_append] at ih
    rw [List.cons_append, List.cons_append, literalRun, literalRun, ih]
    split <;> rfl

/-- Literal text goes on where the text behind it does not start a tag. -/
theorem carries_literal (h : Follows S R) :
    Carries S R k Anywhere true literal literal (Node.IsFrom S) := by
  have hread : ∀ {s n r}, literal s = some (n, r) → ∃ run, run ≠ [] ∧ literalRun s = (run, r) ∧
      n = .text run := fun {s n r} hp => by
    rw [literal] at hp
    split at hp
    · simp at hp
    · next run rest hne hrun =>
      obtain ⟨rfl, rfl⟩ : Node.text run = n ∧ rest = r := by simpa using hp
      exact ⟨run, hne, hrun, rfl⟩
  refine ⟨fun {s n r} _ _ hp => ?_, fun {s n r} hs _ hp _ => ?_⟩
  · obtain ⟨run, hne, hrun, rfl⟩ := hread hp
    have happend : run ++ r = s := by rw [← literalRun_append_literalRun s, hrun]
    have hpos := List.length_pos_iff.mpr hne
    refine ⟨Node.isFrom_leaf rfl (List.forall_mem_nil _), happend ▸ List.suffix_append run r,
      fun _ => ?_⟩
    rw [← happend, List.length_append]
    omega
  · obtain ⟨run, hne, hrun, rfl⟩ := hread hp
    have hs' : R = [] ∨ s.getLast? ≠ some '\x7b' := h.imp_right fun hlast => by
      obtain ⟨u, rfl⟩ := hs
      have hnil : s ≠ [] := by
        rintro rfl
        exact hne (Prod.mk.inj hrun).1.symm
      rw [List.getLast?_append_of_ne_nil u hnil] at hlast
      exact hlast.2
    have hmore := literalRun_append_of_follows (h.imp_right And.left) hs'
    rw [hrun] at hmore
    rw [literal, hmore]
    cases run with
    | nil => exact absurd rfl hne
    | cons c run => rfl

/-! ## Nodes and bodies -/

/-- A rule for nodes : what `p` reads is read again by `q` where another text follows, and `q` reads
only texts that start in one of some ways. -/
structure Rule (S R : List Char) (k : Nat) (H : List Head) (p q : Reader Node) : Prop where
  carries : Carries S R k Anywhere true p q (Node.IsFrom S)
  readsAt : ReadsAt H q

/-- Rules that start in different ways do not stand in each other's way. -/
theorem Rule.orElse {H H' : List Head} {p q p' q' : Reader Node} (h : Rule S R k H p q)
    (h' : Rule S R k H' p' q') (hne : ∀ x ∈ H', x ∉ H) :
    Rule S R k (H ++ H') (p <|> p') (q <|> q') :=
  ⟨h.carries.orElse h.readsAt h'.carries h'.readsAt hne, h.readsAt.orElse h'.readsAt⟩

/-- Leaving a loop is read in a loop only. -/
theorem rule_leaveTag {place place' : Setting} (hplace : place.Keeps place') :
    Rule S R k [.statement "break", .statement "continue"]
      (if place = .loop then leaveTag else failure)
      (if place' = .loop then leaveTag else failure) := by
  have hword : ∀ {w : String} {f : Dashes → Node}, w.toList ≠ [] ∧ w.toList.all isPassed = true →
      IsWord w → (∀ d, (f d).IsFrom S) →
        Rule S R k [.statement w] (f <$> wordTag w) (f <$> wordTag w) := fun hw hword hf =>
    ⟨(seals_wordTag hw).toCarries.map fun d _ => hf d, (readsAt_wordTag hword).map _⟩
  have hstop := hword (w := "break") (f := .stop) (by decide) (by decide) fun _ =>
    Node.isFrom_leaf rfl nofun
  have hskip := hword (w := "continue") (f := .skip) (by decide) (by decide) fun _ =>
    Node.isFrom_leaf rfl nofun
  have hleave : Rule S R k [.statement "break", .statement "continue"] leaveTag leaveTag :=
    hstop.orElse hskip (by decide)
  cases hplace with
  | same place =>
    split
    · exact hleave
    · exact ⟨.failure, ReadsAt.failure.mono (List.nil_subset _)⟩
  | loop => exact ⟨.failure, hleave.readsAt⟩

variable {exprs exprs' : Level} {body body' : Setting → Reader (List Node)}
  (hexprs : LevelTwin S R (S.length + 1) exprs exprs') (hbody : BodyCarries S R k body body')
  (hR : Follows S R)

/-- The starts of nodes. -/
def nodeHeads : List Head :=
  [.statement "include", .statement "import", .value, .comment, .statement "set",
    .statement "set_global", .statement "macro", .statement "block", .statement "if",
    .statement "for", .statement "filter", .statement "break", .statement "continue",
    .statement "raw", .other]

include hexprs hbody hR

/-- A node is read again where another text follows. -/
theorem rule_node {place place' : Setting} (hplace : place.Keeps place') :
    Rule S R (k + 1) nodeHeads (node exprs body place) (node exprs' body' place') := by
  have hinsert : Rule S R (k + 1) _ insertTag insertTag :=
    ⟨seals_insertTag.toCarries, readsAt_insertTag⟩
  have hload : Rule S R (k + 1) _ loadTag loadTag := ⟨seals_loadTag.toCarries, readsAt_loadTag⟩
  have hvalue : Rule S R (k + 1) _ (valueTag exprs place) (valueTag exprs' place') :=
    ⟨(seals_valueTag hexprs hplace).toCarries, readsAt_valueTag exprs' place'⟩
  have hcomment : Rule S R (k + 1) _ comment comment := ⟨carries_comment, readsAt_comment⟩
  have hset : Rule S R (k + 1) _ (assignTag exprs "set" false) (assignTag exprs' "set" false) :=
    ⟨(seals_assignTag hexprs (by decide) _).toCarries, readsAt_assignTag exprs' (by decide) _⟩
  have hglobal : Rule S R (k + 1) _ (assignTag exprs "set_global" true)
      (assignTag exprs' "set_global" true) :=
    ⟨(seals_assignTag hexprs (by decide) _).toCarries, readsAt_assignTag exprs' (by decide) _⟩
  have hdefine : Rule S R (k + 1) _ (defineSection body) (defineSection body') :=
    ⟨(seals_defineSection hbody).toCarries, readsAt_defineSection body'⟩
  have hblock : Rule S R (k + 1) _ (blockSection body) (blockSection body') :=
    ⟨(seals_blockSection hbody).toCarries, readsAt_blockSection body'⟩
  have hbranch : Rule S R (k + 1) _ (branchSection exprs body place)
      (branchSection exprs' body' place') :=
    ⟨(seals_branchSection hexprs hbody hplace).toCarries,
      readsAt_branchSection exprs' body' place'⟩
  have hfor : Rule S R (k + 1) _ (loopSection exprs body) (loopSection exprs' body') :=
    ⟨(seals_loopSection hexprs hbody).toCarries, readsAt_loopSection exprs' body'⟩
  have hfilter : Rule S R (k + 1) _ (filterSection exprs body) (filterSection exprs' body') :=
    ⟨(seals_filterSection hexprs hbody).toCarries, readsAt_filterSection exprs' body'⟩
  have hraw : Rule S R (k + 1) _ rawText rawText := ⟨carries_rawText, readsAt_rawText⟩
  have hliteral : Rule S R (k + 1) _ literal literal := ⟨carries_literal hR, readsAt_literal⟩
  refine hinsert.orElse (hload.orElse (hvalue.orElse (hcomment.orElse (hset.orElse
    (hglobal.orElse (hdefine.orElse (hblock.orElse (hbranch.orElse (hfor.orElse (hfilter.orElse
      ((rule_leaveTag hplace).orElse (hraw.orElse hliteral ?_) ?_) ?_) ?_) ?_) ?_) ?_) ?_) ?_) ?_)
        ?_) ?_) ?_ <;> decide

end

section

variable {S R : List Char}

/-- No node starts where a body ends. -/
theorem node_of_endsBody {exprs : Level} {body : Setting → Reader (List Node)} {place : Setting}
    (h : ReadsAt nodeHeads (node exprs body place)) {t : List Char} (ht : EndsBody t) :
    node exprs body place t = none := by
  rcases ht with rfl | ht
  · exact node_nil exprs body place
  · have hdisjoint : ∀ x ∈ closingHeads, x ∉ nodeHeads := by decide
    exact h.eq_none (hdisjoint _ ht)

/-- Bodies are read again, whatever the depth up to which both readers go. -/
theorem bodyCarries (hR : Follows S R) {exprs exprs' : Level}
    (hexprs : LevelTwin S R (S.length + 1) exprs exprs') :
    ∀ n m : Nat, BodyCarries S R (m + 1) (bodyWithin exprs n) (bodyWithin exprs' m)
  | n, 0 => fun place place' _ => by
    -- only the empty text is short enough, and no node is read there
    have hread : ∀ {s x}, s.length < 0 + 1 → bodyWithin exprs n place s = some x →
        s = [] ∧ x = ([], []) := fun {s x} hlength hp => by
      obtain rfl : s = [] := List.length_eq_zero_iff.mp (by omega)
      cases n with
      | zero => exact ⟨rfl, (Option.some.inj hp).symm⟩
      | succ n =>
        rw [bodyWithin, many_of_none (node_nil _ _ _)] at hp
        exact ⟨rfl, (Option.some.inj hp).symm⟩
    refine ⟨fun {s as r} _ hlength hp => ?_, fun {s as r} _ hlength hp _ => ?_⟩
    · obtain ⟨rfl, hx⟩ := hread hlength hp
      obtain ⟨rfl, rfl⟩ : as = [] ∧ r = [] := by simpa using hx
      exact ⟨List.forall_mem_nil _, List.suffix_refl _, fun h => absurd h Bool.false_ne_true⟩
    · obtain ⟨rfl, hx⟩ := hread hlength hp
      obtain ⟨rfl, rfl⟩ : as = [] ∧ r = [] := by simpa using hx
      rfl
  | n, m + 1 => fun place place' hplace => by
    have hrule := fun n => rule_node hexprs (bodyCarries hR hexprs n m) hR hplace
    have hends : ∀ t, EndsBody t → node exprs' (bodyWithin exprs' m) place' t = none :=
      fun t ht => node_of_endsBody (hrule 0).readsAt ht
    cases n with
    | zero =>
      refine ⟨fun {s as r} _ _ hp => ?_, fun {s as r} _ _ hp hr => ?_⟩
      · obtain ⟨rfl, rfl⟩ : [] = as ∧ s = r := by simpa [bodyWithin] using hp
        exact ⟨List.forall_mem_nil _, List.suffix_refl s, fun h => absurd h Bool.false_ne_true⟩
      · obtain ⟨rfl, rfl⟩ : [] = as ∧ s = r := by simpa [bodyWithin] using hp
        exact many_of_none (hends _ hr)
    | succ n =>
      rw [bodyWithin, bodyWithin]
      exact ((hrule n).carries.many fun _ _ _ => trivial).imp (fun t ht => ⟨trivial, hends t ht⟩)
        fun _ h => h

end

end UserConfigs.Template
