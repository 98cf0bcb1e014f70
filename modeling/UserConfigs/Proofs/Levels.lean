import UserConfigs.Proofs.ExprReading

/-!
# Levels of expressions

An expression is read to a depth, which each bracket takes one of. Each reader of a level is made
from the readers of the level inside it, and reads alike in a longer text if these do
(`LevelTwin.next`). The readers of two depths do so in texts with fewer characters than both
(`levelTwin`, by induction on the depth).
-/

namespace UserConfigs.Template

open Reader

/-! ## Chains, arguments and filters -/

/-- Operands in a chain. -/
theorem twin_chain {S R : List Char} {k : Nat} {Op α : Type} {op : Reader Op} {p p' : Reader α}
    {G : α → Prop} (hop : Twin S R k true op op fun _ => True) (hp : Twin S R k true p p' G) :
    Twin S R k false (many do gap; let o ← op; gap; let a ← p; pure (o, a))
      (many do gap; let o ← op; gap; let a ← p'; pure (o, a)) fun rest => ∀ x ∈ rest, G x.2 :=
  Twin.many <| Twin.gap.bind fun _ _ => hop.andThen fun _ _ => Twin.gap.bind fun _ _ =>
    hp.loose.bind fun _ ha => .pure ha

/-- What stands behind a sign. -/
theorem twin_afterSign {S R : List Char} {k : Nat} {α : Type} {p p' : Reader α} {G : α → Prop}
    {w : String} (hw : w.toList ≠ [] ∧ w.toList.all isPassed = true)
    (hp : Twin S R k true p p' G) :
    Twin S R k true (do gap; exact w; gap; p) (do gap; exact w; gap; p') G :=
  Twin.gap.bind fun _ _ => (Twin.exact hw).andThen fun _ _ => Twin.gap.bind fun _ _ => hp.loose

/-- The readers of two levels read alike up to some depth. -/
structure LevelTwin (S R : List Char) (k : Nat) (inner inner' : Level) : Prop where
  condition : Twin S R k true inner.condition inner'.condition (Expr.IsFrom S)
  item : Twin S R k true inner.item inner'.item (Expr.IsFrom S)
  sum : Twin S R k true inner.sum inner'.sum (Term.IsFrom S)
  value : Twin S R k true inner.value inner'.value (Expr.IsFrom S)

namespace LevelTwin

variable {S R : List Char} {k : Nat} {inner inner' : Level} (h : LevelTwin S R k inner inner')
include h

/-- A named argument has the paths of its value. -/
theorem argument : Twin S R k true inner.argument inner'.argument fun a => a.2.IsFrom S :=
  Twin.name.andThen fun _ _ => Twin.gap.bind fun _ _ =>
    (Twin.exact (by decide)).loose.bind fun _ _ =>
      Twin.gap.bind fun _ _ => h.value.loose.bind fun _ he => .pure he

/-- Arguments with commas between them. Of those with one name only the last one stays. -/
theorem arguments : Twin S R k true inner.arguments inner'.arguments fun args =>
    ∀ a ∈ args, a.2.IsFrom S := by
  have hmore := (twin_afterSign (w := ",") (by decide) h.argument).many
  refine h.argument.andThen fun first hfirst => hmore.bind fun rest hrest =>
    Twin.gap.bind fun _ _ => (Twin.exact (by decide)).given.bind fun _ _ => .pure fun a ha => ?_
  have hall : ∀ a ∈ first :: rest, a.2.IsFrom S := List.forall_mem_cons.mpr ⟨hfirst, hrest⟩
  exact hall a (keepLast_subset _ ha)

/-- A call has the paths of its arguments, and its brackets take one of the depth. -/
theorem call : Twin S R (k + 1) true inner.call inner'.call (Call.IsFrom S) := by
  refine Twin.name.bind_next fun _ _ => Twin.gap.bind fun _ _ =>
    (Twin.exact (by decide)).loose.bind fun _ _ => Twin.gap.bind fun _ _ =>
      h.arguments.maybe.bind fun args hargs => Twin.gap.bind fun _ _ =>
        (Twin.exact (by decide)).loose.bind fun _ _ => .pure ?_
  rw [Call.IsFrom, Call.queries, forall_mem_argsQueries]
  cases args with
  | none => exact List.forall_mem_nil _
  | some args => exact hargs args rfl

/-- A filter is a call, or a name without arguments. -/
theorem filter : Twin S R (k + 1) true inner.filter inner'.filter (Call.IsFrom S) :=
  h.call.orElse (Twin.name.andThen fun _ _ => .pure (by
    simp [Call.IsFrom, Call.queries, argsQueries]))

theorem filters : Twin S R (k + 1) false inner.filters inner'.filters fun fs =>
    ∀ f ∈ fs, f.IsFrom S :=
  (twin_afterSign (by decide) h.filter).many

/-- A term and the filters behind it. -/
theorem filtered {term term' : Reader Term}
    (ht : Twin S R (k + 1) true term term' (Term.IsFrom S)) :
    Twin S R (k + 1) true (inner.filtered term) (inner'.filtered term') (Expr.IsFrom S) :=
  ht.andThen fun _ ht => h.filters.bind fun _ hfs => .pure (Expr.isFrom_mk.mpr ⟨ht, hfs⟩)

/-! ## Operands and conditions -/

/-- The items of an array, with a comma behind each but perhaps the last one. -/
theorem array : Twin S R (k + 1) true inner.array inner'.array (Term.IsFrom S) := by
  have hitem : Twin S R k true (do let e ← inner.item; gap; exact ","; gap; pure e)
      (do let e ← inner'.item; gap; exact ","; gap; pure e) (Expr.IsFrom S) :=
    h.item.andThen fun _ he => Twin.gap.bind fun _ _ =>
      (Twin.exact (by decide)).loose.bind fun _ _ => Twin.gap.bind fun _ _ => .pure he
  refine (Twin.exact (by decide)).bind_next fun _ _ => Twin.gap.bind fun _ _ =>
    hitem.many.bind fun items hitems => h.item.maybe.bind fun last hlast => Twin.gap.bind fun _ _ =>
      (Twin.exact (by decide)).loose.bind fun _ _ => .pure ?_
  rw [Term.IsFrom, Term.queries, forall_mem_exprsQueries, List.forall_mem_append]
  refine ⟨hitems, fun e he => hlast e ?_⟩
  simpa using he

/-- The arguments of a test have no names. -/
theorem testArguments : Twin S R (k + 1) true inner.testArguments inner'.testArguments fun es =>
    ∀ e ∈ es, e.IsFrom S :=
  (Twin.exact (by decide)).bind_next fun _ _ => Twin.gap.bind fun _ _ =>
    h.value.loose.bind fun _ hfirst =>
      (twin_afterSign (by decide) h.value).many.bind fun _ hrest => Twin.gap.bind fun _ _ =>
        (Twin.exact (by decide)).loose.bind fun _ _ =>
          .pure (List.forall_mem_cons.mpr ⟨hfirst, hrest⟩)

/-- A test asks for the path that it is about and for its arguments. -/
theorem testAfter (negated : Bool) :
    Twin S R (k + 1) true (inner.testAfter negated) (inner'.testAfter negated) (Term.IsFrom S) := by
  have hargs : Twin S R (k + 1) true (do gap; inner.testArguments) (do gap; inner'.testArguments)
      fun es => ∀ e ∈ es, e.IsFrom S := Twin.gap.bind fun _ _ => h.testArguments
  have htail : ∀ subject, Occurs S (String.ofList subject) → Twin S R (k + 1) false
      (do
        let n ← name
        let args ← maybe do
          gap
          inner.testArguments
        pure (Term.test (String.ofList subject) negated (String.ofList n) (args.getD [])))
      (do
        let n ← name
        let args ← maybe do
          gap
          inner'.testArguments
        pure (Term.test (String.ofList subject) negated (String.ofList n) (args.getD [])))
      (Term.IsFrom S) := fun subject hsubject => by
    refine Twin.name.loose.bind fun _ _ => hargs.maybe.bind fun args hargs => .pure ?_
    rw [Term.IsFrom, Term.queries, List.forall_mem_cons, forall_mem_exprsQueries]
    refine ⟨hsubject, ?_⟩
    cases args with
    | none => exact List.forall_mem_nil _
    | some args => exact hargs args rfl
  refine Twin.pathText.andThen fun subject hsubject => Twin.gap.bind fun _ _ =>
    (Twin.exact (by decide)).loose.bind fun _ _ => Twin.gap.bind fun _ _ => ?_
  cases negated with
  | false => exact htail subject hsubject
  | true =>
    exact (Twin.exact (by decide)).loose.bind fun _ _ => Twin.gap.bind fun _ _ =>
      htail subject hsubject

theorem callTerm : Twin S R (k + 1) true inner.callTerm inner'.callTerm (Term.IsFrom S) :=
  h.call.map fun _ hf => Term.isFrom_call hf

/-- The call of a macro, behind the name that its template goes by. -/
theorem invokeTerm : Twin S R (k + 1) true inner.invokeTerm inner'.invokeTerm (Term.IsFrom S) :=
  Twin.name.andThen fun _ _ => Twin.gap.bind fun _ _ =>
    (Twin.exact (by decide)).loose.bind fun _ _ => Twin.gap.bind fun _ _ =>
      h.call.loose.bind fun _ hf => .pure (Term.isFrom_invoke hf)

/-- A sum in brackets, or a term without operators. What could be two of these is the first one that
can be read. -/
theorem operand : Twin S R (k + 1) true inner.operand inner'.operand (Term.IsFrom S) := by
  have hparens : Twin S R (k + 1) true
      (do exact "("; gap; let t ← inner.sum; gap; exact ")"; pure t)
      (do exact "("; gap; let t ← inner'.sum; gap; exact ")"; pure t) (Term.IsFrom S) :=
    (Twin.exact (by decide)).bind_next fun _ _ => Twin.gap.bind fun _ _ =>
      h.sum.loose.bind fun _ ht => Twin.gap.bind fun _ _ =>
        (Twin.exact (by decide)).loose.bind fun _ _ => .pure ht
  exact hparens.orElse <| Twin.boolLiteral.orElse <| (h.testAfter true).orElse <|
    (h.testAfter false).orElse <| h.invokeTerm.orElse <| h.callTerm.orElse <|
      Twin.pathTerm.orElse <| Twin.floatLiteral.orElse Twin.wholeLiteral

/-- Operands have the paths of the sum, however the operators group them. -/
theorem readSum : Twin S R (k + 1) true inner.readSum inner'.readSum (Term.IsFrom S) :=
  h.operand.andThen fun _ hfirst => (twin_chain Twin.arithOp h.operand).bind fun _ hrest =>
    .pure <| climb_induction (fun op a b ha hb => by
      rw [Term.IsFrom, Term.queries, List.forall_mem_append]
      exact ⟨Term.isFrom_alone.mpr ha, Term.isFrom_alone.mpr hb⟩) hfirst hrest

theorem part : Twin S R (k + 1) true inner.part inner'.part (Term.IsFrom S) :=
  h.callTerm.orElse <| Twin.floatLiteral.orElse <| Twin.wholeLiteral.orElse <|
    Twin.textLiteral.orElse Twin.pathTerm

/-- At least two parts with a tilde between them. -/
theorem concat : Twin S R (k + 1) true inner.concat inner'.concat (Term.IsFrom S) :=
  h.part.andThen fun _ hfirst => Twin.gap.bind fun _ _ =>
    (Twin.exact (by decide)).loose.bind fun _ _ => Twin.gap.bind fun _ _ =>
      h.part.loose.bind fun _ hsecond =>
        (twin_afterSign (by decide) h.part).many.bind fun _ hrest => .pure <| isFrom_joined <|
          List.forall_mem_cons.mpr ⟨hfirst, List.forall_mem_cons.mpr ⟨hsecond, hrest⟩⟩

theorem textFiltered :
    Twin S R (k + 1) true inner.textFiltered inner'.textFiltered (Expr.IsFrom S) :=
  h.filtered (h.concat.orElse Twin.textLiteral)

theorem sumFiltered : Twin S R (k + 1) true inner.sumFiltered inner'.sumFiltered (Expr.IsFrom S) :=
  h.filtered h.readSum

theorem arrayFiltered :
    Twin S R (k + 1) true inner.arrayFiltered inner'.arrayFiltered (Expr.IsFrom S) :=
  h.filtered h.array

/-- Sums with filters, joined by operators as operands are. -/
theorem filteredSums :
    Twin S R (k + 1) true inner.filteredSums inner'.filteredSums (Expr.IsFrom S) :=
  h.sumFiltered.andThen fun _ hfirst => (twin_chain Twin.arithOp h.sumFiltered).bind fun _ hrest =>
    .pure <| climb_induction (fun op a b ha hb => by
      rw [Term.isFrom_alone, Term.IsFrom, Term.queries, List.forall_mem_append]
      exact ⟨ha, hb⟩) hfirst hrest

theorem side : Twin S R (k + 1) true inner.side inner'.side (Expr.IsFrom S) :=
  h.textFiltered.orElse h.filteredSums

/-- One side alone, or two with a comparison between them. -/
theorem compared : Twin S R (k + 1) true inner.compared inner'.compared (Expr.IsFrom S) := by
  have hright : Twin S R (k + 1) true
      (do gap; let make ← comparison; gap; let e ← inner.side; pure (make, e))
      (do gap; let make ← comparison; gap; let e ← inner'.side; pure (make, e)) fun x =>
        ∀ l : Expr, l.IsFrom S → (x.1 l x.2).IsFrom S :=
    Twin.gap.bind fun _ _ => Twin.comparison.andThen fun _ hmake => Twin.gap.bind fun _ _ =>
      h.side.loose.bind fun _ he => .pure fun l hl => hmake l _ hl he
  refine h.side.andThen fun left hleft => hright.maybe.bind fun right hr => .pure ?_
  cases right with
  | none => exact hleft
  | some x => exact Term.isFrom_alone.mpr (hr x rfl left hleft)

/-- What an item is looked for in. -/
theorem container : Twin S R (k + 1) true inner.container inner'.container (Expr.IsFrom S) :=
  h.textFiltered.orElse <| h.arrayFiltered.orElse <|
    Twin.pathTerm.map fun _ ht => Term.isFrom_alone.mpr ht

/-- Whether an item is, or is not, in a container. -/
theorem membership : Twin S R (k + 1) true inner.membership inner'.membership (Expr.IsFrom S) := by
  refine (h.textFiltered.orElse h.sumFiltered).andThen fun left hleft => Twin.gap.bind fun _ _ =>
    (Twin.word (by decide)).given.bind fun negated _ => Twin.gap.bind fun _ _ =>
      (Twin.exact (by decide)).loose.bind fun _ _ => Twin.gap.bind fun _ _ =>
        h.container.loose.bind fun right hright => .pure ?_
  rw [Term.isFrom_alone, Term.IsFrom, Term.queries, List.forall_mem_append]
  exact ⟨hleft, hright⟩

/-- A condition without connectives. In brackets it may have some. -/
theorem readItem : Twin S R (k + 1) true inner.readItem inner'.readItem (Expr.IsFrom S) := by
  have hplain := (Twin.word (w := "not") (by decide)).given.bind fun negated _ =>
    Twin.gap.bind fun _ _ => (h.membership.orElse h.compared).andThen fun e he =>
      Twin.pure (he.withNegation negated)
  have hparens := (Twin.exact (w := "(") (by decide)).bind_next fun _ _ => Twin.gap.bind fun _ _ =>
    h.condition.loose.bind fun e he => Twin.gap.bind fun _ _ =>
      (Twin.exact (w := ")") (by decide)).loose.bind fun _ _ => Twin.pure (he.withNegation false)
  exact hplain.orElse hparens

/-- Conditions with connectives between them, however these group them. -/
theorem readCondition :
    Twin S R (k + 1) true inner.readCondition inner'.readCondition (Expr.IsFrom S) :=
  h.readItem.andThen fun _ hfirst => (twin_chain Twin.connective h.readItem).bind fun _ hrest =>
    .pure <| climb_induction (fun op a b ha hb => by
      rw [Term.isFrom_alone, Term.IsFrom, Term.queries, List.forall_mem_append]
      exact ⟨ha, hb⟩) hfirst hrest

/-- The level around reads alike one level further. -/
theorem next : LevelTwin S R (k + 1) inner.next inner'.next where
  condition := h.readCondition
  item := h.readItem
  sum := h.readSum
  value := h.readCondition.orElse h.arrayFiltered

/-- What reads alike in a text reads alike in shorter ones. -/
theorem mono {k' : Nat} (hk : k' ≤ k) : LevelTwin S R k' inner inner' where
  condition := h.condition.mono hk fun _ h => h
  item := h.item.mono hk fun _ h => h
  sum := h.sum.mono hk fun _ h => h
  value := h.value.mono hk fun _ h => h

/-- There are no texts of fewer than no characters to read. -/
theorem zero (inner'' : Level) : LevelTwin S R 0 inner inner'' where
  condition := h.condition.zero _
  item := h.item.zero _
  sum := h.sum.zero _
  value := h.value.zero _

end LevelTwin

section

variable {S R : List Char}

/-- Expressions nested as deep as both levels go are read alike. -/
theorem levelTwin : ∀ {n m k : Nat}, k ≤ n → k ≤ m → LevelTwin S R k (level n) (level m)
  | 0, _, k, hn, _ => by
    -- a level that is used up reads nothing, and no text is short enough for it
    have hnone : LevelTwin S R k (level 0) (level 0) := ⟨.failure, .failure, .failure, .failure⟩
    rw [Nat.le_zero.mp hn] at hnone ⊢
    exact hnone.zero _
  | n + 1, 0, k, _, hm => by
    rw [Nat.le_zero.mp hm]
    exact (levelTwin (Nat.zero_le n) (Nat.zero_le n)).next.zero _
  | n + 1, m + 1, k, hn, hm =>
    (levelTwin (k := k - 1) (by omega) (by omega)).next.mono (by omega)

end

end UserConfigs.Template
