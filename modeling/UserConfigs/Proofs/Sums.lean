import UserConfigs.Proofs.Grouping
import UserConfigs.Proofs.Segments
import UserConfigs.Proofs.Sources

/-!
# Sums and products in a tag

A tag may hold names with `+`, `-` and `*` between them. It is read as the tree that the usual
precedence makes of the row (`readsSum_chain`), since each name ends where a sign or the tag follows
(`endsPath_chain`). The number of the tree is exact as long as every result on the way stays in the
signed range of 64 bits, and there is none as soon as one does not (`Grouped.number_term`, by
induction on the tree).
-/

namespace UserConfigs.Template

open Reader

/-! ## Reading a row -/

/-- The operators of a row and the names after them as they are written. -/
def chainText (rest : List (ExactOp × String)) : List Char :=
  rest.flatMap fun p => ' ' :: (p.1.sign.toList ++ ' ' :: p.2.toList)

theorem chainText_cons (op : ExactOp) (y : String) (rest : List (ExactOp × String))
    (r : List Char) : chainText ((op, y) :: rest) ++ r =
      ' ' :: (op.sign.toList ++ ' ' :: (y.toList ++ (chainText rest ++ r))) := by
  simp [chainText]

theorem arithOp_sign (op : ExactOp) (s : List Char) :
    arithOp (op.sign.toList ++ s) = some (op.arith, s) := by
  cases op <;> simp [arithOp, spelled_apply, ExactOp.sign, ExactOp.arith, dropFront?]

/-- Blanks in front of an operator are passed, and the sign of it is no blank. -/
theorem dropWhile_sign (op : ExactOp) (s : List Char) :
    (' ' :: (op.sign.toList ++ s)).dropWhile isSpace = op.sign.toList ++ s := by
  cases op <;> rfl

/-- Blanks in front of a name are passed, and no more than them. -/
theorem dropWhile_name {y : List Char} (hy : IsPlainName y) (s : List Char) :
    (' ' :: (y ++ s)).dropWhile isSpace = y ++ s :=
  congrArg Prod.snd (Option.some.inj (gap_name hy s))

section

variable {r : List Char}

/-- A name ends in front of the rest of a row. -/
theorem endsPath_chain (hr : EndsPath r) : ∀ rest : List (ExactOp × String),
    EndsPath (chainText rest ++ r)
  | [] => hr
  | (op, y) :: rest => by
    rw [chainText_cons]
    refine ⟨by simp [isNameChar], ?_⟩
    rw [dropWhile_sign]
    cases op <;> simp [ExactOp.sign, isNameChar]

variable (inner : Level) (hr : EndsTag r)
include hr

theorem operand_chain {y : String} (hy : IsPlainName y.toList)
    (rest : List (ExactOp × String)) :
    inner.operand (y.toList ++ (chainText rest ++ r)) = some (.path y, chainText rest ++ r) := by
  rw [operand_name hy (endsPath_chain hr.toEndsPath rest), String.ofList_toList]

/-- The rest of a row is read operator by operator. -/
theorem reads_chain : ∀ {rest : List (ExactOp × String)},
    (∀ p ∈ rest, IsPlainName p.2.toList) →
      Reads (do gap; let op ← arithOp; gap; let t ← inner.operand; pure (op, t))
        (chainText rest ++ r) (rest.map fun p => (p.1.arith, .path p.2)) r
  | [], _ => .nil (arith_tagEnd hr fun c s hc => operand_tagEnd inner hc s)
  | (op, y) :: rest, hrest => by
    obtain ⟨hy, hrest⟩ := List.forall_mem_cons.mp hrest
    rw [chainText_cons]
    refine .cons ?_ ?_ (reads_chain hrest)
    · simp only [bind_apply, pure_apply, gap_apply, dropWhile_sign, Option.bind_some, arithOp_sign,
        dropWhile_name hy, operand_chain inner hr hy]
    · simp only [List.length_cons, List.length_append]
      omega

theorem readsSum_chain {x : String} {rest : List (ExactOp × String)} (hx : IsPlainName x.toList)
    (hrest : ∀ p ∈ rest, IsPlainName p.2.toList) :
    ReadsSum inner (x.toList ++ (chainText rest ++ r)) (group x rest).term r where
  sum := by
    simp only [Level.readSum, bind_apply, pure_apply, operand_chain inner hr hx,
      many_of_reads (reads_chain inner hr hrest), Option.bind_some, climb_path]
  noText := by
    have hnone : dropFront? ['~'] ((chainText rest ++ r).dropWhile isSpace) = none := by
      cases rest with
      | nil => exact dropFront?_tagEnd hr (by decide) []
      | cons p rest =>
        obtain ⟨op, y⟩ := p
        rw [chainText_cons, dropWhile_sign]
        cases op <;> rfl
    simp [Level.textFiltered, Level.filtered, Level.concat,
      part_name hx (endsPath_chain hr.toEndsPath rest), gap_apply, exact_apply, hnone,
      textLiteral_name hx]
  noWord := dropFront?_word_name hx (endsPath_chain hr.toEndsPath rest) (by simp [reserved])
  noGap := gap_name hx _

end

/-- The text of a tag around a row of names with operators between them. -/
def sumText (x : String) (rest : List (ExactOp × String)) : String :=
  "\x7b\x7b " ++ x ++ String.join (rest.map fun p => " " ++ p.1.sign ++ " " ++ p.2) ++ " \x7d\x7d"

theorem toList_sumText (x : String) (rest : List (ExactOp × String)) :
    (sumText x rest).toList =
      valueText ⟨false, false⟩ [' '] (x.toList ++ chainText rest) [' '] := by
  have hchain : (String.join (rest.map fun p => " " ++ p.1.sign ++ " " ++ p.2)).toList =
      chainText rest := by
    rw [String.toList_join, List.flatMap_map]
    simp [chainText]
  simp [sumText, valueText, hchain]

/-- A tag around a row of names is read as the tree of the row. -/
theorem parse_sumText {x : String} {rest : List (ExactOp × String)} (hx : IsPlainName x.toList)
    (hrest : ∀ p ∈ rest, IsPlainName p.2.toList) :
    parse (sumText x rest) = .ok ⟨[.value ⟨false, false⟩ (group x rest).term.alone]⟩ := by
  have hblank : ∀ c ∈ [' '], isSpace c = true := List.all_eq_true.mp (by decide)
  obtain ⟨c, cs, hxc, hc⟩ := hx.exists_cons
  have hnode : ∀ n body, node (level (n + 1)) body .plain (sumText x rest).toList =
      some (.value ⟨false, false⟩ (group x rest).term.alone, []) := fun n body => by
    have hr := endsTag_append hblank false []
    have hvalue := value_sum (readsSum_chain (level n) hr hx hrest) hr
    rw [← List.append_assoc] at hvalue
    have hrow : x.toList ++ chainText rest = c :: (cs ++ chainText rest) := by
      rw [hxc, List.cons_append]
    have hnode := node_of_value body (by decide : Setting.plain ≠ .block) ⟨false, false⟩ hrow hc
      hblank hblank hvalue
    rwa [List.append_nil, ← toList_sumText] at hnode
  have hunshared : Unshared [.value ⟨false, false⟩ (group x rest).term.alone] := by
    simp [Unshared, partsAll, Node.parts, Node.shares]
  refine parse_eq_ok_of_body (n := (sumText x rest).toList.length + 1) (m := 1)
    (Nat.lt_succ_self _) (many_of_reads (.cons (hnode _ _) ?_ (.nil (node_nil _ _ _))))
    (accepted_of_unshared hunshared)
  simp [toList_sumText, valueText]

/-! ## Exact results -/

/-- The number is in the signed range of 64 bits. -/
def IsSigned (n : Int) : Prop := -0x8000000000000000 ≤ n ∧ n < 0x8000000000000000

theorem inSigned_iff {n : Int} : inSigned n = true ↔ IsSigned n := by
  simp only [inSigned, Bool.and_eq_true, decide_eq_true_eq]
  rfl

/-- The computation gives the number if the condition holds, and fails if not. -/
structure GivesIf (P : Prop) (n : Int) (r : Except Fault (Option Number)) : Prop where
  gives : P → r = .ok (some (.whole n))
  fails : ¬P → ∃ fault, r = .error fault

/-- An operator on two numbers in the range is exact where its result is in the range. -/
theorem ExactOp.apply_whole (op : ExactOp) (byZero : Fault) {m n : Int} (hm : IsSigned m)
    (hn : IsSigned n) : GivesIf (IsSigned (op.whole m n)) (op.whole m n)
      (op.arith.apply byZero (.whole m) (.whole n)) := by
  rw [← inSigned_iff] at hm hn
  refine ⟨fun h => ?_, fun h => ?_⟩
  · rw [← inSigned_iff] at h
    cases op <;> simp_all [ArithOp.apply, exactOr, arith, whole]
  · rw [← inSigned_iff] at h
    cases op <;> simp_all [ArithOp.apply, exactOr, arith, whole]

namespace Grouped

/-- Every result of an operator is in the range. -/
def InRange (val : String → Int) : Grouped → Prop
  | name _ => True
  | combined op l r =>
    l.InRange val ∧ r.InRange val ∧ IsSigned (op.whole (l.value val) (r.value val))

/-- The names in the tree, in their order. -/
def names (g : Grouped) : List String := g.first :: g.rest.map (·.2)

theorem names_combined (op : ExactOp) (l r : Grouped) :
    (combined op l r).names = l.names ++ r.names := by
  simp [names, first, rest]

section

variable {sc : Scope} {val : String → Int}

/-- The names mean numbers in the range. -/
def Bound (sc : Scope) (val : String → Int) (names : List String) : Prop :=
  ∀ y ∈ names, sc.read y = .ok (.number (.whole (val y))) ∧ IsSigned (val y)

theorem isSigned_value {g : Grouped} (h : Bound sc val g.names) (hrange : g.InRange val) :
    IsSigned (g.value val) := by
  cases g with
  | name x => exact (h x (by simp [names, first])).2
  | combined op l r => exact hrange.2.2

variable [World]

/-- The number of a tree is exact, or there is none. -/
theorem number_term : ∀ {g : Grouped}, Bound sc val g.names →
    GivesIf (g.InRange val) (g.value val) (g.term.number sc)
  | name x, h => by
    obtain ⟨hread, -⟩ := h x (by simp [names, first])
    refine ⟨fun _ => ?_, fun hrange => absurd trivial hrange⟩
    simp only [term, Term.number, hread, bind, Except.bind, pure, Except.pure, value]
  | combined op l r, h => by
    rw [names_combined] at h
    obtain ⟨hl, hr⟩ := List.forall_mem_append.mp h
    obtain ⟨hleft, hleftFails⟩ := number_term hl
    obtain ⟨hright, hrightFails⟩ := number_term hr
    have hnumber : (combined op l r).term.number sc =
        operate op.arith l.term.alone r.term.alone (l.term.number sc) (r.term.number sc) := by
      simp only [term, Term.number, Term.alone, Expr.number, decideNumber, List.isEmpty_nil,
        if_true]
    rw [hnumber]
    by_cases hlrange : l.InRange val
    · by_cases hrrange : r.InRange val
      · -- both operands are there, and the operator decides
        obtain ⟨hgives, hfails⟩ :=
          op.apply_whole _ (isSigned_value hl hlrange) (isSigned_value hr hrrange)
        rw [hleft hlrange, hright hrrange]
        exact ⟨fun h => hgives h.2.2, fun h => hfails fun hs => h ⟨hlrange, hrrange, hs⟩⟩
      · obtain ⟨fault, hfault⟩ := hrightFails hrrange
        refine ⟨fun h => absurd h.2.1 hrrange, fun _ => ⟨fault, ?_⟩⟩
        rw [hleft hlrange, hfault]
        rfl
    · obtain ⟨fault, hfault⟩ := hleftFails hlrange
      refine ⟨fun h => absurd h.1 hlrange, fun _ => ⟨fault, ?_⟩⟩
      rw [hfault]
      rfl

/-- The value of a tree is its number, or there is none. -/
theorem value_term {g : Grouped} (h : Bound sc val g.names) :
    (g.InRange val → g.term.alone.value sc = .ok (.number (.whole (g.value val)))) ∧
      (¬g.InRange val → ∃ fault, g.term.alone.value sc = .error fault) := by
  obtain ⟨hgives, hfails⟩ := number_term h
  cases g with
  | name x =>
    obtain ⟨hread, -⟩ := h x (by simp [names, first])
    exact ⟨fun _ => (value_path sc x).trans hread, fun hrange => absurd trivial hrange⟩
  | combined op l r =>
    have hvalue : (combined op l r).term.alone.value sc =
        ofArithmetic ((combined op l r).term.number sc) := by
      simp only [term, Term.alone, Expr.value, Term.value, Term.number, assemble]
      cases operate op.arith _ _ _ _ <;> simp [ofArithmetic, applyFilters, settle, bind,
        Except.bind, pure, Except.pure]
    rw [hvalue]
    refine ⟨fun hrange => ?_, fun hrange => ?_⟩
    · rw [hgives hrange]
      rfl
    · obtain ⟨fault, hfault⟩ := hfails hrange
      exact ⟨_, by rw [hfault]; rfl⟩

end

end Grouped

/-! ## The rendered number -/

/-- A tag of names with `+`, `-` and `*` between them gives the value of the one tree that the usual
precedence makes of them, if each result on the way is in the range, and else fails. -/
theorem sum_renders_exact [World] {x : String} {rest : List (ExactOp × String)}
    (hx : (Segment.tag x).Valid) (hrest : ∀ p ∈ rest, (Segment.tag p.2).Valid) :
    ∃ t g, parse (sumText x rest) = .ok t ∧ Groups x rest g ∧ (∀ g', Groups x rest g' → g' = g) ∧
      ∀ (c : Context) (val : String → Int),
        (∀ y ∈ x :: rest.map (·.2),
          Fields.get? y c = some (.number (.whole (val y))) ∧ IsSigned (val y)) →
        (g.InRange val → t.render c = .ok (toString (g.value val))) ∧
          (¬g.InRange val → ∃ fault, t.render c = .error (.render fault)) := by
  have hgroups := groups_group x rest
  refine ⟨_, _, parse_sumText hx.1 fun p hp => (hrest p hp).1, hgroups,
    fun g' hg' => hg'.eq_group, fun c val hval => ?_⟩
  have hnames : (group x rest).names = x :: rest.map (·.2) := by
    rw [Grouped.names, hgroups.first_eq, hgroups.rest_eq]
  have hvalid : ∀ y ∈ x :: rest.map (·.2), (Segment.tag y).Valid := by
    rw [List.forall_mem_cons, List.forall_mem_map]
    exact ⟨hx, hrest⟩
  have hbound : Grouped.Bound ⟨[], [], c⟩ val (group x rest).names := fun y hy => by
    rw [hnames] at hy
    obtain ⟨hget, hsigned⟩ := hval y hy
    exact ⟨by rw [read_plain (hvalid y hy).1 (hvalid y hy).ne_wholeContext, hget], hsigned⟩
  obtain ⟨hvalue, hfails⟩ := Grouped.value_term hbound
  refine ⟨fun hrange => ?_, fun hrange => ?_⟩
  · simp only [Template.render, renderAll_value _ _ _ (hvalue hrange), renderAll_nil, Except.map,
      String.append_empty, Value.render, Number.write]
  · obtain ⟨fault, hfault⟩ := hfails hrange
    exact ⟨fault, by simp only [Template.render, renderAll_value_error _ _ _ hfault]⟩

/-- The product is taken first. If it leaves the range the tag fails, though the difference would
be back in it. -/
theorem sum_renders_exact_product :
    ∃ t, parse "\x7b\x7b a - b * c \x7d\x7d" = .ok t ∧
      t.render [("a", .number (.whole 1)), ("b", .number (.whole 2)), ("c", .number (.whole 3))] =
        .ok "-5" ∧
      ∃ fault, t.render [("a", .number (.whole 1)), ("b", .number (.whole 0x4000000000000000)),
        ("c", .number (.whole 2))] = .error (.render fault) := by
  have hvalid : ∀ y ∈ ["a", "b", "c"], (Segment.tag y).Valid := by
    simp only [List.forall_mem_cons]
    refine ⟨⟨⟨⟨'a', [], rfl, rfl, by simp⟩, ?_⟩, ?_⟩, ⟨⟨⟨'b', [], rfl, rfl, by simp⟩, ?_⟩, ?_⟩,
      ⟨⟨⟨'c', [], rfl, rfl, by simp⟩, ?_⟩, ?_⟩, by simp⟩ <;> decide
  have hrest : ∀ p ∈ [(ExactOp.sub, "b"), (.mul, "c")], (Segment.tag p.2).Valid :=
    List.forall_mem_cons.mpr
      ⟨hvalid "b" (by simp), List.forall_mem_singleton.mpr (hvalid "c" (by simp))⟩
  obtain ⟨t, g, hparse, -, hunique, hrender⟩ := sum_renders_exact (hvalid "a" (by simp)) hrest
  obtain rfl := hunique (.combined .sub (.name "a") (.combined .mul (.name "b") (.name "c")))
    ⟨.sub (.product (.name "a")) (.mul (.name "b") "c"), rfl, rfl⟩
  refine ⟨t, hparse, ?_, ?_⟩
  · exact (hrender _ (fun y => if y = "a" then 1 else if y = "b" then 2 else 3)
      (by simp [Fields.get?, IsSigned])).1 (by simp [Grouped.InRange, Grouped.value, ExactOp.whole,
        IsSigned])
  · exact (hrender _ (fun y => if y = "a" then 1 else if y = "b" then 0x4000000000000000 else 2)
      (by simp [Fields.get?, IsSigned])).2 (by simp [Grouped.InRange, Grouped.value, ExactOp.whole,
        IsSigned])

end UserConfigs.Template
