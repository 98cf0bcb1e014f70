import UserConfigs.Template.ExprReader
import UserConfigs.Template.Arith

/-!
# Grouping by precedence

Sums, differences and products of names, as they are written (`Grouped.first`, `Grouped.rest`) and
as they are meant. The usual precedence puts products before sums and goes from left to right
(`Grouped.IsSum`), and each row of names and operators is that of one such tree (`Groups`). It is
the tree that `climb` makes of the row (`groups_group`, `Groups.eq_group`), where what is pending is
a sum and the operand in hand is a product.
-/

namespace UserConfigs.Template

/-- The operators that are exact on whole numbers. -/
inductive ExactOp where
  | add
  | sub
  | mul
  deriving Repr, DecidableEq

namespace ExactOp

/-- The operator of the template language. -/
def arith : ExactOp → ArithOp
  | add => .add
  | sub => .sub
  | mul => .mul

/-- The operator as it is written. -/
def sign : ExactOp → String
  | add => "+"
  | sub => "-"
  | mul => "*"

/-- The operator on the integers. -/
def whole : ExactOp → Int → Int → Int
  | add, m, n => m + n
  | sub, m, n => m - n
  | mul, m, n => m * n

end ExactOp

/-- Names put together by operators. -/
inductive Grouped where
  | name (x : String)
  | combined (op : ExactOp) (left right : Grouped)
  deriving Repr, DecidableEq

namespace Grouped

/-- The first name of the row. -/
def first : Grouped → String
  | name x => x
  | combined _ l _ => l.first

/-- The operators of the row, each with the name after it. -/
def rest : Grouped → List (ExactOp × String)
  | name _ => []
  | combined op l r => l.rest ++ (op, r.first) :: r.rest

/-- Names multiplied from left to right. -/
inductive IsProduct : Grouped → Prop where
  | name (x : String) : IsProduct (name x)
  | mul {l : Grouped} (hl : IsProduct l) (x : String) : IsProduct (combined .mul l (name x))

/-- Products added and subtracted from left to right. -/
inductive IsSum : Grouped → Prop where
  | product {g : Grouped} (hg : IsProduct g) : IsSum g
  | add {l r : Grouped} (hl : IsSum l) (hr : IsProduct r) : IsSum (combined .add l r)
  | sub {l r : Grouped} (hl : IsSum l) (hr : IsProduct r) : IsSum (combined .sub l r)

/-- The value if the names have values. -/
def value (val : String → Int) : Grouped → Int
  | name x => val x
  | combined op l r => op.whole (l.value val) (r.value val)

/-- The term that the template language makes of it. -/
def term : Grouped → Term
  | name x => .path x
  | combined op l r => .arith op.arith l.term.alone r.term.alone

end Grouped

/-- The tree that a row of names and operators stands for. -/
structure Groups (x : String) (rest : List (ExactOp × String)) (g : Grouped) : Prop where
  isSum : g.IsSum
  first_eq : g.first = x
  rest_eq : g.rest = rest

/-! ## What `climb` makes of a row -/

/-- The chain that is grouped : each operator with its right operand. -/
def operands (rest : List (ExactOp × String)) : List (ExactOp × Grouped) :=
  rest.map fun p => (p.1, .name p.2)

/-- The rest of a row grouped by precedence. -/
def groupFrom (pending : Option (Grouped × ExactOp)) (a : Grouped)
    (rest : List (ExactOp × String)) : Grouped :=
  climbFrom (·.arith.isTight) .combined pending a (operands rest)

/-- A row grouped by precedence. -/
def group (x : String) (rest : List (ExactOp × String)) : Grouped := groupFrom none (.name x) rest

theorem groupFrom_nil (pending : Option (Grouped × ExactOp)) (a : Grouped) :
    groupFrom pending a [] = close .combined pending a := rfl

theorem groupFrom_cons (pending : Option (Grouped × ExactOp)) (a : Grouped) (op : ExactOp)
    (y : String) (rest : List (ExactOp × String)) :
    groupFrom pending a ((op, y) :: rest) =
      if op.arith.isTight then groupFrom pending (.combined op a (.name y)) rest
      else groupFrom (some (close .combined pending a, op)) (.name y) rest := rfl

/-- The row grouped so far : what is pending is a sum, the operand in hand is a product. -/
structure Climbing (pending : Option (Grouped × ExactOp)) (a : Grouped) : Prop where
  sum : ∀ p ∈ pending, p.1.IsSum ∧ p.2.arith.isTight = false
  product : a.IsProduct

namespace Climbing

variable {pending : Option (Grouped × ExactOp)} {a : Grouped} (h : Climbing pending a)
include h

theorem isSum : (close .combined pending a).IsSum := by
  rcases pending with _ | ⟨l, op⟩
  · exact .product h.product
  · obtain ⟨hl, hop⟩ := h.sum (l, op) rfl
    cases op with
    | add => exact .add hl h.product
    | sub => exact .sub hl h.product
    | mul => simp [ExactOp.arith, ArithOp.isTight] at hop

/-- Grouping goes on to a sum, and keeps the row as it is written. -/
theorem groups (rest : List (ExactOp × String)) :
    Groups (close .combined pending a).first ((close .combined pending a).rest ++ rest)
      (groupFrom pending a rest) := by
  induction rest generalizing pending a with
  | nil => exact ⟨h.isSum, rfl, (List.append_nil _).symm⟩
  | cons p rest ih =>
    obtain ⟨op, y⟩ := p
    rw [groupFrom_cons]
    split
    · next hop =>
      obtain rfl : op = .mul := by cases op <;> simp_all [ExactOp.arith, ArithOp.isTight]
      have hmul := ih ⟨h.sum, .mul h.product y⟩
      cases pending <;> simpa [close, Grouped.first, Grouped.rest] using hmul
    · next hop =>
      have hpending : ∀ p ∈ some (close .combined pending a, op),
          p.1.IsSum ∧ p.2.arith.isTight = false := fun p hp => by
        obtain rfl := Option.mem_some.mp hp
        exact ⟨h.isSum, Bool.eq_false_iff.mpr hop⟩
      simpa [close, Grouped.first, Grouped.rest] using ih ⟨hpending, .name y⟩

end Climbing

theorem groups_group (x : String) (rest : List (ExactOp × String)) :
    Groups x rest (group x rest) := by
  have hstart : Climbing none (.name x) := ⟨nofun, .name x⟩
  exact hstart.groups rest

/-! ## No other tree -/

namespace Grouped

/-- A product is gathered in the operand in hand. -/
theorem IsProduct.groupFrom_eq {g : Grouped} (h : g.IsProduct)
    (pending : Option (Grouped × ExactOp)) (more : List (ExactOp × String)) :
    groupFrom pending (.name g.first) (g.rest ++ more) = groupFrom pending g more := by
  induction h generalizing more with
  | name x => rfl
  | mul hl x ih =>
    rw [rest, List.append_assoc]
    exact ih _

/-- The row of the tree is gathered in what is pending and the operand in hand. -/
def Gathered (g : Grouped) (pending : Option (Grouped × ExactOp)) (a : Grouped) : Prop :=
  close combined pending a = g ∧
    ∀ more, groupFrom none (name g.first) (g.rest ++ more) = groupFrom pending a more

/-- A product after a loose operator is the next operand in hand. -/
theorem Gathered.loose {l r a : Grouped} {op : ExactOp} {pending : Option (Grouped × ExactOp)}
    (h : l.Gathered pending a) (hop : op.arith.isTight = false) (hr : r.IsProduct) :
    (combined op l r).Gathered (some (l, op)) r := by
  obtain ⟨rfl, hl⟩ := h
  refine ⟨rfl, fun more => ?_⟩
  rw [rest, List.append_assoc, List.cons_append, first, hl, groupFrom_cons, if_neg (by simp [hop])]
  exact hr.groupFrom_eq _ more

theorem IsSum.gathered {g : Grouped} (h : g.IsSum) : ∃ pending a, g.Gathered pending a := by
  induction h with
  | product hg => exact ⟨none, _, rfl, hg.groupFrom_eq none⟩
  | add _ hr ih =>
    obtain ⟨pending, a, hl⟩ := ih
    exact ⟨_, _, hl.loose rfl hr⟩
  | sub _ hr ih =>
    obtain ⟨pending, a, hl⟩ := ih
    exact ⟨_, _, hl.loose rfl hr⟩

end Grouped

/-- A row stands for no other tree. -/
theorem Groups.eq_group {x : String} {rest : List (ExactOp × String)} {g : Grouped}
    (h : Groups x rest g) : g = group x rest := by
  obtain ⟨pending, a, hclose, hgathered⟩ := h.isSum.gathered
  have hend := hgathered []
  rw [List.append_nil, h.first_eq, h.rest_eq, groupFrom_nil, hclose] at hend
  exact hend.symm

/-! ## The term of a row -/

/-- Grouping commutes with maps of the operands. -/
theorem climbFrom_map {Op Op' α β : Type} {tight : Op → Bool} {tight' : Op' → Bool}
    {make : Op → α → α → α} {make' : Op' → β → β → β} {k : Op → Op'} {f : α → β}
    (htight : ∀ op, tight' (k op) = tight op)
    (hmake : ∀ op a b, f (make op a b) = make' (k op) (f a) (f b)) (rest : List (Op × α)) :
    ∀ (pending : Option (α × Op)) (a : α),
      climbFrom tight' make' (pending.map fun p => (f p.1, k p.2)) (f a)
        (rest.map fun p => (k p.1, f p.2)) = f (climbFrom tight make pending a rest) := by
  have hclose : ∀ (pending : Option (α × Op)) (a : α),
      close make' (pending.map fun p => (f p.1, k p.2)) (f a) = f (close make pending a) :=
    fun pending a => by cases pending <;> simp [close, hmake]
  induction rest with
  | nil => exact hclose
  | cons p rest ih =>
    intro pending a
    rw [List.map_cons, climbFrom, climbFrom, htight]
    split
    · rw [← hmake, ih]
    · rw [hclose, ← ih]
      rfl

theorem climb_path (x : String) (rest : List (ExactOp × String)) :
    climb ArithOp.isTight (fun op a b => .arith op a.alone b.alone) (.path x)
      (rest.map fun p => (p.1.arith, .path p.2)) = (group x rest).term := by
  have hoperands : (rest.map fun p => (p.1.arith, Term.path p.2)) =
      (operands rest).map fun p => (p.1.arith, p.2.term) := by
    rw [operands, List.map_map]
    rfl
  rw [hoperands]
  refine climbFrom_map (f := Grouped.term) (k := ExactOp.arith) ?_ ?_ (operands rest) none (.name x)
  · exact fun _ => rfl
  · exact fun _ _ _ => rfl

end UserConfigs.Template
