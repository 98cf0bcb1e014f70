/-!
# Names in ascending order

`Fields α` pairs names with what they stand for. `insert` puts a name where the order wants
it and replaces what it stood for, `erase` takes it away, `get?` looks it up. The first two
are known by what `get?` finds afterwards (`get?_insert`, `get?_erase`), as is `insertAll`;
insertions of two names commute (`insert_comm`), and an insertion drops an earlier one of its
name (`insert_insert`).
-/

namespace UserConfigs

/-- Names with what they stand for. The operations keep them in ascending order. -/
abbrev Fields (α : Type) := List (String × α)

namespace Fields

variable {α : Type}

/-- What a name stands for. -/
def get? (name : String) : Fields α → Option α
  | [] => none
  | (m, a) :: rest => if name = m then some a else get? name rest

/-- Bind a name, in place of an earlier binding. -/
def insert (name : String) (a : α) : Fields α → Fields α
  | [] => [(name, a)]
  | (m, b) :: rest =>
    if name = m then (name, a) :: rest
    else if name < m then (name, a) :: (m, b) :: rest
    else (m, b) :: insert name a rest

/-- Bind all names of `new`, in place of bindings in `old`. -/
def insertAll (new old : Fields α) : Fields α :=
  new.foldr (fun f fields => insert f.1 f.2 fields) old

/-- Take a name away. -/
def erase (name : String) (fields : Fields α) : Fields α :=
  fields.filter fun f => f.1 ≠ name

/-- Bind the names in turn, a later binding in place of an earlier one. -/
def ofList (l : List (String × α)) : Fields α :=
  l.foldl (fun fields f => insert f.1 f.2 fields) []

theorem get?_insert (name key : String) (a : α) (fields : Fields α) :
    get? key (insert name a fields) = if key = name then some a else get? key fields := by
  induction fields with
  | nil => simp [insert, get?]
  | cons f rest ih =>
    obtain ⟨m, b⟩ := f
    unfold insert
    split
    · next h => subst h; by_cases hk : key = name <;> simp [get?, hk]
    · next h =>
      split
      · by_cases hk : key = name <;> simp [get?, hk]
      · by_cases hk : key = m
        · subst hk; simp [get?, Ne.symm h]
        · simp [get?, hk, ih]

theorem get?_erase (name key : String) (fields : Fields α) :
    get? key (erase name fields) = if key = name then none else get? key fields := by
  induction fields with
  | nil => simp [erase, get?]
  | cons f rest ih =>
    obtain ⟨m, b⟩ := f
    unfold erase at ih ⊢
    by_cases hm : m = name
    · subst hm
      by_cases hk : key = m
      · simp [hk] at ih ⊢; simpa using ih
      · simp [hk, get?] at ih ⊢; exact ih
    · by_cases hk : key = m
      · subst hk; simp [hm, get?]
      · simp [hm, get?, hk] at ih ⊢; exact ih

theorem get?_insertAll (key : String) (new old : Fields α) :
    get? key (insertAll new old) = (get? key new <|> get? key old) := by
  induction new with
  | nil => simp [insertAll, get?]
  | cons f rest ih =>
    rw [insertAll] at ih ⊢
    by_cases hk : key = f.1 <;> simp [get?_insert, get?, hk, ih]

theorem insert_insert (name : String) (a b : α) (fields : Fields α) :
    insert name a (insert name b fields) = insert name a fields := by
  induction fields with
  | nil => simp [insert]
  | cons f rest ih =>
    obtain ⟨m, c⟩ := f
    by_cases h : name = m
    · simp [insert, h]
    · by_cases h' : name < m <;> simp [insert, h, h', ih]

theorem lt_or_gt_of_ne {m n : String} (h : m ≠ n) : m < n ∨ n < m := by
  by_cases hl : m < n
  · exact Or.inl hl
  · by_cases hr : n < m
    · exact Or.inr hr
    · exact absurd (String.le_antisymm (String.not_lt.mp hr) (String.not_lt.mp hl)) h

theorem insert_comm {m n : String} (h : m ≠ n) (a b : α) (fields : Fields α) :
    insert m a (insert n b fields) = insert n b (insert m a fields) := by
  have total := lt_or_gt_of_ne h
  have asymm : ¬ (m < n ∧ n < m) := fun hl => String.lt_asymm hl.1 hl.2
  induction fields with
  | nil => grind [insert]
  | cons f rest ih =>
    obtain ⟨k, c⟩ := f
    have trans : (m < n → n < k → m < k) ∧ (n < m → m < k → n < k) :=
      ⟨fun h₁ h₂ => String.lt_trans h₁ h₂, fun h₁ h₂ => String.lt_trans h₁ h₂⟩
    grind [insert]

end Fields

end UserConfigs
