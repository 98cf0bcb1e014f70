import Mathlib.Data.List.Induction
import Mathlib.Data.List.Sort
import UserConfigs.Fields

/-!
# Fields in ascending order

Fields that were bound in turn stand in ascending order (`ascending_ofList`), so a name is among
them with what `get?` finds (`mem_iff_get?`), and that is what it was bound to last (`get?_ofList`).
Names that are bound in ascending order stay as they are (`ofList_of_ascending`). Fields in which
the same is found are the same (`eq_of_get?`).
-/

namespace UserConfigs.Fields
variable {α : Type}

/-- What is in the fields after an insertion is new or was there. -/
theorem mem_insert {name : String} {a : α} {f : String × α} :
    ∀ {fields : Fields α}, f ∈ insert name a fields → f = (name, a) ∨ f ∈ fields
  | [], h => Or.inl (List.mem_singleton.mp h)
  | g :: rest, h => by
    unfold insert at h
    split at h
    · rcases List.mem_cons.mp h with h | h
      · exact Or.inl h
      · exact Or.inr (List.mem_cons_of_mem g h)
    · split at h
      · exact List.mem_cons.mp h
      · rcases List.mem_cons.mp h with h | h
        · exact Or.inr (h ▸ List.mem_cons_self)
        · exact (mem_insert h).imp id (List.mem_cons_of_mem g)

/-- The names stand in ascending order, each of them once. -/
def Ascending (fields : Fields α) : Prop := fields.Pairwise fun f g => f.1 < g.1

/-- A name goes where the order wants it. -/
theorem ascending_insert (name : String) (a : α) {fields : Fields α} (h : fields.Ascending) :
    (insert name a fields).Ascending := by
  induction fields with
  | nil => exact List.pairwise_singleton _ _
  | cons f rest ih =>
    obtain ⟨m, b⟩ := f
    obtain ⟨hm, hrest⟩ := List.pairwise_cons.mp h
    unfold insert
    split
    · next heq => exact List.pairwise_cons.mpr ⟨heq ▸ hm, hrest⟩
    · next hne =>
      split
      · next hlt =>
        refine List.pairwise_cons.mpr ⟨fun g hg => ?_, h⟩
        rcases List.mem_cons.mp hg with rfl | hg
        · exact hlt
        · exact String.lt_trans hlt (hm g hg)
      · next hge =>
        have hlt : m < name := (lt_or_gt_of_ne hne).resolve_left hge
        refine List.pairwise_cons.mpr ⟨fun g hg => ?_, ih hrest⟩
        rcases mem_insert hg with rfl | hg
        · exact hlt
        · exact hm g hg

theorem ofList_append_singleton (l : List (String × α)) (f : String × α) :
    ofList (l ++ [f]) = insert f.1 f.2 (ofList l) := by
  rw [ofList, List.foldl_append]
  rfl

theorem ascending_ofList (l : List (String × α)) : (ofList l).Ascending := by
  induction l using List.reverseRecOn with
  | nil => exact List.Pairwise.nil
  | append_singleton l f ih =>
    rw [ofList_append_singleton]
    exact ascending_insert f.1 f.2 ih

/-- In ascending fields each name stands once. -/
theorem mem_iff_get? {fields : Fields α} (h : fields.Ascending) {name : String} {a : α} :
    (name, a) ∈ fields ↔ get? name fields = some a := by
  induction fields with
  | nil => simp [get?]
  | cons f rest ih =>
    obtain ⟨m, b⟩ := f
    obtain ⟨hm, hrest⟩ := List.pairwise_cons.mp h
    by_cases hname : name = m
    · subst hname
      have hnot : (name, a) ∉ rest := fun ha => String.lt_irrefl name (hm _ ha)
      simp [get?, hnot, eq_comm]
    · simp [get?, hname, ih hrest]

theorem ascending_insertAll (new : Fields α) {old : Fields α} (h : old.Ascending) :
    (insertAll new old).Ascending := by
  induction new with
  | nil => exact h
  | cons f rest ih => exact ascending_insert f.1 f.2 ih

/-- Fields in ascending order are known by what is found in them. -/
theorem eq_of_get? {fields fields' : Fields α} (h : fields.Ascending) (h' : fields'.Ascending)
    (hget : ∀ name, get? name fields = get? name fields') : fields = fields' := by
  have hirrefl : Std.Irrefl fun f g : String × α => f.1 < g.1 := ⟨fun f => String.lt_irrefl f.1⟩
  refine List.Pairwise.eq_of_mem_iff h h' fun f => ?_
  rw [mem_iff_get? h, mem_iff_get? h', hget]

/-- A name above all others goes to the end. -/
theorem insert_eq_append {name : String} (a : α) :
    ∀ {fields : Fields α}, (∀ f ∈ fields, f.1 < name) → insert name a fields = fields ++ [(name, a)]
  | [], _ => rfl
  | f :: rest, h => by
    obtain ⟨hf, hrest⟩ := List.forall_mem_cons.mp h
    have hne : name ≠ f.1 := fun heq => String.lt_irrefl _ (heq ▸ hf)
    rw [insert, if_neg hne, if_neg (String.lt_asymm hf), insert_eq_append a hrest, List.cons_append]

/-- Fields that are in order already are left as they are. -/
theorem ofList_of_ascending {l : List (String × α)} (h : Ascending l) : ofList l = l := by
  induction l using List.reverseRecOn with
  | nil => rfl
  | append_singleton l f ih =>
    obtain ⟨hl, -, hf⟩ := List.pairwise_append.mp h
    rw [ofList_append_singleton, ih hl, insert_eq_append f.2 fun g hg => hf g hg f (by simp)]

/-- A name stands for what it was bound to last. -/
theorem get?_ofList {l : List (String × α)} {name : String} {a : α} :
    get? name (ofList l) = some a ↔
      ∃ before after, l = before ++ (name, a) :: after ∧ ∀ f ∈ after, f.1 ≠ name := by
  induction l using List.reverseRecOn with
  | nil => simp [ofList, get?]
  | append_singleton l f ih =>
    rw [ofList_append_singleton, get?_insert]
    constructor
    · intro h
      split at h
      · next heq =>
        obtain rfl := Option.some.inj h
        exact ⟨l, [], by rw [heq], by simp⟩
      · next hne =>
        obtain ⟨before, after, rfl, hafter⟩ := ih.mp h
        refine ⟨before, after ++ [f], by simp, fun g hg => ?_⟩
        rcases List.mem_append.mp hg with hg | hg
        · exact hafter g hg
        · rw [List.mem_singleton.mp hg]
          exact Ne.symm hne
    · rintro ⟨before, after, hl, hafter⟩
      rcases List.eq_nil_or_concat after with rfl | ⟨init, g, rfl⟩
      · obtain ⟨-, hf⟩ := List.append_inj' hl rfl
        rw [List.singleton_inj.mp hf]
        simp
      · rw [List.concat_eq_append, ← List.cons_append, ← List.append_assoc] at hl
        obtain ⟨hinit, hf⟩ := List.append_inj' hl rfl
        obtain rfl := List.singleton_inj.mp hf
        rw [if_neg (Ne.symm (hafter f (by simp)))]
        exact ih.mpr ⟨before, init, hinit, fun h hh => hafter h (by simp [hh])⟩

end UserConfigs.Fields
