import UserConfigs.Proofs.Ascending
import UserConfigs.Template.Scope

/-!
# What lies over the context

All bindings of a scope in one (`Scope.bindings`) are its context with other names laid over it :
those that the loops bind and those that were set (`Scope.over?`). A loop that is entered lies below
all of them (`over?_enter`). The bindings stand in ascending order whatever the context is, so two
scopes have the same bindings if the same is found in them (`read_whole_congr`).
-/

namespace UserConfigs.Template

namespace LoopFrame

/-- What a loop binds a name to. -/
def bound? (f : LoopFrame) (z : String) : Option Value :=
  if f.key = some z then some (.text f.currentKey)
  else if z = f.item then some f.current
  else Fields.get? z f.names

/-- What a loop binds comes before the other names. -/
theorem get?_bindings (f : LoopFrame) (fields : Fields Value) (z : String) :
    Fields.get? z (f.bindings fields) = (f.bound? z <|> Fields.get? z fields) := by
  obtain ⟨item, key, index, count, currentKey, current, names⟩ := f
  unfold bindings bound?
  cases key with
  | none => by_cases hz : z = item <;> simp [Fields.get?_insert, Fields.get?_insertAll, hz]
  | some key =>
    by_cases hkey : z = key
    · simp [Fields.get?_insert, hkey]
    · have hne : key ≠ z := fun h => hkey h.symm
      simp only [Fields.get?_insert, Fields.get?_insertAll, hkey, hne, Option.some.injEq, if_false]
      by_cases hz : z = item <;> simp [hz]

theorem ascending_bindings (f : LoopFrame) {fields : Fields Value} (h : fields.Ascending) :
    (f.bindings fields).Ascending := by
  have hitem := Fields.ascending_insert f.item f.current (Fields.ascending_insertAll f.names h)
  unfold bindings
  split
  · exact Fields.ascending_insert _ _ hitem
  · exact hitem

end LoopFrame

namespace Scope

/-- What the loops bind a name to, the outermost one of those that bind it. -/
def loopsOver? (z : String) : List LoopFrame → Option Value
  | [] => none
  | f :: loops => loopsOver? z loops <|> f.bound? z

/-- What lies over the context for a name. -/
def over? (sc : Scope) (z : String) : Option Value :=
  Fields.get? z sc.names <|> loopsOver? z sc.loops

theorem get?_foldl (z : String) : ∀ (loops : List LoopFrame) (fields : Fields Value),
    Fields.get? z (loops.foldl (fun fields f => f.bindings fields) fields) =
      (loopsOver? z loops <|> Fields.get? z fields)
  | [], _ => by simp [loopsOver?]
  | f :: loops, fields => by
    rw [List.foldl_cons, get?_foldl z loops, f.get?_bindings, loopsOver?]
    cases loopsOver? z loops <;> simp

/-- A name stands for what lies over the context, or else for what the context says. -/
theorem get?_bindings (sc : Scope) (z : String) :
    Fields.get? z sc.bindings = (sc.over? z <|> Fields.get? z sc.context) := by
  rw [bindings, Fields.get?_insertAll, get?_foldl, Fields.get?_insertAll, over?]
  cases Fields.get? z sc.names <;> simp [Fields.get?]

/-- The bindings are in order, even if the context is not. -/
theorem ascending_bindings (sc : Scope) : sc.bindings.Ascending := by
  have hloops : ∀ (loops : List LoopFrame) {fields : Fields Value}, fields.Ascending →
      (loops.foldl (fun fields f => f.bindings fields) fields).Ascending := by
    intro loops
    induction loops with
    | nil => exact fun h => h
    | cons f loops ih => exact fun h => ih (f.ascending_bindings h)
  exact Fields.ascending_insertAll _ (hloops _ (Fields.ascending_insertAll _ List.Pairwise.nil))

/-- A loop that is entered lies below what was there before. -/
theorem over?_enter (sc : Scope) (f : LoopFrame) (z : String) :
    (sc.enter f).over? z = (sc.over? z <|> f.bound? z) := by
  rw [over?, over?, enter, loopsOver?]
  cases Fields.get? z sc.names <;> simp

/-- All bindings are one text in scopes in which the same is found under each name. -/
theorem read_whole_congr {a b : Scope}
    (h : ∀ z, (a.over? z <|> Fields.get? z a.context) = (b.over? z <|> Fields.get? z b.context)) :
    a.read wholeContext = b.read wholeContext := by
  have hbindings : a.bindings = b.bindings :=
    Fields.eq_of_get? a.ascending_bindings b.ascending_bindings fun z => by
      rw [a.get?_bindings, b.get?_bindings, h]
  rw [read, read, if_pos rfl, if_pos rfl, hbindings]

end Scope

end UserConfigs.Template
