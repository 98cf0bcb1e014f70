import UserConfigs.Proofs.PathNames
import UserConfigs.Template.Eval

/-!
# What an expression asks for

An expression looks at the scope through its paths, those in the arguments of functions, filters and
tests included, and through the macros that it calls, which see the context (`Expr.queries`).
Without macros, the clock and chance it has the same value in two scopes that read the same at each
of its paths, holds in both or in none, and fails in both for the same reason (`Expr.congr`).
-/

namespace UserConfigs.Template

/-! ## Queries -/

/-- What a rendering asks for. -/
inductive Query where
  /-- What a path leads to. -/
  | path (p : String)
  /-- What the names do not tell, and what need not be the same a second time : a macro, the clock,
  chance, or the template itself. -/
  | outside
  deriving Repr, DecidableEq

/-- A function does not give the same each time. -/
def Function.varies : Function → Bool
  | .now | .random => true
  | .range | .throw | .environment => false

/-- What a function asks for besides its arguments. -/
def functionQueries (name : String) : List Query :=
  if (Function.named? name).any Function.varies then [.outside] else []

mutual

/-- What an expression asks for. -/
def Expr.queries : Expr → List Query
  | .mk t _ fs => t.queries ++ callsQueries fs

/-- What a term asks for. -/
def Term.queries : Term → List Query
  | .path p => [.path p]
  | .call (.mk name args) => functionQueries name ++ argsQueries args
  | .invoke _ (.mk _ args) => .outside :: argsQueries args
  | .concat parts => termsQueries parts
  | .array items => exprsQueries items
  | .arith _ l r | .order _ l r | .equal _ l r | .junction _ l r | .member _ l r =>
    l.queries ++ r.queries
  | .test subject _ _ args => .path subject :: exprsQueries args
  | .text _ | .whole _ | .float _ | .bool _ => []

/-- What the arguments of a call ask for. -/
def Call.queries : Call → List Query
  | .mk _ args => argsQueries args

/-- What the arguments of filters ask for. -/
def callsQueries : List Call → List Query
  | [] => []
  | f :: rest => f.queries ++ callsQueries rest

/-- What named arguments ask for. -/
def argsQueries : List (String × Expr) → List Query
  | [] => []
  | (_, e) :: rest => e.queries ++ argsQueries rest

/-- What expressions in a row ask for. -/
def exprsQueries : List Expr → List Query
  | [] => []
  | e :: rest => e.queries ++ exprsQueries rest

/-- What joined parts ask for. -/
def termsQueries : List Term → List Query
  | [] => []
  | t :: rest => t.queries ++ termsQueries rest

end

/-! ## Scopes that read the same -/

/-- The queries are paths, at which the scopes read the same. -/
def ReadAlike (a b : Scope) (queries : List Query) : Prop :=
  ∀ q ∈ queries, ∃ p, q = .path p ∧ a.read p = b.read p

section

variable {a b : Scope}

theorem readAlike_append {ps qs : List Query} :
    ReadAlike a b (ps ++ qs) ↔ ReadAlike a b ps ∧ ReadAlike a b qs :=
  List.forall_mem_append

theorem readAlike_path {p : String} {qs : List Query} :
    ReadAlike a b (.path p :: qs) ↔ a.read p = b.read p ∧ ReadAlike a b qs := by
  simp [ReadAlike]

theorem not_readAlike_outside {qs : List Query} : ¬ReadAlike a b (.outside :: qs) := by
  simp [ReadAlike]

variable [World]

/-- The three readings of an expression are the same in both scopes. -/
structure Expr.SameIn (a b : Scope) (e : Expr) : Prop where
  value : e.value a = e.value b
  truth : e.truth a = e.truth b
  number : e.number a = e.number b

/-- The three readings of a term are the same in both scopes. -/
structure Term.SameIn (a b : Scope) (t : Term) : Prop where
  value : ∀ negated, t.value a negated = t.value b negated
  verdict : t.verdict a = t.verdict b
  number : t.number a = t.number b

/-- A function is given nothing but its arguments. -/
theorem callValue_congr (name : String) {args : List (String × Expr)}
    (h : argumentValues a args = argumentValues b args) :
    callValue a (.mk name args) = callValue b (.mk name args) := by
  rw [callValue, callValue, h]

mutual

/-- What an expression asks for decides what it is. -/
theorem Expr.congr : ∀ e : Expr, ReadAlike a b e.queries → e.SameIn a b
  | .mk t negated fs, h => by
    rw [Expr.queries, readAlike_append] at h
    have ht := Term.congr t h.1
    obtain ⟨hfilters, hdefault⟩ := calls_congr fs h.2
    refine ⟨?_, ?_, ?_⟩
    · rw [Expr.value, Expr.value, ht.value, hfilters, hdefault]
    · rw [Expr.truth, Expr.truth, ht.value, ht.verdict, hfilters, hdefault]
    · rw [Expr.number, Expr.number, ht.value, ht.number, hfilters, hdefault]

/-- What a term asks for decides what it is. -/
theorem Term.congr : ∀ t : Term, ReadAlike a b t.queries → t.SameIn a b
  | .text _, _ | .whole _, _ | .float _, _ | .bool _, _ =>
    ⟨fun _ => by simp only [Term.value], by simp only [Term.verdict], by simp only [Term.number]⟩
  | .path p, h => by
    rw [Term.queries, readAlike_path] at h
    exact ⟨fun _ => by rw [Term.value, Term.value, h.1], by rw [Term.verdict, Term.verdict, h.1],
      by rw [Term.number, Term.number, h.1]⟩
  | .call (.mk name args), h => by
    rw [Term.queries, readAlike_append] at h
    have hcall := callValue_congr name (args_congr args h.2).1
    exact ⟨fun _ => by rw [Term.value, Term.value, hcall],
      by rw [Term.verdict, Term.verdict, hcall], by rw [Term.number, Term.number, hcall]⟩
  | .invoke space (.mk name args), h => by
    rw [Term.queries] at h
    exact absurd h not_readAlike_outside
  | .concat parts, h => by
    have hparts := concatParts_congr parts (by rwa [Term.queries] at h)
    exact ⟨fun _ => by rw [Term.value, Term.value, hparts],
      by rw [Term.verdict, Term.verdict, hparts], by simp only [Term.number]⟩
  | .array items, h => by
    have hitems := itemValues_congr items (by rwa [Term.queries] at h)
    exact ⟨fun _ => by rw [Term.value, Term.value, hitems],
      by rw [Term.verdict, Term.verdict, hitems], by simp only [Term.number]⟩
  | .arith op l r, h => by
    rw [Term.queries, readAlike_append] at h
    have hl := Expr.congr l h.1
    have hr := Expr.congr r h.2
    exact ⟨fun _ => by rw [Term.value, Term.value, hl.number, hr.number],
      by rw [Term.verdict, Term.verdict, hl.number, hr.number],
      by rw [Term.number, Term.number, hl.number, hr.number]⟩
  | .order op l r, h => by
    rw [Term.queries, readAlike_append] at h
    have hl := Expr.congr l h.1
    have hr := Expr.congr r h.2
    exact ⟨fun _ => by rw [Term.value, Term.value, hl.number, hr.number],
      by rw [Term.verdict, Term.verdict, hl.number, hr.number],
      by simp only [Term.number]⟩
  | .equal same l r, h => by
    rw [Term.queries, readAlike_append] at h
    have hl := Expr.congr l h.1
    have hr := Expr.congr r h.2
    exact ⟨fun _ => by rw [Term.value, Term.value, hl.value, hr.value],
      by rw [Term.verdict, Term.verdict, hl.value, hr.value],
      by simp only [Term.number]⟩
  | .junction op l r, h => by
    rw [Term.queries, readAlike_append] at h
    have hl := Expr.congr l h.1
    have hr := Expr.congr r h.2
    exact ⟨fun _ => by rw [Term.value, Term.value, hl.truth, hr.truth],
      by rw [Term.verdict, Term.verdict, hl.truth, hr.truth],
      by simp only [Term.number]⟩
  | .member negated l r, h => by
    rw [Term.queries, readAlike_append] at h
    have hl := Expr.congr l h.1
    have hr := Expr.congr r h.2
    exact ⟨fun _ => by rw [Term.value, Term.value, hl.value, hr.value],
      by rw [Term.verdict, Term.verdict, hl.value, hr.value],
      by simp only [Term.number]⟩
  | .test subject negated name args, h => by
    rw [Term.queries, readAlike_path] at h
    have hargs := itemValues_congr args h.2
    have hprobe : askProbe a subject name args = askProbe b subject name args := by
      rw [askProbe, askProbe, h.1, hargs]
    exact ⟨fun _ => by rw [Term.value, Term.value, hprobe],
      by rw [Term.verdict, Term.verdict, hprobe], by simp only [Term.number]⟩

/-- What filters ask for decides what they do. -/
theorem calls_congr : ∀ fs : List Call, ReadAlike a b (callsQueries fs) →
    applyFilters a fs = applyFilters b fs ∧ defaultValue a fs = defaultValue b fs
  | [], _ => ⟨funext fun _ => by simp only [applyFilters], by simp only [defaultValue]⟩
  | .mk name args :: rest, h => by
    rw [callsQueries, Call.queries, readAlike_append] at h
    obtain ⟨hargs, hvalue⟩ := args_congr args h.1
    obtain ⟨hrest, -⟩ := calls_congr rest h.2
    refine ⟨funext fun v => ?_, ?_⟩
    · rw [applyFilters, applyFilters, hargs, hrest]
    · unfold defaultValue
      split <;> simp_all

/-- What named arguments ask for decides their values. -/
theorem args_congr : ∀ args : List (String × Expr), ReadAlike a b (argsQueries args) →
    argumentValues a args = argumentValues b args ∧ valueArgument a args = valueArgument b args
  | [], _ => ⟨by simp only [argumentValues], by simp only [valueArgument]⟩
  | (name, e) :: rest, h => by
    rw [argsQueries, readAlike_append] at h
    have he := Expr.congr e h.1
    obtain ⟨hargs, hvalue⟩ := args_congr rest h.2
    exact ⟨by rw [argumentValues, argumentValues, he.value, hargs],
      by rw [valueArgument, valueArgument, he.value, hvalue]⟩

theorem itemValues_congr : ∀ es : List Expr, ReadAlike a b (exprsQueries es) →
    itemValues a es = itemValues b es
  | [], _ => by simp only [itemValues]
  | e :: rest, h => by
    rw [exprsQueries, readAlike_append] at h
    rw [itemValues, itemValues, (Expr.congr e h.1).value, itemValues_congr rest h.2]

theorem concatParts_congr : ∀ ts : List Term, ReadAlike a b (termsQueries ts) →
    concatParts a ts = concatParts b ts
  | [], _ => by simp only [concatParts]
  | t :: rest, h => by
    rw [termsQueries, readAlike_append] at h
    have hrest := concatParts_congr rest h.2
    cases t with
    | path p =>
      have hp := h.1
      rw [Term.queries, readAlike_path] at hp
      rw [concatParts, concatParts, hp.1, hrest]
    | call f =>
      obtain ⟨name, args⟩ := f
      have hargs := h.1
      rw [Term.queries, readAlike_append] at hargs
      rw [concatParts, concatParts, callValue_congr name (args_congr args hargs.2).1, hrest]
    | _ => simp only [concatParts, hrest]

end

end

end UserConfigs.Template
