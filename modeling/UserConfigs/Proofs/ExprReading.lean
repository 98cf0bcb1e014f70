import UserConfigs.Proofs.PathTexts
import UserConfigs.Proofs.Reading

/-!
# Expressions do not see what follows

Texts in quotes, numbers, words and paths are read alike where another text follows (`Twin`). A
path is read to the depth that its text has, which is more where another text follows, so for paths
this is by induction on the depth (`Twin.pathWithin`). The paths of an expression stand in the
source that it is read from (`Expr.IsFrom`).
-/

namespace UserConfigs.Template

open Reader

/-! ## Expressions from a source -/

/-- What is asked for stands in the source, if it is a path. -/
def Query.IsFrom (S : List Char) : Query → Prop
  | .path p => Occurs S p
  | .outside => True

/-- All paths of the expression stand in the source. -/
def Expr.IsFrom (S : List Char) (e : Expr) : Prop := ∀ q ∈ e.queries, q.IsFrom S

/-- All paths of the term stand in the source. -/
def Term.IsFrom (S : List Char) (t : Term) : Prop := ∀ q ∈ t.queries, q.IsFrom S

/-- All paths of the arguments stand in the source. -/
def Call.IsFrom (S : List Char) (f : Call) : Prop := ∀ q ∈ f.queries, q.IsFrom S

section

variable {S : List Char}

/-- What filters ask for is from the source if each filter is. -/
theorem forall_mem_callsQueries : ∀ {fs : List Call},
    (∀ q ∈ callsQueries fs, q.IsFrom S) ↔ ∀ f ∈ fs, f.IsFrom S
  | [] => by simp [callsQueries]
  | f :: fs => by
    rw [callsQueries, List.forall_mem_append, forall_mem_callsQueries, List.forall_mem_cons]
    rfl

/-- What named arguments ask for is from the source if the value of each is. -/
theorem forall_mem_argsQueries : ∀ {args : List (String × Expr)},
    (∀ q ∈ argsQueries args, q.IsFrom S) ↔ ∀ a ∈ args, a.2.IsFrom S
  | [] => by simp [argsQueries]
  | (_, e) :: args => by
    rw [argsQueries, List.forall_mem_append, forall_mem_argsQueries, List.forall_mem_cons]
    rfl

theorem forall_mem_exprsQueries : ∀ {es : List Expr},
    (∀ q ∈ exprsQueries es, q.IsFrom S) ↔ ∀ e ∈ es, e.IsFrom S
  | [] => by simp [exprsQueries]
  | e :: es => by
    rw [exprsQueries, List.forall_mem_append, forall_mem_exprsQueries, List.forall_mem_cons]
    rfl

theorem forall_mem_termsQueries : ∀ {ts : List Term},
    (∀ q ∈ termsQueries ts, q.IsFrom S) ↔ ∀ t ∈ ts, t.IsFrom S
  | [] => by simp [termsQueries]
  | t :: ts => by
    rw [termsQueries, List.forall_mem_append, forall_mem_termsQueries, List.forall_mem_cons]
    rfl

/-- An expression is from the source if its term and its filters are. -/
theorem Expr.isFrom_mk {t : Term} {negated : Bool} {fs : List Call} :
    (Expr.mk t negated fs).IsFrom S ↔ t.IsFrom S ∧ ∀ f ∈ fs, f.IsFrom S := by
  rw [Expr.IsFrom, Expr.queries, List.forall_mem_append, forall_mem_callsQueries]
  rfl

/-- A term by itself is an expression with the same paths. -/
theorem Term.isFrom_alone {t : Term} : t.alone.IsFrom S ↔ t.IsFrom S := by
  simp [Term.alone, Expr.isFrom_mk]

/-- A function asks for nothing in the source but its arguments. -/
theorem Term.isFrom_call {f : Call} (h : f.IsFrom S) : (Term.call f).IsFrom S := by
  obtain ⟨name, args⟩ := f
  rw [Term.IsFrom, Term.queries, List.forall_mem_append]
  refine ⟨fun q hq => ?_, by rwa [Call.IsFrom, Call.queries] at h⟩
  unfold functionQueries at hq
  split at hq
  · rw [List.mem_singleton.mp hq]
    trivial
  · simp at hq

/-- A macro asks for nothing in the source but its arguments. What it sees of the context is no path
of the template. -/
theorem Term.isFrom_invoke {space : String} {f : Call} (h : f.IsFrom S) :
    (Term.invoke space f).IsFrom S := by
  obtain ⟨name, args⟩ := f
  rw [Term.IsFrom, Term.queries, List.forall_mem_cons]
  exact ⟨trivial, by rwa [Call.IsFrom, Call.queries] at h⟩

theorem Expr.IsFrom.withNegation {e : Expr} (h : e.IsFrom S) (negated : Bool) :
    (e.withNegation negated).IsFrom S := by
  cases e
  exact Expr.isFrom_mk.mpr (Expr.isFrom_mk.mp h)

/-- A chain of operands keeps what its operands have, if one operator does. -/
theorem climb_induction {Op α : Type} {tight : Op → Bool} {make : Op → α → α → α} {G : α → Prop}
    (hmake : ∀ op a b, G a → G b → G (make op a b)) {a : α} (ha : G a) {rest : List (Op × α)}
    (hrest : ∀ x ∈ rest, G x.2) : G (climb tight make a rest) := by
  have hclose : ∀ (pending : Option (α × Op)) (a : α), (∀ x ∈ pending, G x.1) → G a →
      G (close make pending a) := fun pending a hpending ha => by
    cases pending with
    | none => exact ha
    | some x => exact hmake _ _ _ (hpending x rfl) ha
  have hfrom : ∀ (rest : List (Op × α)) (pending : Option (α × Op)) (a : α),
      (∀ x ∈ rest, G x.2) → (∀ x ∈ pending, G x.1) → G a →
        G (climbFrom tight make pending a rest) := by
    intro rest
    induction rest with
    | nil => exact fun pending a _ => hclose pending a
    | cons x rest ih =>
      intro pending a hrest hpending ha
      obtain ⟨hx, hrest⟩ := List.forall_mem_cons.mp hrest
      rw [climbFrom]
      split
      · exact ih pending _ hrest hpending (hmake _ _ _ ha hx)
      · refine ih _ _ hrest (fun y hy => ?_) hx
        rw [← Option.mem_some.mp hy]
        exact hclose pending a hpending ha
  exact hfrom rest none a hrest (fun _ hx => absurd hx (Option.not_mem_none _)) ha

/-- Of several arguments with one name the last one is kept, and none comes in addition. -/
theorem keepLast_subset : ∀ args : List (String × Expr), keepLast args ⊆ args
  | [] => List.Subset.refl []
  | a :: args => by
    have ih := keepLast_subset args
    rw [keepLast]
    split
    · exact List.subset_cons_of_subset a ih
    · exact List.cons_subset_cons a ih

theorem isFrom_text (s : String) : (Term.text s).IsFrom S := by simp [Term.IsFrom, Term.queries]

/-- Texts next to each other become one text, and the other parts stay as they are. -/
theorem isFrom_mergeTexts (before : String) (ts : List Term) (h : ∀ t ∈ ts, t.IsFrom S) :
    ∀ t ∈ Level.mergeTexts before ts, t.IsFrom S := by
  have hbefore : ∀ before : String, ∀ t ∈ (if before.isEmpty then [] else [Term.text before]),
      t.IsFrom S := fun before t ht => by
    split at ht
    · simp at ht
    · rw [List.mem_singleton.mp ht]
      exact isFrom_text before
  induction before, ts using Level.mergeTexts.induct with
  | case1 before | case2 before => exact hbefore before
  | case3 before s rest ih => exact ih (List.forall_mem_cons.mp h).2
  | case4 before t rest hother ih =>
    obtain ⟨ht, hrest⟩ := List.forall_mem_cons.mp h
    rw [Level.mergeTexts.eq_3 _ _ _ hother]
    exact List.forall_mem_append.mpr ⟨hbefore before, List.forall_mem_cons.mpr ⟨ht, ih hrest⟩⟩

/-- Joined parts have the paths of the parts, be they one text or several terms. -/
theorem isFrom_joined {ts : List Term} (h : ∀ t ∈ ts, t.IsFrom S) :
    (Level.joined ts).IsFrom S := by
  have hmerged := isFrom_mergeTexts "" ts h
  unfold Level.joined
  split
  · exact isFrom_text ""
  · exact isFrom_text _
  · rw [Term.IsFrom, Term.queries, forall_mem_termsQueries]
    exact hmerged

end

/-! ## Quotes, numbers and words -/

/-- A text in quotes ends at the next quote of its kind, whatever follows. -/
theorem quotedText_closed {q : Char} {body : List Char} (hquote : isQuote q = true)
    (hbody : q ∉ body) (r : List Char) :
    quotedText (q :: (body ++ q :: r)) = some ((q, body), r) := by
  have hopen : char isQuote (q :: (body ++ q :: r)) = some (q, body ++ q :: r) := by
    simp [char, hquote]
  have hne : ∀ c ∈ body, decide (c ≠ q) = true := fun c hc =>
    decide_eq_true fun h => hbody (h ▸ hc)
  have hrun : run (· ≠ q) (body ++ q :: r) = some (body, q :: r) := by
    rw [run, List.takeWhile_append_of_pos hne, List.dropWhile_append_of_pos hne]
    simp
  show (char isQuote >>= _) _ = _
  rw [bind_apply, hopen, Option.bind_some, bind_apply, hrun, Option.bind_some, bind_apply]
  simp [char]

theorem quotedText_other {c : Char} (hc : isQuote c = false) (s : List Char) :
    quotedText (c :: s) = none :=
  bind_eq_none (by simpa [char, isQuote] using hc) _

namespace Twin

variable {α : Type} {S R : List Char} {k : Nat}

/-- What follows is not looked at, since the closing quote is within the text, or nothing is read.
-/
theorem quotedText : Twin S R k true quotedText quotedText fun _ => True := by
  refine ⟨fun {s a r} _ hp => ?_, fun {s} _ _ hfits => ?_⟩
  · obtain ⟨q, body⟩ := a
    obtain ⟨hquote, hbody, rfl⟩ := eq_of_quotedText hp
    refine ⟨trivial, q :: (body ++ [q]), .quoted hquote hbody .nil, fun _ => by simp, by simp⟩
  · rcases hfits with rfl | ⟨w, t, hw, rfl⟩
    · simp
    · cases hw with
      | nil =>
        rw [List.nil_append, List.cons_append, quotedText_other rfl, quotedText_other rfl]
        rfl
      | char hquote _ _ =>
        rw [List.cons_append, List.cons_append, quotedText_other hquote, quotedText_other hquote]
        rfl
      | @quoted q body v hquote hbody _ =>
        have hclosed := quotedText_closed hquote hbody
        rw [List.cons_append, List.append_assoc, List.cons_append, List.cons_append,
          List.append_assoc, List.cons_append, hclosed, hclosed]
        rfl

theorem textLiteral : Twin S R k true textLiteral textLiteral (Term.IsFrom S) :=
  quotedText.andThen fun _ _ => .pure (isFrom_text _)

theorem spelled {w : String} {a : α} (hw : w.toList ≠ [] ∧ w.toList.all isPassed = true)
    {G : α → Prop} (ha : G a) : Twin S R k true (spelled w a) (spelled w a) G :=
  (Twin.exact hw).andThen fun _ _ => .pure ha

theorem minus : Twin S R k false minus minus fun _ => True := (Twin.exact (by decide)).given

/-- Digits are taken up to the first character that is none, and a zero by itself. -/
theorem natural : Twin S R k true natural natural fun _ => True :=
  (Twin.andThen (.char (by decide)) fun _ _ => .pure trivial).orElse
    (Twin.andThen (.char (by decide)) fun _ _ =>
      (Twin.run (by decide)).bind fun _ _ => .pure trivial)

theorem wholeText : Twin S R k true wholeText wholeText fun _ => True :=
  minus.bind fun _ _ => natural.andThen fun _ _ => .pure trivial

/-- Whether a whole number is in range is settled by its digits. -/
theorem wholeLiteral : Twin S R k true wholeLiteral wholeLiteral (Term.IsFrom S) := by
  refine minus.bind fun negative _ => natural.andThen fun digits _ => ?_
  exact .ite (.pure (by simp [Term.IsFrom, Term.queries])) .failure

theorem floatLiteral : Twin S R k true floatLiteral floatLiteral (Term.IsFrom S) :=
  minus.bind fun _ _ => natural.andThen fun _ _ => (Twin.exact (by decide)).loose.bind fun _ _ =>
    (Twin.run1 (by decide)).loose.bind fun _ _ => .pure (by simp [Term.IsFrom, Term.queries])

/-- The truth values, written small or with a capital. -/
theorem boolLiteral : Twin S R k true boolLiteral boolLiteral (Term.IsFrom S) := by
  have hbool : ∀ b : Bool, Term.IsFrom S (.bool b) := by simp [Term.IsFrom, Term.queries]
  have hword : ∀ {w : String} (b : Bool), w.toList ≠ [] ∧ w.toList.all isPassed = true →
      Twin S R k true (Reader.spelled w (.bool b)) (Reader.spelled w (.bool b))
        (Term.IsFrom S) := fun b hw => spelled hw (hbool b)
  exact (hword true (by decide)).orElse <| (hword false (by decide)).orElse <|
    (hword true (by decide)).orElse (hword false (by decide))

/-- A name is an identifier. -/
theorem name : Twin S R k true name name fun x => IsIdentifier x :=
  (Twin.char (by decide)).andThen fun c hc => (Twin.run (by decide)).bind fun cs hcs =>
    .pure ⟨c, cs, rfl, hc, hcs⟩

/-- A word counts only with a blank behind it, which is taken with it. -/
theorem word {w : String} (hw : w.toList ≠ [] ∧ w.toList.all isPassed = true) :
    Twin S R k true (word w) (word w) fun _ => True :=
  (Twin.exact hw).andThen fun _ _ => (Twin.char (by decide)).loose.bind fun _ _ => .pure trivial

theorem arithOp : Twin S R k true arithOp arithOp fun _ => True :=
  (spelled (by decide) trivial).orElse <| (spelled (by decide) trivial).orElse <|
    (spelled (by decide) trivial).orElse <| (spelled (by decide) trivial).orElse <|
      spelled (by decide) trivial

theorem connective : Twin S R k true connective connective fun _ => True :=
  ((word (by decide)).andThen fun _ _ => .pure trivial).orElse
    ((word (by decide)).andThen fun _ _ => .pure trivial)

/-- What a comparison makes of two expressions has the paths of both. -/
theorem comparison : Twin S R k true comparison comparison fun make =>
    ∀ l r : Expr, l.IsFrom S → r.IsFrom S → (make l r).IsFrom S := by
  have hsides : ∀ {t : Term} {l r : Expr}, t.queries = l.queries ++ r.queries → l.IsFrom S →
      r.IsFrom S → t.IsFrom S := fun ht hl hr => by
    rw [Term.IsFrom, ht, List.forall_mem_append]
    exact ⟨hl, hr⟩
  have horder : ∀ op, ∀ l r : Expr, l.IsFrom S → r.IsFrom S → (Term.order op l r).IsFrom S :=
    fun op l r => hsides (by rw [Term.queries])
  have hequal : ∀ same, ∀ l r : Expr, l.IsFrom S → r.IsFrom S → (Term.equal same l r).IsFrom S :=
    fun same l r => hsides (by rw [Term.queries])
  exact (Twin.spelled (by decide) (horder _)).orElse <|
    (Twin.spelled (by decide) (horder _)).orElse <|
      (Twin.spelled (by decide) (horder _)).orElse <|
        (Twin.spelled (by decide) (horder _)).orElse <|
          (Twin.spelled (by decide) (hequal _)).orElse (Twin.spelled (by decide) (hequal _))

/-! ## Paths -/

/-- What is kept as its text stands in the source. -/
theorem spelling {taking : Bool} {p q : Reader (List Char)} {G : List Char → Prop}
    (h : Twin S R k taking p q G) (hp : Spells p) :
    Twin S R k taking p q fun cs => G cs ∧ cs <:+: S := by
  refine ⟨fun {s cs r} hs hcs => ?_, h.agrees⟩
  obtain ⟨hG, hw⟩ := h.takes hs hcs
  have hpart : cs <:+: S := by
    rw [hp hcs] at hs
    exact (List.prefix_append cs r).isInfix.trans hs.isInfix
  exact ⟨⟨hG, hpart⟩, hw⟩

/-- A point or a bracket stands at the start. -/
def StartsPart (cs : List Char) : Prop := ∃ c t, cs = c :: t ∧ (c = '.' ∨ c = '[')

/-- The part of a path behind a point. -/
theorem dotPart : Twin S R k true dotPart dotPart StartsPart :=
  (Twin.exact (by decide)).andThen fun _ _ => (Twin.run1 (by decide)).loose.bind fun cs _ =>
    .pure ⟨'.', cs, rfl, .inl rfl⟩

/-- A part of a path in brackets. The text in the brackets may be less deep by one. -/
theorem bracketPart {inner inner' : Reader (List Char)} {G : List Char → Prop}
    (h : Twin S R k true inner inner' G) :
    Twin S R (k + 1) true (bracketPart inner) (bracketPart inner') StartsPart := by
  refine (Twin.exact (by decide)).bind_next fun _ _ => Twin.bind (G := fun _ => True) ?_ fun cs _ =>
    (Twin.exact (by decide)).loose.bind fun _ _ => .pure ⟨'[', cs ++ [']'], rfl, .inr rfl⟩
  exact (wholeText.orElse ((quotedText.andThen fun _ _ => .pure trivial).orElse
    (h.mono (Nat.le_refl k) fun _ _ => trivial))).loose

end Twin

/-- The front of a path is its first name. -/
theorem front_path {x : List Char} {parts : List (List Char)} (hx : IsIdentifier x)
    (hparts : ∀ part ∈ parts, Twin.StartsPart part) : front (x ++ parts.flatten) = x := by
  have hname : ∀ c ∈ x, decide (c ≠ '.' ∧ c ≠ '[') = true := by
    obtain ⟨c, cs, rfl, hc, hcs⟩ := hx
    refine List.forall_mem_cons.mpr ⟨?_, fun d hd => ?_⟩
    · refine decide_eq_true ⟨?_, ?_⟩ <;>
      · rintro rfl
        simp [isNameStart] at hc
    · have hd' := hcs d hd
      refine decide_eq_true ⟨?_, ?_⟩ <;>
      · rintro rfl
        simp [isNameChar] at hd'
  rw [front, List.takeWhile_append_of_pos hname]
  cases parts with
  | nil => simp
  | cons part parts =>
    obtain ⟨c, t, rfl, rfl | rfl⟩ := hparts part List.mem_cons_self <;> simp

namespace Twin

variable {S R : List Char} {k : Nat}

/-- One more level of brackets. -/
theorem pathWithin_succ {n m : Nat} {G : List Char → Prop}
    (h : Twin S R k true (pathWithin n) (pathWithin m) G) :
    Twin S R (k + 1) true (pathWithin (n + 1)) (pathWithin (m + 1)) fun cs =>
      IsIdentifier (front cs) := by
  rw [Template.pathWithin, Template.pathWithin]
  have hparts := (dotPart.orElse (bracketPart h)).many
  refine name.andThen fun x hx => hparts.bind fun parts hall => .pure ?_
  rw [front_path hx hall]
  exact hx

/-- Brackets nested as deep as both readers go. -/
theorem pathWithin : ∀ {n m k : Nat}, k ≤ n → k ≤ m →
    Twin S R k true (pathWithin n) (pathWithin m) fun cs => IsIdentifier (front cs)
  | 0, _, k, hn, _ => by
    rw [Nat.le_zero.mp hn]
    exact (Twin.failure (k := 0)).zero _
  | n + 1, 0, k, _, hm => by
    rw [Nat.le_zero.mp hm]
    exact (pathWithin_succ (pathWithin (Nat.zero_le n) (Nat.zero_le n))).zero _
  | n + 1, m + 1, k, hn, hm =>
    (pathWithin_succ (pathWithin (k := k - 1) (by omega) (by omega))).mono (by omega) fun _ h => h

/-- A longer text gives a greater depth, but the depth of the shorter one is enough for what it
holds. -/
theorem pathText : Twin S R k true pathText pathText fun cs => Occurs S (String.ofList cs) := by
  have hpath : ∀ s : List Char, Twin S R (s.length + 1) true (Template.pathWithin (s.length + 1))
      (Template.pathWithin ((s ++ R).length + 1))
      fun cs => Occurs S (String.ofList cs) := fun s => by
    refine ((pathWithin (Nat.le_refl _) ?_).spelling (pathWithin_spells _)).mono (Nat.le_refl _) ?_
    · rw [List.length_append]
      omega
    · rintro cs ⟨hfront, hpart⟩
      rw [Occurs, String.toList_ofList]
      exact ⟨hpart, opens_of_identifier_front hfront⟩
  exact ⟨fun hs hp => (hpath _).takes hs hp,
    fun hs _ hfits => (hpath _).agrees hs (Nat.lt_succ_self _) hfits⟩

theorem pathTerm : Twin S R k true pathTerm pathTerm (Term.IsFrom S) :=
  pathText.andThen fun cs hcs => .pure (by
    simpa [Term.IsFrom, Term.queries, Query.IsFrom] using hcs)

end Twin

end UserConfigs.Template
