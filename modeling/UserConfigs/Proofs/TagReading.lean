import Mathlib.Data.List.DropRight
import UserConfigs.Template.NodeReader

/-!
# Reading literal text and tags

How a template is read piece by piece. Literal text is read up to the next place where a tag can
start (`node_literal`). A sum in front of the end of a tag is the whole expression (`value_sum`) :
the rules for expressions try texts, sums, comparisons and conditions one after the other, and at
the end of a tag all of them but the sum by itself give up. A tag around a plain name is read as
that name and nothing else (`node_valueText`). `many_of_reads` puts the pieces of a body together.
-/

namespace UserConfigs.Template

namespace Reader

variable {α β : Type}

/-! ## Readers applied to a text -/

@[simp] theorem bind_apply (p : Reader α) (f : α → Reader β) (s : List Char) :
    (p >>= f) s = (p s).bind fun r => f r.1 r.2 := rfl

@[simp] theorem pure_apply (a : α) (s : List Char) : (pure a : Reader α) s = some (a, s) := rfl

@[simp] theorem failure_apply (s : List Char) : (failure : Reader α) s = none := rfl

@[simp] theorem orElse_apply (p q : Reader α) (s : List Char) :
    (p <|> q) s = (p s).or (q s) := by
  show (p s <|> q s) = _
  cases p s <;> rfl

@[simp] theorem map_apply (f : α → β) (p : Reader α) (s : List Char) :
    (f <$> p) s = (p s).map fun r => (f r.1, r.2) := by
  show (p s).bind _ = _
  cases p s <;> rfl

theorem bind_eq_none {p : Reader α} {s : List Char} (h : p s = none) (f : α → Reader β) :
    (p >>= f) s = none := by
  rw [bind_apply, h]
  rfl

theorem exact_apply (w : String) (s : List Char) :
    exact w s = (dropFront? w.toList s).map fun r => ((), r) := rfl

theorem spelled_apply (w : String) (a : α) (s : List Char) :
    spelled w a s = (dropFront? w.toList s).map fun r => (a, r) := by
  simp only [spelled, bind_apply, exact_apply]
  cases dropFront? w.toList s <;> rfl

theorem maybe_apply (p : Reader α) (s : List Char) :
    maybe p s = ((p s).map fun r => (some r.1, r.2)).or (some (none, s)) := by
  simp [maybe]

theorem given_apply (p : Reader α) (s : List Char) :
    given p s = ((p s).map fun r => (true, r.2)).or (some (false, s)) := by
  cases h : p s <;> simp [given, h]

theorem gap_apply (s : List Char) : gap s = some ((), s.dropWhile isSpace) := rfl

/-- A text that starts with a longer word starts with the shorter one too. -/
theorem dropFront?_eq_none_of_append {w v s : List Char} (h : dropFront? w s = none) :
    dropFront? (w ++ v) s = none := by
  cases hd : dropFront? (w ++ v) s with
  | none => rfl
  | some r =>
    rw [eq_append_of_dropFront? hd, List.append_assoc, dropFront?_append] at h
    simp at h

/-! ## Repetition -/

/-- `p` reads `as` off the front of `s` one after the other, and reads nothing more off the rest
`r`. -/
inductive Reads (p : Reader α) : List Char → List α → List Char → Prop where
  | nil {r : List Char} (h : p r = none) : Reads p r [] r
  | cons {s s' r : List Char} {a : α} {as : List α} (h : p s = some (a, s'))
      (hlt : s'.length < s.length) (hs : Reads p s' as r) : Reads p s (a :: as) r

theorem repeated_of_reads {p : Reader α} {s r : List Char} {as : List α} (h : Reads p s as r) :
    ∀ {fuel : Nat}, s.length ≤ fuel → repeated p fuel s = some (as, r) := by
  induction h with
  | nil h =>
    intro fuel _
    cases fuel <;> simp [repeated, h]
  | @cons s s' r a as h hlt _ ih =>
    intro fuel hf
    obtain ⟨fuel, rfl⟩ : ∃ k, fuel = k + 1 := ⟨fuel - 1, by omega⟩
    simp [repeated, h, ih (Nat.le_of_lt_succ (Nat.lt_of_lt_of_le hlt hf))]

/-- Since every piece takes a character, the fuel of `many` is enough. -/
theorem many_of_reads {p : Reader α} {s r : List Char} {as : List α} (h : Reads p s as r) :
    many p s = some (as, r) :=
  repeated_of_reads h (Nat.le_refl _)

theorem many_of_none {p : Reader α} {s : List Char} (h : p s = none) : many p s = some ([], s) :=
  many_of_reads (.nil h)

end Reader

open Reader

/-! ## Names -/

/-- The words that start something else than a name in an expression. -/
def reserved : List String := ["true", "false", "True", "False", "not"]

/-- A name that an expression can consist of : a letter or `_` and then letters, digits and `_`,
with no reserved word at the start. -/
structure IsPlainName (x : List Char) : Prop where
  shape : ∃ c cs, x = c :: cs ∧ isNameStart c = true ∧ ∀ d ∈ cs, isNameChar d = true
  noWord : ∀ w ∈ reserved, ¬w.toList <+: x

/-- A path ends here : the name does not go on, and neither a parenthesis nor a colon follows it. -/
structure EndsPath (r : List Char) : Prop where
  next : ∀ c ∈ r.head?, isNameChar c = false ∧ c ≠ '.' ∧ c ≠ '['
  later : ∀ c ∈ (r.dropWhile isSpace).head?, isNameChar c = false ∧ c ≠ '(' ∧ c ≠ ':'

/-- The end of a tag stands here, perhaps with a dash. -/
def AtTagEnd (t : List Char) : Prop :=
  ∃ c u, (c = '\x7d' ∨ c = '%') ∧ (t = c :: '\x7d' :: u ∨ t = '-' :: c :: '\x7d' :: u)

/-- A path ends here, and after blanks the tag. -/
structure EndsTag (r : List Char) : Prop extends EndsPath r where
  tagEnd : AtTagEnd (r.dropWhile isSpace)

/-- The start of a name is no sign that does not start one. -/
theorem isNameStart_ne {c d : Char} (h : isNameStart c = true) (hd : isNameStart d = false) :
    c ≠ d := by
  rintro rfl
  simp [hd] at h

theorem isDigit_of_isNameStart {c : Char} (h : isNameStart c = true) : c.isDigit = false := by
  have hstart : 'A'.val ≤ c.val := by
    rcases Bool.or_eq_true_iff.mp h with h | h
    · rcases Bool.or_eq_true_iff.mp h with hupper | hlower
      · exact (of_decide_eq_true hupper).1
      · obtain ⟨hlow, -⟩ := Bool.and_eq_true_iff.mp hlower
        exact UInt32.le_trans (by decide) (of_decide_eq_true hlow)
    · rw [of_decide_eq_true h]
      decide
  rw [Bool.eq_false_iff]
  intro hd
  obtain ⟨-, hnine⟩ := Bool.and_eq_true_iff.mp hd
  exact absurd (UInt32.le_trans hstart (of_decide_eq_true hnine)) (by decide)

section Names

variable {x r : List Char} (hx : IsPlainName x) (hr : EndsPath r)

include hx in
/-- A name starts with none of the signs of the expression language. -/
theorem dropFront?_sign_name {d : Char} (hd : isNameStart d = false) (w s : List Char) :
    dropFront? (d :: w) (x ++ s) = none := by
  obtain ⟨c, cs, rfl, hc, -⟩ := hx.shape
  simp [dropFront?, (isNameStart_ne hc hd).symm]

include hx in
/-- No sign stands at the start of a name. -/
theorem char_name {p : Char → Bool} (hp : ∀ c, isNameStart c = true → p c = false)
    (s : List Char) : char p (x ++ s) = none := by
  obtain ⟨c, cs, rfl, hc, -⟩ := hx.shape
  simp [char, hp c hc]

include hx in
theorem gap_name (s : List Char) : gap (x ++ s) = some ((), x ++ s) := by
  obtain ⟨c, cs, rfl, hc, -⟩ := hx.shape
  have h : isSpace c = false := by
    rw [Bool.eq_false_iff]
    intro h
    simp only [isSpace, Bool.or_eq_true, decide_eq_true_eq] at h
    rcases h with ((rfl | rfl) | rfl) | rfl <;> simp [isNameStart] at hc
  simp [gap_apply, h]

include hx in
/-- A name starts with no blank and no dash. -/
theorem IsPlainName.exists_cons : ∃ c cs, x = c :: cs ∧ isSpace c = false ∧ c ≠ '-' := by
  obtain ⟨c, cs, rfl, hc, -⟩ := hx.shape
  exact ⟨c, cs, rfl, by simpa [gap_apply] using gap_name hx [], isNameStart_ne hc rfl⟩

include hx hr in
/-- A reserved word is not read off a name. -/
theorem dropFront?_word_name {w : String} (hw : w ∈ reserved) :
    dropFront? w.toList (x ++ r) = none := by
  cases hd : dropFront? w.toList (x ++ r) with
  | none => rfl
  | some r' =>
    have hpre := hx.noWord w hw
    rcases List.append_eq_append_iff.mp (eq_append_of_dropFront? hd) with
      ⟨v, hv, hv'⟩ | ⟨v, hv, hv'⟩
    · cases v with
      | nil => exact absurd (by simp [hv]) hpre
      | cons c v =>
        have hc : isNameChar c = true := by
          have hall : (reserved.all fun w => w.toList.all isNameChar) = true := by decide
          exact List.all_eq_true.mp (List.all_eq_true.mp hall w hw) c (by simp [hv])
        have := (hr.next c (by simp [hv'])).1
        simp [hc] at this
    · exact absurd ⟨v, hv.symm⟩ hpre

include hx hr in
/-- A name is read to its last character. -/
theorem name_name : name (x ++ r) = some (x, r) := by
  obtain ⟨c, cs, rfl, hc, hcs⟩ := hx.shape
  have htake : (cs ++ r).takeWhile isNameChar = cs ∧ (cs ++ r).dropWhile isNameChar = r := by
    rw [List.takeWhile_append_of_pos hcs, List.dropWhile_append_of_pos hcs]
    cases r with
    | nil => simp
    | cons d r => simp [(hr.next d (by simp)).1]
  simp [name, char, hc, run, htake.1, htake.2]

include hx hr in
/-- A name by itself is a path, for it is followed by no dot and no bracket. -/
theorem pathText_name : pathText (x ++ r) = some (x, r) := by
  have hmany : ∀ n, many (dotPart <|> bracketPart (pathWithin n)) r = some ([], r) := by
    intro n
    refine many_of_none ?_
    cases r with
    | nil => simp [dotPart, bracketPart, exact_apply, dropFront?]
    | cons d r =>
      obtain ⟨-, hdot, hbracket⟩ := hr.next d (by simp)
      simp [dotPart, bracketPart, exact_apply, dropFront?, hdot.symm, hbracket.symm]
  simp [pathText, pathWithin, name_name hx hr, hmany]

/-! ## A name where an operand can stand -/

variable (inner : Level)

include hx hr in
/-- A name that is not a word for a truth value is not read as one. -/
theorem boolLiteral_name : boolLiteral (x ++ r) = none := by
  simp [boolLiteral, spelled_apply, -String.reduceToList,
    dropFront?_word_name hx hr (w := "true") (by simp [reserved]),
    dropFront?_word_name hx hr (w := "false") (by simp [reserved]),
    dropFront?_word_name hx hr (w := "True") (by simp [reserved]),
    dropFront?_word_name hx hr (w := "False") (by simp [reserved])]

include hx in
theorem minus_name (s : List Char) : minus (x ++ s) = some (false, x ++ s) := by
  simp [minus, given_apply, exact_apply, dropFront?_sign_name hx (d := '-') rfl]

include hx in
theorem natural_name (s : List Char) : natural (x ++ s) = none := by
  have hzero : ∀ c, isNameStart c = true → decide (c = '0') = false := fun c hc => by
    simpa using isNameStart_ne hc (d := '0') rfl
  have hdigit : ∀ c, isNameStart c = true → (c.isDigit && !decide (c = '0')) = false :=
    fun c hc => by simp [isDigit_of_isNameStart hc]
  simp [natural, char_name hx hzero, char_name hx hdigit]

include hx in
theorem floatLiteral_name (s : List Char) : floatLiteral (x ++ s) = none := by
  simp [floatLiteral, minus_name hx, natural_name hx]

include hx in
theorem wholeLiteral_name (s : List Char) : wholeLiteral (x ++ s) = none := by
  simp [wholeLiteral, minus_name hx, natural_name hx]

include hx in
theorem textLiteral_name (s : List Char) : textLiteral (x ++ s) = none := by
  have hquote : ∀ c, isNameStart c = true →
      (c = '\x22' || c = '\x27' || c = '\x60') = false := fun c hc => by
    simp [isNameStart_ne hc (d := '\x22') rfl, isNameStart_ne hc (d := '\x27') rfl,
      isNameStart_ne hc (d := '\x60') rfl]
  simp [textLiteral, quotedText, char_name hx hquote]

include hr in
/-- Neither a parenthesis, a colon nor a word follows a path. -/
theorem dropFront?_loose {d : Char} (hd : d = '(' ∨ d = ':' ∨ isNameChar d = true)
    (w : List Char) :
    dropFront? (d :: w) (r.dropWhile isSpace) = none := by
  cases hs : r.dropWhile isSpace with
  | nil => rfl
  | cons c s =>
    obtain ⟨hc, hp, hcolon⟩ := hr.later c (by simp [hs])
    have hne : d ≠ c := by
      rintro rfl
      rcases hd with rfl | rfl | hd
      · exact hp rfl
      · exact hcolon rfl
      · simp [hc] at hd
    simp [dropFront?, hne]

include hx hr in
/-- A name in front of a blank is no call. -/
theorem call_name : inner.call (x ++ r) = none := by
  simp [Level.call, name_name hx hr, gap_apply, exact_apply, dropFront?_loose hr]

include hx hr in
theorem testAfter_name (negated : Bool) : inner.testAfter negated (x ++ r) = none := by
  simp [Level.testAfter, pathText_name hx hr, gap_apply, exact_apply,
    dropFront?_loose hr (d := 'i') (Or.inr (Or.inr (by decide)))]

include hx hr in
theorem invokeTerm_name : inner.invokeTerm (x ++ r) = none := by
  simp [Level.invokeTerm, name_name hx hr, gap_apply, exact_apply,
    dropFront?_loose hr (d := ':') (Or.inr (Or.inl rfl))]

include hx hr in
theorem pathTerm_name : pathTerm (x ++ r) = some (.path (String.ofList x), r) := by
  simp [pathTerm, pathText_name hx hr]

include hx hr in
/-- The first of the alternatives that reads a name is the one for paths. -/
theorem operand_name : inner.operand (x ++ r) = some (.path (String.ofList x), r) := by
  simp [Level.operand, exact_apply, dropFront?_sign_name hx (d := '(') rfl,
    boolLiteral_name hx hr, testAfter_name hx hr, invokeTerm_name hx hr, Level.callTerm,
    call_name hx hr, pathTerm_name hx hr]

include hx hr in
theorem part_name : inner.part (x ++ r) = some (.path (String.ofList x), r) := by
  simp [Level.part, Level.callTerm, call_name hx hr, floatLiteral_name hx, wholeLiteral_name hx,
    textLiteral_name hx, pathTerm_name hx hr]

end Names

/-! ## A sum before the end of a tag -/

/-- Operands joined by operators start here, as a term and up to `r`. Neither a text nor `not` is
in front of them. -/
structure ReadsSum (inner : Level) (s : List Char) (t : Term) (r : List Char) : Prop where
  sum : inner.readSum s = some (t, r)
  noText : inner.textFiltered s = none
  noWord : dropFront? "not".toList s = none
  noGap : gap s = some ((), s)

section TagEnd

variable (inner : Level)

/-- No operand starts with a sign that ends a tag. -/
theorem operand_tagEnd {c : Char} (hc : c = '\x7d' ∨ c = '%') (s : List Char) :
    inner.operand (c :: s) = none := by
  rcases hc with rfl | rfl <;>
    simp [Level.operand, exact_apply, dropFront?, boolLiteral, spelled_apply, Level.testAfter,
      pathText, pathWithin, name, char, isNameStart, Level.invokeTerm, Level.callTerm, Level.call,
      pathTerm, floatLiteral, minus, given_apply, natural, wholeLiteral]

/-- No expression starts at the end of a tag. -/
theorem sumFiltered_tagEnd {c : Char} (hc : c = '\x7d' ∨ c = '%') (s : List Char) :
    inner.sumFiltered (c :: s) = none := by
  simp [Level.sumFiltered, Level.filtered, Level.readSum, operand_tagEnd inner hc]

section

variable {r : List Char} (hr : EndsTag r)
include hr

/-- A sign that the end of a tag cannot start with does not follow. -/
theorem dropFront?_tagEnd {d : Char} (hd : d ≠ '\x7d' ∧ d ≠ '%' ∧ d ≠ '-') (w : List Char) :
    dropFront? (d :: w) (r.dropWhile isSpace) = none := by
  obtain ⟨c, u, hc, ht | ht⟩ := hr.tagEnd
  · rcases hc with rfl | rfl <;> simp [ht, dropFront?, hd]
  · simp [ht, dropFront?, hd]

/-- What looks like an operator at the end of a tag has no operand after it. -/
theorem arith_tagEnd {β : Type} {q : Reader β}
    (hq : ∀ c s, c = '\x7d' ∨ c = '%' → q (c :: s) = none) :
    (do gap; let op ← arithOp; gap; let b ← q; pure (op, b) : Reader (ArithOp × β)) r = none := by
  obtain ⟨c, u, hc, ht | ht⟩ := hr.tagEnd
  · rcases hc with rfl | rfl
    · simp [gap_apply, ht, arithOp, spelled_apply, dropFront?]
    · have hspace : isSpace '\x7d' = false := rfl
      simp [gap_apply, ht, arithOp, spelled_apply, dropFront?, hspace, hq]
  · have hspace : isSpace c = false := by rcases hc with rfl | rfl <;> decide
    simp [gap_apply, ht, arithOp, spelled_apply, dropFront?, hspace, hq c _ hc]

/-- There are no filters in front of the end of a tag. -/
theorem filters_tagEnd : inner.filters r = some ([], r) := by
  refine many_of_none ?_
  simp [gap_apply, exact_apply, dropFront?_tagEnd hr (d := '|') (by decide)]

end

section

variable {inner} {s r : List Char} {t : Term} (hs : ReadsSum inner s t r) (hr : EndsTag r)
include hs hr

theorem sumFiltered_sum : inner.sumFiltered s = some (.mk t false [], r) := by
  simp only [Level.sumFiltered, Level.filtered, bind_apply, pure_apply, hs.sum,
    filters_tagEnd inner hr, Option.bind_some]

theorem membership_sum : inner.membership s = none := by
  simp [Level.membership, hs.noText, sumFiltered_sum hs hr, gap_apply, given_apply, word,
    exact_apply, dropFront?_tagEnd hr (d := 'n') (by decide), List.dropWhile_idempotent,
    dropFront?_tagEnd hr (d := 'i') (by decide)]

theorem compared_sum : inner.compared s = some (.mk t false [], r) := by
  have hsums : inner.filteredSums s = some (.mk t false [], r) := by
    simp only [Level.filteredSums, bind_apply, pure_apply, sumFiltered_sum hs hr,
      many_of_none (arith_tagEnd hr fun c s hc => sumFiltered_tagEnd inner hc s),
      Option.bind_some, climb, climbFrom, close]
  simp [Level.compared, Level.side, hs.noText, hsums, maybe_apply, gap_apply, comparison,
    spelled_apply, dropFront?_tagEnd hr (d := '<') (by decide),
    dropFront?_tagEnd hr (d := '>') (by decide), dropFront?_tagEnd hr (d := '=') (by decide),
    dropFront?_tagEnd hr (d := '!') (by decide)]

/-- What is read as a sum in front of the end of a tag is read as a whole expression. -/
theorem readItem_sum : inner.readItem s = some (.mk t false [], r) := by
  simp [Level.readItem, given_apply, word, exact_apply, hs.noWord, hs.noGap,
    membership_sum hs hr, compared_sum hs hr, Expr.withNegation, -String.reduceToList]

end

/-- A sum before the end of a tag is the whole expression. -/
theorem value_sum {n : Nat} {s r : List Char} {t : Term} (hs : ReadsSum (level n) s t r)
    (hr : EndsTag r) : (level (n + 1)).value s = some (.mk t false [], r) := by
  have hmany : ∀ q : Connective → Reader (Connective × Expr),
      many (do gap; let op ← connective; gap; q op) r = some ([], r) := fun q => by
    refine many_of_none ?_
    simp [gap_apply, connective, word, exact_apply, dropFront?_tagEnd hr (d := 'o') (by decide),
      dropFront?_tagEnd hr (d := 'a') (by decide)]
  simp [level, Level.next, Level.readCondition, readItem_sum hs hr, hmany, climb, climbFrom, close]

variable {x r : List Char} (hx : IsPlainName x) (hr : EndsTag r)
include hx hr

/-- A name is a sum of one part. -/
theorem readsSum_name : ReadsSum inner (x ++ r) (.path (String.ofList x)) r where
  sum := by
    simp only [Level.readSum, bind_apply, pure_apply, operand_name hx hr.toEndsPath,
      many_of_none (arith_tagEnd hr fun c s hc => operand_tagEnd inner hc s), Option.bind_some,
      climb, climbFrom, close]
  noText := by
    simp [Level.textFiltered, Level.filtered, Level.concat, part_name hx hr.toEndsPath, gap_apply,
      exact_apply, dropFront?_tagEnd hr (d := '~') (by decide), textLiteral_name hx]
  noWord := dropFront?_word_name hx hr.toEndsPath (by simp [reserved])
  noGap := gap_name hx r

theorem sumFiltered_name :
    inner.sumFiltered (x ++ r) = some (.mk (.path (String.ofList x)) false [], r) :=
  sumFiltered_sum (readsSum_name inner hx hr) hr

/-- A name before the end of a tag is the whole expression. -/
theorem value_name (n : Nat) :
    (level (n + 1)).value (x ++ r) = some (.mk (.path (String.ofList x)) false [], r) :=
  value_sum (readsSum_name (level n) hx hr) hr

end TagEnd

/-! ## Literal text and tags -/

/-- A tag can start here. -/
def startsTag : List Char → Bool
  | c :: d :: _ => c = '\x7b' && (d = '\x7b' || d = '%' || d = '#')
  | _ => false

/-- No tag can start in the text, whatever follows it. -/
def isLiteral : List Char → Bool
  | [] => true
  | [c] => c ≠ '\x7b'
  | c :: d :: s => !startsTag (c :: d :: s) && isLiteral (d :: s)

/-- No literal text is read where a tag starts. -/
theorem literalRun_of_startsTag {s : List Char} (h : startsTag s = true) :
    literalRun s = ([], s) := by
  match s with
  | c :: d :: s =>
    have h' : c = '\x7b' ∧ (d = '\x7b' ∨ d = '%' ∨ d = '#') := by
      simpa [startsTag, or_assoc] using h
    simp [literalRun, h']

/-- Literal text goes up to the next tag, or to the end. -/
theorem literalRun_append {rest : List Char} (hr : rest = [] ∨ startsTag rest = true) :
    ∀ {a : List Char}, isLiteral a = true → literalRun (a ++ rest) = (a, rest)
  | [], _ => by
    rcases hr with rfl | hr
    · rfl
    · exact literalRun_of_startsTag hr
  | [c], ha => by
    have hc : c ≠ '\x7b' := by simpa [isLiteral] using ha
    have hnil := literalRun_append hr (a := []) rfl
    cases rest with
    | nil => rfl
    | cons d rest =>
      simp only [List.nil_append] at hnil
      simp [literalRun, hc, hnil]
  | c :: d :: s, ha => by
    obtain ⟨hc, hs⟩ : startsTag (c :: d :: s) = false ∧ isLiteral (d :: s) = true := by
      simpa [isLiteral] using ha
    have hc' : ¬(c = '\x7b' ∧ (d = '\x7b' ∨ d = '%' ∨ d = '#')) := by
      simpa [startsTag, and_assoc] using hc
    have ih := literalRun_append hr hs
    simp only [List.cons_append] at ih ⊢
    simp [literalRun, hc', ih]

/-- A tag does not start in literal text, nor on its border, since that text ends in no brace. -/
theorem startsTag_append {a : List Char} (ha : isLiteral a = true) (hne : a ≠ [])
    (rest : List Char) : startsTag (a ++ rest) = false := by
  match a with
  | [c] =>
    have hc : c ≠ '\x7b' := by simpa [isLiteral] using ha
    cases rest <;> simp [startsTag, hc]
  | c :: d :: s =>
    have hc : startsTag (c :: d :: s) = false := by
      simp only [isLiteral, Bool.and_eq_true, Bool.not_eq_true'] at ha
      exact ha.1
    simpa [startsTag] using hc

theorem openTag_eq_none {w : String} {s : List Char} (h : dropFront? w.toList s = none) :
    openTag w s = none := by
  simp [openTag, spelled_apply, h, dropFront?_eq_none_of_append h]

/-- No tag opens in literal text. -/
theorem openTag_literal {w : String} (hw : w ∈ ["\x7b\x7b", "\x7b%", "\x7b#"]) {a : List Char}
    (ha : isLiteral a = true) (hne : a ≠ []) (rest : List Char) : openTag w (a ++ rest) = none := by
  refine openTag_eq_none ?_
  have hstart := startsTag_append ha hne rest
  cases hdrop : dropFront? w.toList (a ++ rest) with
  | none => rfl
  | some s =>
    rw [eq_append_of_dropFront? hdrop] at hstart
    simp only [List.mem_cons, List.not_mem_nil, or_false] at hw
    rcases hw with rfl | rfl | rfl <;> simp [startsTag] at hstart

section Nodes

variable (exprs : Level) (body : Setting → Reader (List Node)) (place : Setting)

/-- Where no statement starts, a node is a value, a comment or literal text. -/
theorem node_of_no_statement {s : List Char} (h : openStatement s = none) :
    node exprs body place s = (valueTag exprs place s).or ((comment s).or (literal s)) := by
  have hopen : ∀ w, openWord w s = none := fun w => bind_eq_none h _
  have htag : ∀ w, wordTag w s = none := fun w => bind_eq_none h _
  have hinsert : insertTag s = none := bind_eq_none (hopen "include") _
  have hload : loadTag s = none := bind_eq_none (hopen "import") _
  have hassign : ∀ w global, assignTag exprs w global s = none := fun w _ =>
    bind_eq_none (hopen w) _
  have hdefine : defineSection body s = none := bind_eq_none (hopen "macro") _
  have hblock : blockSection body s = none := bind_eq_none (hopen "block") _
  have hbranch : branchSection exprs body place s = none :=
    bind_eq_none (bind_eq_none (hopen "if") _) _
  have hloop : loopSection exprs body s = none := bind_eq_none (hopen "for") _
  have hfilter : filterSection exprs body s = none := bind_eq_none (hopen "filter") _
  have hraw : rawText s = none := bind_eq_none (htag "raw") _
  have hleave : (if place = .loop then leaveTag else failure : Reader Node) s = none := by
    split <;> simp [leaveTag, htag]
  simp only [node, orElse_apply, hinsert, hload, hassign, hdefine, hblock, hbranch, hloop, hfilter,
    hleave, hraw, Option.none_or]

/-- Outside blocks a tag around a value holds an expression. -/
theorem valueTag_apply (hp : place ≠ .block) (s : List Char) :
    valueTag exprs place s = (do
      let left ← openValue
      gap
      let e ← exprs.value
      gap
      let right ← closeValue
      pure (.value ⟨left, right⟩ e) : Reader Node) s := by
  simp [valueTag, hp]

/-- At the end of the text there is no further node. -/
theorem node_nil : node exprs body place [] = none := by
  have hopen : ∀ {w : String}, w.toList ≠ [] → openTag w [] = none := fun {w} hw => by
    obtain ⟨c, cs, hc⟩ := List.exists_cons_of_ne_nil hw
    exact openTag_eq_none (by simp [hc, dropFront?])
  have hvalue : openValue [] = none := hopen (by decide)
  have hcomment : openComment [] = none := hopen (by decide)
  have hstatement : openStatement [] = none := hopen (by decide)
  rw [node_of_no_statement exprs body place hstatement]
  simp [valueTag, comment, hvalue, hcomment, literal, literalRun]

/-- Literal text before a tag or the end is one node. -/
theorem node_literal {a rest : List Char} (ha : isLiteral a = true) (hne : a ≠ [])
    (hr : rest = [] ∨ startsTag rest = true) :
    node exprs body place (a ++ rest) = some (.text a, rest) := by
  have hvalue : openValue (a ++ rest) = none := openTag_literal (by simp) ha hne rest
  have hcomment : openComment (a ++ rest) = none := openTag_literal (by simp) ha hne rest
  have hstatement : openStatement (a ++ rest) = none := openTag_literal (by simp) ha hne rest
  rw [node_of_no_statement exprs body place hstatement]
  simp only [valueTag, comment, bind_apply, hvalue, hcomment, Option.bind_none, Option.none_or]
  unfold literal
  rw [literalRun_append hr ha]
  cases a with
  | nil => exact absurd rfl hne
  | cons c a => rfl

/-- The text of a tag around a name, with its dashes and blanks. -/
def valueText (d : Dashes) (before x after : List Char) : List Char :=
  '\x7b' :: '\x7b' :: ((if d.left then ['-'] else []) ++ before ++ x ++ after ++
    (if d.right then ['-'] else []) ++ ['\x7d', '\x7d'])

theorem dropWhile_blanks {blanks s : List Char} (h : ∀ c ∈ blanks, isSpace c = true)
    (hs : ∀ c ∈ s.head?, isSpace c = false) : (blanks ++ s).dropWhile isSpace = s := by
  rw [List.dropWhile_append_of_pos h]
  cases s with
  | nil => rfl
  | cons c s => simp [hs c (by simp)]

/-- A tag around a name ends with blanks and its end. -/
theorem endsTag_append {blanks : List Char} (h : ∀ c ∈ blanks, isSpace c = true) (dash : Bool)
    (s : List Char) :
    EndsTag (blanks ++ ((if dash then ['-'] else []) ++ '\x7d' :: '\x7d' :: s)) := by
  have hdrop := dropWhile_blanks h (s := (if dash then ['-'] else []) ++ '\x7d' :: '\x7d' :: s)
    (by cases dash <;> simp [isSpace])
  refine ⟨⟨?_, ?_⟩, ?_⟩
  · cases blanks with
    | nil => cases dash <;> simp [isNameChar]
    | cons c blanks =>
      have hc := h c (by simp)
      simp only [isSpace, Bool.or_eq_true, decide_eq_true_eq] at hc
      rcases hc with ((rfl | rfl) | rfl) | rfl <;> simp [isNameChar]
  · rw [hdrop]
    cases dash <;> simp [isNameChar]
  · rw [hdrop]
    cases dash
    · exact ⟨'\x7d', s, Or.inl rfl, Or.inl rfl⟩
    · exact ⟨'\x7d', s, Or.inl rfl, Or.inr rfl⟩

variable {place} (hp : place ≠ .block)
include hp

/-- A tag around an expression is one node. -/
theorem node_of_value {exprs : Level} (d : Dashes) {before x after s : List Char} {c : Char}
    {cs : List Char} (hx : x = c :: cs) (hc : isSpace c = false ∧ c ≠ '-')
    (hb : ∀ c ∈ before, isSpace c = true) (ha : ∀ c ∈ after, isSpace c = true) {e : Expr}
    (hvalue : exprs.value (x ++ (after ++ ((if d.right then ['-'] else []) ++
        '\x7d' :: '\x7d' :: s))) =
      some (e, after ++ ((if d.right then ['-'] else []) ++ '\x7d' :: '\x7d' :: s))) :
    node exprs body place (valueText d before x after ++ s) = some (.value d e, s) := by
  have hmid : ∀ t, (before ++ (x ++ t)).dropWhile isSpace = x ++ t := fun t =>
    dropWhile_blanks hb (by simp [hx, hc])
  have hend := dropWhile_blanks ha (s := (if d.right then ['-'] else []) ++ '\x7d' :: '\x7d' :: s)
    (by cases d.right <;> simp [isSpace])
  have hopen : openValue (valueText d before x after ++ s) =
      some (d.left, before ++ (x ++ (after ++ ((if d.right then ['-'] else []) ++
        '\x7d' :: '\x7d' :: s)))) := by
    cases hl : d.left
    · have hdash : ∀ t, dropFront? ['-'] (before ++ (x ++ t)) = none := by
        intro t
        cases before with
        | nil => simp [hx, dropFront?, hc.2.symm]
        | cons b before =>
          have hb' : b ≠ '-' := by
            rintro rfl
            simpa [isSpace] using hb '-' (by simp)
          simp [dropFront?, hb'.symm]
      have hsign : ∀ t,
          dropFront? ['\x7b', '\x7b', '-'] ('\x7b' :: '\x7b' :: (before ++ (x ++ t))) = none :=
        fun t => by simpa [dropFront?] using hdash t
      simp [openValue, openTag, spelled_apply, valueText, hl, hsign, dropFront?]
    · simp [openValue, openTag, spelled_apply, valueText, hl, dropFront?]
  have hclose : closeValue ((if d.right then ['-'] else []) ++ '\x7d' :: '\x7d' :: s) =
      some (d.right, s) := by
    cases hr : d.right <;> simp [closeValue, closeTag, spelled_apply, dropFront?]
  have hstatement : openStatement (valueText d before x after ++ s) = none :=
    openTag_eq_none (by simp [valueText, dropFront?])
  rw [node_of_no_statement _ body place hstatement, valueTag_apply _ _ hp]
  simp only [bind_apply, pure_apply, hopen, gap_apply, hmid, hvalue, hend, hclose,
    Option.bind_some, Option.some_or]

/-- A tag around a name is one node. -/
theorem node_valueText {n : Nat} (d : Dashes) {before x after : List Char} (hx : IsPlainName x)
    (hb : ∀ c ∈ before, isSpace c = true) (ha : ∀ c ∈ after, isSpace c = true) (s : List Char) :
    node (level (n + 1)) body place (valueText d before x after ++ s) =
      some (.value d (.mk (.path (String.ofList x)) false []), s) := by
  obtain ⟨c, cs, hxc, hc⟩ := hx.exists_cons
  exact node_of_value body hp d hxc hc hb ha (value_name hx (endsTag_append ha d.right s) n)

end Nodes

/-! ## Whole templates -/

/-- A template that extends no other is the row of its nodes, comments at the front included. -/
theorem read?_of_reads {s s' : List Char} {comments nodes : List Node}
    (hc : Reads comment s comments s') (hp : parentTag s' = none)
    (hn : Reads (node (level (s.length + 1)) (bodyWithin (level (s.length + 1)) s.length) .plain) s'
      nodes []) :
    Source.read? s = some ⟨none, comments ++ nodes⟩ := by
  simp [Source.read?, source, many_of_reads hc, maybe_apply, hp, bodyWithin, many_of_reads hn,
    atEnd]

end UserConfigs.Template
