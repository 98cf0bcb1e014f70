import UserConfigs.Yaml.Plain
import UserConfigs.Yaml.Quoted

/-!
# Plain scalars on one line

A plain scalar of characters that can end none (`isInner`) is read up to a colon (`plain_colon`),
over the end of its line to a line that is not indented more than the block (`plain_lineEnd`), or to
the end of the text (`plain_textEnd`); a blank between two words of it is kept.
-/

namespace UserConfigs.Yaml

/-! ## Marks on one line -/

/-- The mark after some more characters of a line. -/
def Mark.along (m : Mark) (n : Nat) : Mark := ⟨m.index + n, m.line, m.column + n⟩

theorem Mark.along_along (m : Mark) (a b : Nat) : (m.along a).along b = m.along (a + b) := by
  simp [along, Nat.add_assoc]

theorem Mark.past_of_not_isBreak {c : Char} (h : isBreak c = false) (m : Mark) (rest : List Char) :
    m.past c rest = m.along 1 := by
  have hreturn : c ≠ '\r' := by
    rintro rfl
    exact absurd h (by decide)
  simp [past, h, hreturn, along]

/-- The mark after a line feed is at the start of a line. -/
theorem Mark.past_lineFeed (m : Mark) (rest : List Char) :
    m.past '\n' rest = ⟨m.index + 1, m.line + 1, 0⟩ := by
  simp [past, isBreak]

/-- A line with something on it starts here, or the text ends. -/
def opensLine : List Char → Bool
  | [] => true
  | c :: _ => !isBlank c && !isBreak c && c ≠ '#'

/-! ## Plain scalars -/

theorem Scalar.prepend_prepend (s t : List Char) (r : Except Problem Scalar) :
    prepend s (prepend t r) = prepend (s ++ t) r := by
  cases r with
  | error e => rfl
  | ok r => simp [prepend]

theorem isSome_none {p : Prop} : Gap.none.isSome = true → p := by
  simp [Gap.none, Gap.isSome]

/-- A character that ends no plain scalar, wherever it stands. -/
def isInner (c : Char) : Bool := !isBlank c && !isBreak c && c ≠ ':' && c ≠ '#'

section

variable (x : PlainContext) (hx : x.flow = false)
include hx

theorem plainFrom_inner {c : Char} (hc : isInner c = true) {gap : Gap} (stop m : Mark)
    (rest : List Char) (hgap : gap.isSome = true → x.indent ≤ m.column ∧ 0 < m.column) :
    plainFrom x gap stop m (c :: rest) =
      Scalar.prepend (gap.fold ++ [c]) (plainFrom x .none (m.along 1) (m.along 1) rest) := by
  simp only [isInner, Bool.and_eq_true, Bool.not_eq_true', decide_eq_true_eq] at hc
  obtain ⟨⟨⟨hblank, hbreak⟩, hcolon⟩, hhash⟩ := hc
  have hstays : x.endsAfterGap gap m c rest = false := by
    unfold PlainContext.endsAfterGap
    cases hg : gap.isSome with
    | false => rfl
    | true =>
      obtain ⟨hindent, hcolumn⟩ := hgap hg
      have hmarker : (Cursor.mk (c :: rest) m).atMarker = false := by
        simp [Cursor.atMarker, Nat.ne_of_gt hcolumn]
      simp [hmarker, hhash, hindent]
  rw [plainFrom, Mark.past_of_not_isBreak hbreak]
  simp [hblank, hbreak, hstays, hcolon, PlainContext.badColon, PlainContext.endsAt, hx]

/-- A word of a plain scalar. -/
theorem plainFrom_word : ∀ {w : List Char} {gap : Gap} (stop m : Mark) (rest : List Char),
    w ≠ [] → (∀ c ∈ w, isInner c = true) →
      (gap.isSome = true → x.indent ≤ m.column ∧ 0 < m.column) →
      plainFrom x gap stop m (w ++ rest) = Scalar.prepend (gap.fold ++ w)
        (plainFrom x .none (m.along w.length) (m.along w.length) rest)
  | [c], gap, stop, m, rest, _, hw, hgap => plainFrom_inner x hx (hw c (by simp)) stop m rest hgap
  | c :: d :: w, gap, stop, m, rest, _, hw, hgap => by
    have hword := plainFrom_word (m.along 1) (m.along 1) rest (List.cons_ne_nil d w)
      (fun e he => hw e (List.mem_cons_of_mem c he)) isSome_none
    rw [List.cons_append, plainFrom_inner x hx (hw c (by simp)) stop m _ hgap, hword,
      Scalar.prepend_prepend, Mark.along_along]
    simp [Gap.none, Gap.fold, Nat.add_comm]

/-- A plain scalar ends before a colon that ends a word. -/
theorem plainFrom_colon (stop m : Mark) {rest : List Char} (hrest : endsWord rest = true) :
    plainFrom x .none stop m (':' :: rest) = .ok ⟨[], stop, ⟨':' :: rest, m⟩, false⟩ := by
  have hblank : isBlank ':' = false := rfl
  have hbreak : isBreak ':' = false := rfl
  rw [plainFrom]
  simp [hblank, hbreak, PlainContext.endsAfterGap, PlainContext.badColon, PlainContext.endsAt,
    hx, hrest, Gap.none, Gap.isSome]

omit hx in
theorem plainFrom_indentation {gap : Gap} (hgap : gap.broken = true) (stop : Mark)
    (rest : List Char) : ∀ (k : Nat) (m : Mark),
      plainFrom x gap stop m (List.replicate k ' ' ++ rest) = plainFrom x gap stop (m.along k) rest
  | 0, m => rfl
  | k + 1, m => by
    have hblank : isBlank ' ' = true := rfl
    have hgap' : gap.blank ' ' = gap := by simp [Gap.blank, hgap]
    rw [List.replicate_succ, List.cons_append, plainFrom, hgap', Mark.past_of_not_isBreak rfl]
    simp [hblank, plainFrom_indentation hgap stop rest k, Mark.along_along, Nat.add_comm]

/-- A plain scalar ends with its line if the next one is not indented more than the block. -/
theorem plainFrom_lineEnd (stop m : Mark) {k : Nat} {next : List Char}
    (hk : (k : Int) < x.indent) (hnext : opensLine next = true) :
    plainFrom x .none stop m ('\n' :: (List.replicate k ' ' ++ next)) =
      .ok ⟨[], stop, ⟨next, ⟨m.index + 1 + k, m.line + 1, k⟩⟩, true⟩ := by
  have hblank : isBlank '\n' = false := rfl
  have hbreak : isBreak '\n' = true := rfl
  have hgap : (Gap.none.lineBreak '\n' (List.replicate k ' ' ++ next)).broken = true := rfl
  rw [plainFrom, Mark.past_lineFeed, plainFrom_indentation x hgap]
  simp only [hblank, hbreak, Mark.along, Nat.zero_add, if_true, Bool.false_eq_true, if_false]
  cases next with
  | nil => rfl
  | cons c cs =>
    simp only [opensLine, Bool.and_eq_true, Bool.not_eq_true'] at hnext
    obtain ⟨⟨hblank', hbreak'⟩, -⟩ := hnext
    have hends : x.endsAfterGap (Gap.none.lineBreak '\n' (List.replicate k ' ' ++ c :: cs))
        ⟨m.index + 1 + k, m.line + 1, k⟩ c cs = true := by
      simp [PlainContext.endsAfterGap, Gap.isSome, hgap, hx, hk]
    rw [plainFrom]
    simp [hblank', hbreak', hends, hgap]

/-- Words with a space between two of them. -/
inductive Phrase : List Char → Prop where
  | word {w : List Char} (hne : w ≠ []) (hw : ∀ c ∈ w, isInner c = true) : Phrase w
  | space {w p : List Char} (hne : w ≠ []) (hw : ∀ c ∈ w, isInner c = true) (hp : Phrase p) :
    Phrase (w ++ ' ' :: p)

omit hx in
theorem plainFrom_space (stop m : Mark) (rest : List Char) :
    plainFrom x .none stop m (' ' :: rest) =
      plainFrom x ⟨false, [' '], [], []⟩ stop (m.along 1) rest := by
  have hblank : isBlank ' ' = true := rfl
  rw [plainFrom, Mark.past_of_not_isBreak rfl]
  simp [hblank, Gap.none, Gap.blank]

theorem plainFrom_phrase {p : List Char} (hp : Phrase p) : ∀ {gap : Gap} (stop m : Mark)
    (rest : List Char), x.indent ≤ m.column → 0 < m.column →
      plainFrom x gap stop m (p ++ rest) = Scalar.prepend (gap.fold ++ p)
        (plainFrom x .none (m.along p.length) (m.along p.length) rest) := by
  induction hp with
  | word hne hw =>
    intro gap stop m rest hindent hcolumn
    exact plainFrom_word x hx stop m rest hne hw fun _ => ⟨hindent, hcolumn⟩
  | @space w p hne hw hp ih =>
    intro gap stop m rest hindent hcolumn
    have hindent' : x.indent ≤ ((m.along w.length).along 1).column := by
      simp only [Mark.along]
      omega
    rw [List.append_assoc, plainFrom_word x hx stop m _ hne hw fun _ => ⟨hindent, hcolumn⟩,
      List.cons_append, plainFrom_space, ih _ _ _ hindent' (by simp [Mark.along]),
      Scalar.prepend_prepend, Mark.along_along, Mark.along_along]
    simp [Gap.fold, Nat.add_comm]

end

/-- A plain scalar that a colon ends. -/
theorem plain_colon {w rest : List Char} (hne : w ≠ []) (hw : ∀ c ∈ w, isInner c = true)
    (hrest : endsWord rest = true) (indent : Int) (m : Mark) :
    plain false indent ⟨w ++ ':' :: rest, m⟩ =
      .ok ⟨w, m.along w.length, ⟨':' :: rest, m.along w.length⟩, false⟩ := by
  rw [plain, plainFrom_word _ rfl _ _ _ hne hw isSome_none, plainFrom_colon _ rfl _ _ hrest]
  simp [Scalar.prepend, Gap.none, Gap.fold]

/-- A plain scalar that ends with its line. -/
theorem plain_lineEnd {p next : List Char} (hp : Phrase p) {indent : Int} {m : Mark}
    (hindent : indent ≤ m.column) (hcolumn : 0 < m.column) {k : Nat} (hk : (k : Int) < indent)
    (hnext : opensLine next = true) :
    plain false indent ⟨p ++ '\n' :: (List.replicate k ' ' ++ next), m⟩ =
      .ok ⟨p, m.along p.length, ⟨next, ⟨m.index + p.length + 1 + k, m.line + 1, k⟩⟩, true⟩ := by
  rw [plain, plainFrom_phrase _ rfl hp _ _ _ hindent hcolumn, plainFrom_lineEnd _ rfl _ _ hk hnext]
  simp [Scalar.prepend, Gap.none, Gap.fold, Mark.along]

/-- A plain scalar that ends with the text. -/
theorem plain_textEnd {p : List Char} (hp : Phrase p) {indent : Int} {m : Mark}
    (hindent : indent ≤ m.column) (hcolumn : 0 < m.column) :
    plain false indent ⟨p, m⟩ =
      .ok ⟨p, m.along p.length, ⟨[], m.along p.length⟩, false⟩ := by
  have hphrase := @plainFrom_phrase ⟨false, indent, m⟩ rfl p hp .none m m [] hindent hcolumn
  rw [List.append_nil] at hphrase
  rw [plain, hphrase, plainFrom]
  simp [Scalar.prepend, Gap.none, Gap.fold]

end UserConfigs.Yaml
