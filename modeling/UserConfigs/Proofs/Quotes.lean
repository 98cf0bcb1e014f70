import UserConfigs.Proofs.Scalars
import UserConfigs.Yaml.Word

/-!
# Scalars between quotes

Between double quotes a text stands for itself as long as it has no quotes, backslashes and line
breaks (`isBody`), and any character can be an escape with its number in hexadecimal digits
(`Spelled`); the text is read back either way (`quoted_spelled`). Between single quotes only the
single quote is written in another way, twice (`quoted_doubled`).
-/

namespace UserConfigs.Yaml

/-- A character that stands for itself between double quotes. -/
def isBody (c : Char) : Bool := c ≠ '\x22' && c ≠ '\x5c' && !isBreak c

/-! ## Characters that stand for themselves -/

theorem quotedFrom_blank (single : Bool) (start : Mark) (gap : Gap) (m : Mark) {c : Char}
    (hc : isBlank c = true) (hbreak : isBreak c = false) (rest : List Char) :
    quotedFrom single start .text gap m (c :: rest) =
      quotedFrom single start .text (gap.blank c) (m.along 1) rest := by
  rw [quotedFrom, Mark.past_of_not_isBreak hbreak]
  simp only [hc, if_true]

/-- A character of a word. The start of a line is the only place for the sign of a document. -/
theorem quotedFrom_char (single : Bool) (start : Mark) (gap : Gap) {m : Mark} (hm : 0 < m.column)
    {c : Char} (hblank : isBlank c = false) (hbreak : isBreak c = false)
    (hself : if single then c ≠ '\x27' else c ≠ '\x22' ∧ c ≠ '\x5c') (rest : List Char) :
    quotedFrom single start .text gap m (c :: rest) =
      Scalar.prepend (gap.fold ++ [c]) (quotedFrom single start .text .none (m.along 1) rest) := by
  have hmarker : (Cursor.mk (c :: rest) m).atMarker = false := by
    simp [Cursor.atMarker, Nat.ne_of_gt hm]
  rw [quotedFrom, Mark.past_of_not_isBreak hbreak]
  cases single with
  | true =>
    have hquote : c ≠ '\x27' := hself
    simp [hblank, hbreak, hmarker, hquote]
  | false =>
    obtain ⟨hquote, hbackslash⟩ : c ≠ '\x22' ∧ c ≠ '\x5c' := hself
    simp [hblank, hbreak, hmarker, hquote, hbackslash]

/-! ## Double quotes -/

/-- A text stands between double quotes : each character for itself, or as an escape with its
number. -/
inductive Spelled : List Char → List Char → Prop where
  | nil : Spelled [] []
  | self {c : Char} {s t : List Char} (hc : isBody c = true) (h : Spelled s t) :
    Spelled (c :: s) (c :: t)
  | escape {c letter : Char} {digits s t : List Char}
    (hletter : escapeLength? letter = some digits.length)
    (hdigits : Word.digitsFrom? 16 0 digits = some c.toNat) (h : Spelled s t) :
    Spelled (c :: s) ('\x5c' :: letter :: (digits ++ t))

theorem spelled_self : ∀ {s : List Char}, (∀ c ∈ s, isBody c = true) → Spelled s s
  | [], _ => .nil
  | _ :: _, h =>
    .self (List.forall_mem_cons.mp h).1 (spelled_self (List.forall_mem_cons.mp h).2)

theorem not_isBreak_of_hexDigit? {c : Char} {n : Nat} (h : hexDigit? c = some n) :
    isBreak c = false := by
  refine Bool.eq_false_iff.mpr fun hc => ?_
  simp only [isBreak, Bool.or_eq_true, decide_eq_true_eq] at hc
  rcases hc with (((rfl | rfl) | rfl) | rfl) | rfl <;> simp [hexDigit?] at h

/-- The number of a character is a code point. -/
theorem isCodePoint_toNat (c : Char) : isCodePoint c.toNat = true := by
  have hvalid : c.toNat < 0xD800 ∨ 0xDFFF < c.toNat ∧ c.toNat < 0x110000 := c.valid
  simp only [isCodePoint, Bool.or_eq_true, Bool.and_eq_true, decide_eq_true_eq]
  omega

/-- The digits of an escape, after those of `value`. -/
theorem quotedFrom_digits (start mark : Mark) {c : Char} (gap : Gap) (rest : List Char) :
    ∀ (digits : List Char) (value : Nat) (m : Mark), digits ≠ [] →
      Word.digitsFrom? 16 value digits = some c.toNat →
      quotedFrom false start (.hex digits.length value mark) gap m (digits ++ rest) =
        Scalar.prepend (gap.fold ++ [c])
          (quotedFrom false start .text .none (m.along digits.length) rest)
  | [], _, _, h, _ => absurd rfl h
  | d :: digits, value, m, _, hdigits => by
    cases hd : hexDigit? d with
    | none => simp [Word.digitsFrom?, hd] at hdigits
    | some n =>
      have hrest : Word.digitsFrom? 16 (16 * value + n) digits = some c.toNat := by
        simp only [Word.digitsFrom?, hd] at hdigits
        split at hdigits
        · exact hdigits
        · simp at hdigits
      rw [List.cons_append, quotedFrom, Mark.past_of_not_isBreak (not_isBreak_of_hexDigit? hd)]
      simp only [hd]
      cases digits with
      | nil =>
        have hvalue : 16 * value + n = c.toNat := by simpa [Word.digitsFrom?] using hrest
        simp [hvalue, isCodePoint_toNat, Char.ofNat_toNat]
      | cons e digits =>
        have ih := quotedFrom_digits start mark gap rest (e :: digits) (16 * value + n) (m.along 1)
          (List.cons_ne_nil e digits) hrest
        have hlength : (d :: e :: digits).length - 1 = (e :: digits).length := rfl
        have hmore : 1 < (d :: e :: digits).length := by simp
        rw [if_pos hmore, hlength, ih, Mark.along_along]
        simp [Nat.add_comm]

theorem escapeLength?_cases {letter : Char} {n : Nat} (h : escapeLength? letter = some n) :
    (letter = 'x' ∨ letter = 'u' ∨ letter = 'U') ∧ 0 < n := by
  unfold escapeLength? at h
  split at h <;> simp_all <;> omega

theorem quotedFrom_escape (start : Mark) {c letter : Char} {digits : List Char}
    (hletter : escapeLength? letter = some digits.length)
    (hdigits : Word.digitsFrom? 16 0 digits = some c.toNat) (gap : Gap) (m : Mark)
    (rest : List Char) :
    quotedFrom false start .text gap m ('\x5c' :: letter :: (digits ++ rest)) =
      Scalar.prepend (gap.fold ++ [c])
        (quotedFrom false start .text .none (m.along (digits.length + 2)) rest) := by
  obtain ⟨hcases, hpos⟩ := escapeLength?_cases hletter
  have hmarker : (Cursor.mk ('\x5c' :: letter :: (digits ++ rest)) m).atMarker = false := by
    simp [Cursor.atMarker]
  have hblank : isBlank '\x5c' = false := rfl
  have hbreak : isBreak '\x5c' = false := rfl
  have hplain : isBreak letter = false ∧ letter ≠ '\r' ∧ escapeChar? letter = none := by
    rcases hcases with rfl | rfl | rfl <;> decide
  obtain ⟨hletterBreak, hreturn, hchar⟩ := hplain
  have hnil : digits ≠ [] := List.ne_nil_of_length_pos hpos
  rw [quotedFrom, Mark.past_of_not_isBreak hbreak]
  simp only [hblank, hbreak, hmarker, Bool.false_eq_true, if_false, false_and, Bool.not_false,
    true_and, if_true]
  rw [quotedFrom, Mark.past_of_not_isBreak hletterBreak]
  simp only [hreturn, hletterBreak, hchar, hletter, false_and, if_false, Bool.false_eq_true]
  rw [quotedFrom_digits start _ gap rest digits 0 _ hnil hdigits]
  simp [Mark.along_along, Nat.add_comm]

/-- The text between double quotes, after blanks of its line. -/
theorem quotedFrom_spelled (start : Mark) (rest : List Char) {s t : List Char}
    (h : Spelled s t) : ∀ (gap : Gap) (m : Mark), gap.broken = false → 0 < m.column →
      quotedFrom false start .text gap m (t ++ '\x22' :: rest) =
        .ok ⟨gap.blanks ++ s, m.along (t.length + 1), ⟨rest, m.along (t.length + 1)⟩, false⟩ := by
  induction h with
  | nil =>
    intro gap m hgap hm
    have hblank : isBlank '\x22' = false := rfl
    have hbreak : isBreak '\x22' = false := rfl
    rw [List.nil_append, quotedFrom, Mark.past_of_not_isBreak hbreak]
    simp [hblank, hbreak, Cursor.atMarker, Gap.fold, hgap]
  | @self c s t hc h ih =>
    intro gap m hgap hm
    simp only [isBody, Bool.and_eq_true, Bool.not_eq_true', decide_eq_true_eq] at hc
    obtain ⟨hself, hbreak⟩ := hc
    rw [List.cons_append]
    cases hblank : isBlank c with
    | true =>
      have hgap' : (gap.blank c).broken = false := by simp [Gap.blank, hgap]
      rw [quotedFrom_blank false start gap m hblank hbreak, ih _ _ hgap' (Nat.lt_succ_of_lt hm),
        Mark.along_along]
      simp [Gap.blank, hgap, Nat.add_comm]
    | false =>
      rw [quotedFrom_char false start gap hm hblank hbreak hself,
        ih .none _ rfl (Nat.lt_succ_of_lt hm), Mark.along_along]
      simp [Scalar.prepend, Gap.fold, hgap, Gap.none, Nat.add_comm]
  | @escape c letter digits s t hletter hdigits h ih =>
    intro gap m hgap hm
    rw [List.cons_append, List.cons_append, List.append_assoc,
      quotedFrom_escape start hletter hdigits gap m,
      ih .none _ rfl (Nat.lt_of_lt_of_le hm (Nat.le_add_right _ _)), Mark.along_along]
    have hlength : digits.length + 2 + (t.length + 1) =
        ('\x5c' :: letter :: (digits ++ t)).length + 1 := by
      simp only [List.length_cons, List.length_append]
      omega
    simp [Scalar.prepend, Gap.fold, hgap, Gap.none, hlength]

/-- A text between double quotes. -/
theorem quoted_spelled {s t : List Char} (h : Spelled s t) (m : Mark) (rest : List Char) :
    quoted false ⟨'\x22' :: (t ++ '\x22' :: rest), m⟩ =
      .ok ⟨s, m.along (t.length + 2), ⟨rest, m.along (t.length + 2)⟩, false⟩ := by
  have hbody := quotedFrom_spelled m rest h .none (m.along 1) rfl (Nat.succ_pos m.column)
  rw [Mark.along_along, Nat.add_comm 1, Nat.add_assoc] at hbody
  simpa [quoted, Cursor.advance, Mark.past_of_not_isBreak (c := '\x22') rfl, Gap.none] using hbody

/-- A text that stands for itself between double quotes. -/
theorem quoted_body {s : List Char} (hs : ∀ c ∈ s, isBody c = true) (m : Mark) (rest : List Char) :
    quoted false ⟨'\x22' :: (s ++ '\x22' :: rest), m⟩ =
      .ok ⟨s, m.along (s.length + 2), ⟨rest, m.along (s.length + 2)⟩, false⟩ :=
  quoted_spelled (spelled_self hs) m rest

/-! ## Single quotes -/

/-- A text between single quotes. -/
def doubled (s : List Char) : List Char :=
  s.flatMap fun c => if c = '\x27' then ['\x27', '\x27'] else [c]

theorem quotedFrom_doubledQuote (start : Mark) (gap : Gap) (m : Mark) (rest : List Char) :
    quotedFrom true start .text gap m ('\x27' :: '\x27' :: rest) =
      Scalar.prepend (gap.fold ++ ['\x27'])
        (quotedFrom true start .text .none (m.along 2) rest) := by
  have hblank : isBlank '\x27' = false := rfl
  have hbreak : isBreak '\x27' = false := rfl
  have hmarker : (Cursor.mk ('\x27' :: '\x27' :: rest) m).atMarker = false := by
    simp [Cursor.atMarker]
  rw [quotedFrom, Mark.past_of_not_isBreak hbreak]
  simp only [hblank, hbreak, hmarker, Bool.false_eq_true, if_false, true_and, if_true]
  rw [quotedFrom, Mark.past_of_not_isBreak hbreak]
  simp [Mark.along_along]

theorem quotedFrom_lastQuote (start : Mark) {gap : Gap} (hgap : gap.broken = false) {m : Mark}
    {rest : List Char} (hrest : rest.head? ≠ some '\x27') :
    quotedFrom true start .text gap m ('\x27' :: rest) =
      .ok ⟨gap.blanks, m.along 1, ⟨rest, m.along 1⟩, false⟩ := by
  have hblank : isBlank '\x27' = false := rfl
  have hbreak : isBreak '\x27' = false := rfl
  have hmarker : (Cursor.mk ('\x27' :: rest) m).atMarker = false := by
    simp [Cursor.atMarker]
  rw [quotedFrom, Mark.past_of_not_isBreak hbreak]
  simp only [hblank, hbreak, hmarker, Bool.false_eq_true, if_false, true_and, if_true]
  cases rest with
  | nil => simp [quotedFrom, Gap.fold, hgap]
  | cons c rest =>
    have hc : c ≠ '\x27' := by simpa using hrest
    simp [quotedFrom, Gap.fold, hgap, hc]

/-- The text between single quotes, after blanks of its line. -/
theorem quotedFrom_doubled (start : Mark) {rest : List Char} (hrest : rest.head? ≠ some '\x27') :
    ∀ (s : List Char) (gap : Gap) (m : Mark), gap.broken = false → 0 < m.column →
      (∀ c ∈ s, isBreak c = false) →
      quotedFrom true start .text gap m (doubled s ++ '\x27' :: rest) =
        .ok ⟨gap.blanks ++ s, m.along ((doubled s).length + 1),
          ⟨rest, m.along ((doubled s).length + 1)⟩, false⟩
  | [], gap, m, hgap, _, _ => by
    have hnil : doubled [] = [] := rfl
    rw [hnil, List.nil_append, quotedFrom_lastQuote start hgap hrest, List.append_nil]
    rfl
  | c :: s, gap, m, hgap, hm, hs => by
    obtain ⟨hbreak, hs⟩ := List.forall_mem_cons.mp hs
    by_cases hquote : c = '\x27'
    · have hcons : doubled (c :: s) = '\x27' :: '\x27' :: doubled s := by simp [doubled, hquote]
      rw [hcons, List.cons_append, List.cons_append, quotedFrom_doubledQuote start gap m,
        quotedFrom_doubled start hrest s .none _ rfl (Nat.lt_of_lt_of_le hm (Nat.le_add_right _ _))
          hs, Mark.along_along]
      have hlength : 2 + ((doubled s).length + 1) =
          ('\x27' :: '\x27' :: doubled s).length + 1 := by
        simp only [List.length_cons]
        omega
      simp [Scalar.prepend, Gap.fold, hgap, Gap.none, hquote, hlength]
    · have hcons : doubled (c :: s) = c :: doubled s := by simp [doubled, hquote]
      rw [hcons, List.cons_append]
      cases hblank : isBlank c with
      | true =>
        have hgap' : (gap.blank c).broken = false := by simp [Gap.blank, hgap]
        rw [quotedFrom_blank true start gap m hblank hbreak,
          quotedFrom_doubled start hrest s _ _ hgap' (Nat.lt_succ_of_lt hm) hs, Mark.along_along]
        simp [Gap.blank, hgap, Nat.add_comm]
      | false =>
        rw [quotedFrom_char true start gap hm hblank hbreak hquote,
          quotedFrom_doubled start hrest s .none _ rfl (Nat.lt_succ_of_lt hm) hs, Mark.along_along]
        simp [Scalar.prepend, Gap.fold, hgap, Gap.none, Nat.add_comm]

/-- A text between single quotes. -/
theorem quoted_doubled {s : List Char} (hs : ∀ c ∈ s, isBreak c = false) (m : Mark)
    {rest : List Char} (hrest : rest.head? ≠ some '\x27') :
    quoted true ⟨'\x27' :: (doubled s ++ '\x27' :: rest), m⟩ =
      .ok ⟨s, m.along ((doubled s).length + 2), ⟨rest, m.along ((doubled s).length + 2)⟩,
        false⟩ := by
  have hbody := quotedFrom_doubled m hrest s .none (m.along 1) rfl (Nat.succ_pos m.column) hs
  rw [Mark.along_along, Nat.add_comm 1, Nat.add_assoc] at hbody
  simpa [quoted, Cursor.advance, Mark.past_of_not_isBreak (c := '\x27') rfl, Gap.none] using hbody

end UserConfigs.Yaml
