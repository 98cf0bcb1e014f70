import UserConfigs.Proofs.Quotes
import UserConfigs.Yaml.Tokens

/-!
# Scanning lines with keys and values

A scan of a block mapping goes from line to line. Where a line starts (`Scan.AtLine`) no word waits
for a colon (`Scan.Calm`), and the key of an entry may stand. A key and its colon are two steps,
which also close the blocks further to the right and may open one (`AtLine.plainKey`,
`AtLine.quotedKey`). What is behind the colon (`Scan.AfterColon`) is a value of one step
(`AfterColon.plainValue`, `AfterColon.spelledValue`, `AfterColon.doubledValue`) or the lines of a
further block (`AfterColon.nested`). The last line may end with the text (`Scan.LineEnd`). Only the
signs of the tokens are told, not their marks.
-/

namespace UserConfigs.Yaml.Scan

/-! ## Steps -/

/-- Some tokens are read, one with each step. -/
inductive Steps : Nat → Scan → Scan → Prop where
  | nil (s : Scan) : Steps 0 s s
  | cons {n : Nat} {s t u : Scan} (hs : s.isDone = false) (ht : s.step = .ok t)
    (h : Steps n t u) : Steps (n + 1) s u

theorem Steps.one {s t : Scan} (hs : s.isDone = false) (ht : s.step = .ok t) : Steps 1 s t :=
  .cons hs ht (.nil t)

/-- Steps in a row. -/
theorem Steps.trans {a b : Nat} {s t u : Scan} (hst : Steps a s t) (htu : Steps b t u) :
    Steps (a + b) s u := by
  induction hst with
  | nil s => rwa [Nat.zero_add]
  | cons hs ht _ ih =>
    rw [Nat.add_right_comm]
    exact .cons hs ht (ih htu)

/-- Steps that succeed are taken from the fuel. -/
theorem run_of_steps {n : Nat} {s t : Scan} (h : Steps n s t) (fuel : Nat) :
    run (n + fuel) s = run fuel t := by
  induction h with
  | nil s => rw [Nat.zero_add]
  | cons hs ht _ ih =>
    rw [Nat.add_right_comm, run, ht, ← ih]
    simp [hs]

/-! ## Between words -/

theorem blanksFrom_opensLine {rest : List Char} (h : opensLine rest = true) (flow allowed : Bool)
    (m : Mark) : blanksFrom flow allowed false m rest = (allowed, ⟨rest, m⟩) := by
  cases rest with
  | nil => rfl
  | cons c rest =>
    simp only [opensLine, isBlank, Bool.and_eq_true, Bool.not_eq_true', Bool.or_eq_false_iff,
      decide_eq_true_eq, decide_eq_false_iff_not] at h
    obtain ⟨⟨⟨hspace, htab⟩, hbreak⟩, hhash⟩ := h
    simp [blanksFrom, hbreak, hspace, htab, hhash]

/-- The blanks at the start of a line are passed over. -/
theorem blanksFrom_indentation (flow allowed : Bool) (rest : List Char) : ∀ (k : Nat) (m : Mark),
    blanksFrom flow allowed false m (List.replicate k ' ' ++ rest) =
      blanksFrom flow allowed false (m.along k) rest
  | 0, m => rfl
  | k + 1, m => by
    have hbreak : isBreak ' ' = false := rfl
    rw [List.replicate_succ, List.cons_append, blanksFrom, Mark.past_of_not_isBreak hbreak]
    simp [hbreak, blanksFrom_indentation flow allowed rest k, Mark.along_along, Nat.add_comm]

/-- After a line break outside of brackets a key may start. -/
theorem blanksFrom_lineFeed (allowed : Bool) (m : Mark) (rest : List Char) :
    blanksFrom false allowed false m ('\n' :: rest) =
      blanksFrom false true false ⟨m.index + 1, m.line + 1, 0⟩ rest := by
  have hbreak : isBreak '\n' = true := rfl
  rw [blanksFrom, Mark.past_lineFeed]
  simp [hbreak]

/-- A line is indented by `k` blanks, or the text ends after them. -/
structure IsIndented (k : Nat) (front next : List Char) : Prop where
  blanks : front = List.replicate k ' ' ++ next
  opens : opensLine next = true

theorem isIndented_zero {next : List Char} (h : opensLine next = true) : IsIndented 0 next next :=
  ⟨rfl, h⟩

/-- A line ends, and the next one is indented by `k` blanks; or the text ends. -/
inductive LineEnd (k : Nat) : List Char → List Char → Prop where
  | line {front next : List Char} (h : IsIndented k front next) : LineEnd k ('\n' :: front) next
  | text : LineEnd k [] []

/-! ## No word waits for a colon -/

theorem dropStale_of_none {s : Scan} (hkey : s.key = none) (houter : s.outer = []) :
    s.dropStale = .ok s := by
  obtain ⟨cursor, tokens, count, columns, allowed, key, outer⟩ := s
  obtain rfl : key = none := hkey
  obtain rfl : outer = [] := houter
  simp [dropStale]

/-- The scan is outside of brackets, and no word waits for a colon. The signs of the tokens are
`signs`, the last of them first. -/
structure Calm (s : Scan) (columns : List Nat) (signs : List Sign) : Prop where
  count : s.count = s.tokens.length
  read : s.tokens.map Token.sign = signs
  blocks : s.columns = columns
  key : s.key = none
  outer : s.outer = []
  going : signs.head? ≠ some .streamEnd

namespace Calm

variable {s : Scan} {columns : List Nat} {signs : List Sign}

theorem isDone (h : s.Calm columns signs) : s.isDone = false := by
  have hgoing := h.going
  rw [← h.read] at hgoing
  unfold Scan.isDone
  cases ht : s.tokens with
  | nil => rfl
  | cons t ts => simpa [ht] using hgoing

theorem inFlow (h : s.Calm columns signs) : s.inFlow = false := by
  rw [Scan.inFlow, h.outer]
  rfl

/-- With no key in wait, none can become stale. -/
theorem dropStale (h : s.Calm columns signs) : s.dropStale = .ok s :=
  dropStale_of_none h.key h.outer

theorem toToken (h : s.Calm columns signs) : s.toToken.Calm columns signs :=
  ⟨h.count, h.read, h.blocks, h.key, h.outer, h.going⟩

theorem moved (h : s.Calm columns signs) (cursor : Cursor) :
    ({ s with cursor } : Scan).Calm columns signs :=
  ⟨h.count, h.read, h.blocks, h.key, h.outer, h.going⟩

/-- A token other than the last one leaves the scan calm. -/
theorem push (h : s.Calm columns signs) {t : Token} (ht : t.sign ≠ .streamEnd) :
    (s.push t).Calm columns (t.sign :: signs) := by
  refine ⟨?_, ?_, h.blocks, h.key, h.outer, by simpa using ht⟩
  · simp [Scan.push, h.count]
  · simp [Scan.push, h.read]

/-- Blocks are closed one by one. -/
theorem foldl_push : ∀ (closed : List Nat) {s : Scan} {signs : List Sign}, s.Calm columns signs →
    (closed.foldl (fun s _ => s.push ⟨.blockEnd, s.cursor.mark, s.cursor.mark⟩) s).Calm columns
      (List.replicate closed.length .blockEnd ++ signs)
  | [], s, signs, h => h
  | n :: closed, s, signs, h => by
    have ih := foldl_push closed
      (h.push (t := ⟨.blockEnd, s.cursor.mark, s.cursor.mark⟩) (by simp))
    rwa [List.length_cons, List.replicate_succ', List.append_assoc, List.singleton_append]

/-- To close blocks is to put a token for each of them. -/
theorem close (h : s.Calm columns signs) (ends : Nat → Bool) :
    (s.close ends).Calm (columns.dropWhile ends)
      (List.replicate (columns.takeWhile ends).length .blockEnd ++ signs) := by
  have hclosed : ({ s with columns := s.columns.dropWhile ends } : Scan).Calm
      (columns.dropWhile ends) signs :=
    ⟨h.count, h.read, by simp [h.blocks], h.key, h.outer, h.going⟩
  rw [Scan.close, h.inFlow, h.blocks]
  rw [h.blocks] at hclosed
  exact hclosed.foldl_push _

end Calm

theorem foldl_push_cursor : ∀ (closed : List Nat) (s : Scan),
    (closed.foldl (fun s _ => s.push ⟨.blockEnd, s.cursor.mark, s.cursor.mark⟩) s).cursor =
        s.cursor ∧
      (closed.foldl (fun s _ => s.push ⟨.blockEnd, s.cursor.mark, s.cursor.mark⟩) s).keyAllowed =
        s.keyAllowed
  | [], _ => ⟨rfl, rfl⟩
  | _ :: closed, s => foldl_push_cursor closed (s.push ⟨.blockEnd, s.cursor.mark, s.cursor.mark⟩)

theorem close_cursor (s : Scan) (ends : Nat → Bool) :
    (s.close ends).cursor = s.cursor ∧ (s.close ends).keyAllowed = s.keyAllowed := by
  unfold close
  split
  · exact ⟨rfl, rfl⟩
  · exact foldl_push_cursor _ _

/-- Nothing is closed when the innermost block stays. -/
theorem close_eq_self {s : Scan} {ends : Nat → Bool} (h : ∀ c ∈ s.columns.head?, ends c = false) :
    s.close ends = s := by
  obtain ⟨cursor, tokens, count, columns, allowed, key, outer⟩ := s
  unfold close
  split
  · rfl
  · cases columns with
    | nil => rfl
    | cons c cs =>
      have hc : ends c = false := h c rfl
      simp [hc]

theorem indent_le {s : Scan} {c : Nat} (hle : ∀ n ∈ s.columns.head?, n ≤ c) : s.indent ≤ c := by
  unfold indent
  cases hs : s.columns with
  | nil => simp
  | cons n ns => exact Int.ofNat_le.mpr (hle n (by rw [hs]; rfl))

/-- The columns of the open blocks say whether a key opens a new one. -/
theorem indent_lt_iff {s : Scan} {c : Nat} (hle : ∀ n ∈ s.columns.head?, n ≤ c) :
    s.indent < c ↔ s.columns.head? ≠ some c := by
  unfold indent
  cases hs : s.columns with
  | nil => simp; omega
  | cons n ns =>
    have hn : n ≤ c := hle n (by rw [hs]; rfl)
    simp only [List.head?_cons, ne_eq, Option.some.injEq]
    omega

/-- A block is opened at a column, unless there is one already. -/
theorem roll_eq {s : Scan} (houter : s.outer = []) {m : Mark}
    (hle : ∀ n ∈ s.columns.head?, n ≤ m.column) (number : Nat) (sign : Sign) :
    s.roll number sign m =
      if s.columns.head? = some m.column then s
      else { s with columns := m.column :: s.columns }.insert number ⟨sign, m, m⟩ := by
  have hindent := indent_lt_iff hle
  unfold roll
  by_cases hc : s.columns.head? = some m.column
  · simp [hc, hindent]
  · simp [hc, hindent, inFlow, houter]

theorem toToken_of_blanks {s : Scan} {allowed : Bool} {cursor : Cursor}
    (h : blanksFrom s.inFlow s.keyAllowed false s.cursor.mark s.cursor.rest = (allowed, cursor)) :
    s.toToken = { s with keyAllowed := allowed, cursor } := by
  rw [toToken, h]

theorem toToken_of_opensLine {s : Scan} (h : opensLine s.cursor.rest = true) : s.toToken = s :=
  toToken_of_blanks (blanksFrom_opensLine h _ _ _)

/-- A step goes to the next token, closes the blocks to the right of it and reads it. -/
theorem Calm.step_eq {s : Scan} {columns : List Nat} {signs : List Sign}
    (h : s.Calm columns signs) {lead : Lead} (hl : lead? false s.toToken.cursor = some lead) :
    s.step = (s.toToken.unroll.follow lead).bind (·.dropStale) := by
  have hflow : s.toToken.unroll.inFlow = false := (h.toToken.close _).inFlow
  have hcursor : s.toToken.unroll.cursor = s.toToken.cursor := (close_cursor _ _).1
  unfold step
  rw [h.toToken.dropStale]
  simp only [bind, Except.bind, hflow, hcursor, hl]

/-! ## Keys -/

/-- A line with a key may start here, in the column `column`, or the text ends. -/
structure AtLine (s : Scan) (columns : List Nat) (signs : List Sign) (column : Nat)
    (rest : List Char) : Prop where
  calm : s.Calm columns signs
  allowed : rest ≠ [] → s.toToken.keyAllowed = true
  ahead : s.toToken.cursor.rest = rest
  place : rest ≠ [] → s.toToken.cursor.mark.column = column

/-- A key and its colon were read. -/
structure AfterColon (s : Scan) (columns : List Nat) (signs : List Sign) (rest : List Char) :
    Prop where
  calm : s.Calm columns signs
  forbidden : s.keyAllowed = false
  ahead : s.cursor.rest = rest
  inside : s.indent < s.cursor.mark.column

/-- The blocks with one in a column : the innermost of them, or one that starts there. -/
def withColumn (columns : List Nat) (column : Nat) : List Nat :=
  if columns.head? = some column then columns else column :: columns

/-- The sign of a block that starts in a column. -/
def columnSigns (columns : List Nat) (column : Nat) : List Sign :=
  if columns.head? = some column then [] else [.blockMappingStart]

/-- The blocks around a key in a column. -/
def keyColumns (columns : List Nat) (column : Nat) : List Nat :=
  withColumn (columns.dropWhile (column < ·)) column

/-- The signs that the column of a key gives : the ends of blocks, and a start. -/
def keySigns (columns : List Nat) (column : Nat) : List Sign :=
  columnSigns (columns.dropWhile (column < ·)) column ++
    List.replicate (columns.takeWhile (column < ·)).length .blockEnd

/-- A word at a place where a key is allowed is kept as one. -/
theorem Calm.saveKey {t : Scan} {columns : List Nat} {signs : List Sign}
    (h : t.Calm columns signs) (hallowed : t.keyAllowed = true) :
    ∃ required, t.saveKey = .ok { t with key := some ⟨required, t.count, t.cursor.mark⟩ } := by
  obtain ⟨cursor, tokens, count, cols, allowed, key, outer⟩ := t
  obtain rfl : key = none := h.key
  obtain rfl : allowed = true := hallowed
  exact ⟨_, rfl⟩

/-- A colon in front of a blank is the sign of a value. -/
theorem lead?_colon {rest : List Char} (hrest : endsWord rest = true) (flow : Bool) (m : Mark) :
    lead? flow ⟨':' :: rest, m⟩ = some .value := by
  simp [lead?, Cursor.atMarker, hrest]

/-- The state after a word that may be a key. -/
def word (t : Scan) (required : Bool) (sign : Sign) (n : Nat) (rest : List Char) : Scan :=
  (({ t with key := some ⟨required, t.count, t.cursor.mark⟩ }.take sign (t.cursor.mark.along n)
    ⟨rest, t.cursor.mark.along n⟩).allowKey false)

section

variable {t : Scan} {columns : List Nat} {signs : List Sign} (h : t.Calm columns signs)
  (required : Bool) (sign : Sign) {n : Nat} (hn : n ≤ 1024) (rest : List Char)
include h hn

/-- A word of at most 1024 characters may be a key. -/
theorem dropStale_word :
    (t.word required sign n rest).dropStale = .ok (t.word required sign n rest) := by
  obtain ⟨cursor, tokens, count, cols, allowed, key, outer⟩ := t
  obtain rfl : outer = [] := h.outer
  have hstale :
      (⟨required, count, cursor.mark⟩ : KeyPlace).isStale (cursor.mark.along n) = false := by
    simp [KeyPlace.isStale, Mark.along]
    omega
  simp [word, Scan.dropStale, Scan.take, push, allowKey, hstale]

omit hn in
/-- The colon after a word makes it a key, of a block that perhaps starts with it. -/
theorem value_word (hle : ∀ c ∈ columns.head?, c ≤ t.cursor.mark.column) :
    ∃ v, (t.word required sign n (':' :: rest)).value = .ok v ∧
      v.AfterColon (withColumn columns t.cursor.mark.column)
        (.value :: sign :: .key :: (columnSigns columns t.cursor.mark.column ++ signs)) rest := by
  obtain ⟨⟨front, m⟩, tokens, count, cols, allowed, key, outer⟩ := t
  obtain rfl : count = tokens.length := h.count
  obtain rfl : tokens.map Token.sign = signs := h.read
  obtain rfl : cols = columns := h.blocks
  obtain rfl : outer = [] := h.outer
  have hadvance : (⟨':' :: rest, m.along n⟩ : Cursor).advanceBy 1 = ⟨rest, m.along (n + 1)⟩ := by
    simp [Cursor.advanceBy, Cursor.advance, Mark.past_of_not_isBreak (c := ':') rfl,
      Mark.along_along]
  have hone : tokens.length + 1 - tokens.length = 1 := by omega
  have htwo : tokens.length + 1 + 1 - tokens.length = 2 := by omega
  refine ⟨_, rfl, ?_⟩
  simp only [word, Scan.take, push, allowKey, insert, takeChars, hone, withColumn, columnSigns]
  rw [roll_eq rfl hle]
  split
  · next hc =>
    simp only [hadvance]
    refine ⟨⟨by simp, by simp, by simp, rfl, rfl, by simp⟩, rfl, rfl, ?_⟩
    exact Int.lt_of_le_of_lt (indent_le hle) (by simp only [Mark.along]; omega)
  · next hc =>
    simp only [insert, hadvance, htwo]
    refine ⟨⟨by simp, by simp, by simp, rfl, rfl, by simp⟩, rfl, rfl, ?_⟩
    simp only [indent, Mark.along]
    omega

/-- From the word to the blank behind its colon: the word turns out to be a key. -/
theorem step_word (hrest : endsWord rest = true)
    (hle : ∀ c ∈ columns.head?, c ≤ t.cursor.mark.column) :
    ∃ v, (t.word required sign n (':' :: rest)).step = .ok v ∧
      v.AfterColon (withColumn columns t.cursor.mark.column)
        (.value :: sign :: .key :: (columnSigns columns t.cursor.mark.column ++ signs)) rest := by
  obtain ⟨v, hvalue, hafter⟩ := value_word (n := n) h required sign rest hle
  refine ⟨v, ?_, hafter⟩
  have htoken : (t.word required sign n (':' :: rest)).toToken =
      t.word required sign n (':' :: rest) := toToken_of_opensLine rfl
  have hunroll : (t.word required sign n (':' :: rest)).unroll =
      t.word required sign n (':' :: rest) := by
    refine close_eq_self fun c hc => decide_eq_false ?_
    have hc' := hle c (h.blocks ▸ hc)
    simp only [word, allowKey, Scan.take, Mark.along]
    omega
  have hlead : lead? (t.word required sign n (':' :: rest)).inFlow
      (t.word required sign n (':' :: rest)).cursor = some .value := lead?_colon hrest _ _
  unfold step
  rw [htoken, dropStale_word h required sign hn]
  simp only [bind, Except.bind]
  rw [hunroll, hlead]
  simp only [follow, hvalue]
  exact hafter.calm.dropStale

end

/-- A key that is read in one step, and its colon. -/
theorem AtLine.steps_key {s : Scan} {columns : List Nat} {signs : List Sign} {column : Nat}
    {front : List Char} (h : s.AtLine columns signs column front) (hfront : front ≠ [])
    (lead : Lead) {sign : Sign} {n : Nat} {rest : List Char}
    (hlead : lead? false s.toToken.cursor = some lead)
    (hsign : sign ≠ .streamEnd) (hn : n ≤ 1024) (hrest : endsWord rest = true)
    (hfollow : ∀ (t : Scan) (cols : List Nat) (sgs : List Sign), t.Calm cols sgs →
      t.keyAllowed = true → t.cursor = s.toToken.cursor →
        ∃ required, t.follow lead = .ok (t.word required sign n (':' :: rest))) :
    ∃ v, Steps 2 s v ∧ v.AfterColon (keyColumns columns column)
      (.value :: sign :: .key :: (keySigns columns column ++ signs)) rest := by
  have hcalm := h.calm.toToken.close (s.toToken.cursor.mark.column < ·)
  obtain ⟨hcursor, hallowed⟩ := close_cursor s.toToken (s.toToken.cursor.mark.column < ·)
  obtain ⟨required, hword⟩ := hfollow _ _ _ hcalm (hallowed.trans (h.allowed hfront)) hcursor
  have hfirst : s.step = .ok (s.toToken.unroll.word required sign n (':' :: rest)) := by
    rw [h.calm.step_eq hlead, unroll, hword]
    exact dropStale_word hcalm required sign hn _
  have hle : ∀ c ∈ (columns.dropWhile (s.toToken.cursor.mark.column < ·)).head?,
      c ≤ s.toToken.unroll.cursor.mark.column := by
    intro c hc
    have hends :=
      List.head?_dropWhile_not (fun n => decide (s.toToken.cursor.mark.column < n)) columns
    rw [Option.mem_def.mp hc] at hends
    rw [unroll, hcursor]
    simpa using hends
  obtain ⟨v, hsecond, hafter⟩ := step_word hcalm required sign hn rest hrest hle
  refine ⟨v, .cons h.calm.isDone hfirst (.one (decide_eq_false hsign) hsecond), ?_⟩
  rw [hcursor, h.place hfront] at hafter
  rw [keyColumns, keySigns, List.append_assoc]
  exact hafter

/-- A character that starts a plain scalar and nothing else. -/
def opensPlain (c : Char) : Bool := !isBlank c && !isBreak c && !signs.contains c

/-- A plain scalar starts at a character that is no sign. -/
theorem lead?_plain {c : Char} {rest : List Char} (hc : opensPlain c = true) {m : Mark}
    (hmarker : (Cursor.mk (c :: rest) m).atMarker = false) :
    lead? false ⟨c :: rest, m⟩ = some .plain := by
  simp only [opensPlain, Bool.and_eq_true, Bool.not_eq_true', signs, List.contains_cons,
    List.contains_nil, Bool.or_false, Bool.or_eq_false_iff, beq_eq_false_iff_ne] at hc
  obtain ⟨⟨hblank, hbreak⟩, hsigns⟩ := hc
  simp [lead?, hmarker, startsPlain, hblank, hbreak, hsigns, signs]

theorem lead?_quoted (rest : List Char) (m : Mark) :
    lead? false ⟨'\x22' :: rest, m⟩ = some (.quoted false) := by
  simp [lead?, Cursor.atMarker]

theorem opensLine_of_opensPlain {c : Char} (h : opensPlain c = true) (rest : List Char) :
    opensLine (c :: rest) = true := by
  have hhash : c ≠ '#' := by
    rintro rfl
    exact absurd h (by decide)
  simp only [opensPlain, Bool.and_eq_true, Bool.not_eq_true'] at h
  simp [opensLine, h.1.1, h.1.2, hhash]

theorem cursor_eq_mk {c : Cursor} {rest : List Char} (h : c.rest = rest) : c = ⟨rest, c.mark⟩ := by
  rw [← h]

/-- A word that can be a key without quotes. -/
structure IsPlainKey (w : List Char) : Prop where
  first : ∃ c ∈ w.head?, opensPlain c = true ∧ c ≠ '.'
  inner : ∀ c ∈ w, isInner c = true
  short : w.length ≤ 1024

theorem IsPlainKey.opensLine {w : List Char} (h : IsPlainKey w) (rest : List Char) :
    opensLine (w ++ rest) = true := by
  obtain ⟨c, hc, hplain, -⟩ := h.first
  obtain ⟨cs, rfl⟩ := List.head?_eq_some_iff.mp hc
  exact opensLine_of_opensPlain hplain _

section

variable {s : Scan} {columns : List Nat} {signs : List Sign} {column : Nat} {w rest : List Char}

/-- A plain key. -/
theorem AtLine.plainKey (h : s.AtLine columns signs column (w ++ ':' :: rest))
    (hw : IsPlainKey w) (hrest : endsWord rest = true) :
    ∃ v, Steps 2 s v ∧ v.AfterColon (keyColumns columns column)
      (.value :: .scalar w .plain :: .key :: (keySigns columns column ++ signs)) rest := by
  obtain ⟨⟨c, hc, hplain, hpoint⟩, hinner, hlength⟩ := hw
  obtain ⟨cs, rfl⟩ := List.head?_eq_some_iff.mp hc
  have hcursor := cursor_eq_mk h.ahead
  have hdash : c ≠ '-' := by
    rintro rfl
    exact absurd hplain (by decide)
  have hmarker : s.toToken.cursor.atMarker = false := by
    rw [hcursor]
    simp [Cursor.atMarker, hpoint, hdash]
  refine h.steps_key (by simp) .plain ?_ (by simp) hlength hrest
    fun t cols sgs ht hallowed heq => ?_
  · rw [hcursor] at hmarker ⊢
    exact lead?_plain hplain hmarker
  · obtain ⟨required, hsave⟩ := ht.saveKey hallowed
    refine ⟨required, ?_⟩
    have hfront : t.cursor = ⟨c :: cs ++ ':' :: rest, t.cursor.mark⟩ := by
      rw [heq, ← h.ahead]
    have hread : plain t.inFlow (t.indent + 1) t.cursor = .ok ⟨c :: cs,
        t.cursor.mark.along (c :: cs).length,
        ⟨':' :: rest, t.cursor.mark.along (c :: cs).length⟩, false⟩ := by
      rw [ht.inFlow, hfront]
      exact plain_colon (List.cons_ne_nil c cs) hinner hrest _ _
    rw [follow, plainScalar, hsave]
    change Except.bind (plain t.inFlow (t.indent + 1) t.cursor) _ = _
    rw [hread]
    rfl

/-- A key between double quotes. -/
theorem AtLine.quotedKey
    (h : s.AtLine columns signs column ('\x22' :: (w ++ '\x22' :: ':' :: rest)))
    (hw : ∀ c ∈ w, isBody c = true) (hlength : w.length + 2 ≤ 1024)
    (hrest : endsWord rest = true) :
    ∃ v, Steps 2 s v ∧ v.AfterColon (keyColumns columns column)
      (.value :: .scalar w .doubleQuoted :: .key :: (keySigns columns column ++ signs)) rest := by
  have hcursor := cursor_eq_mk h.ahead
  refine h.steps_key (by simp) (.quoted false) ?_ (by simp) hlength hrest
    fun t cols sgs ht hallowed heq => ?_
  · rw [hcursor]
    exact lead?_quoted _ _
  · obtain ⟨required, hsave⟩ := ht.saveKey hallowed
    refine ⟨required, ?_⟩
    have hread : quoted false t.cursor = .ok ⟨w, t.cursor.mark.along (w.length + 2),
        ⟨':' :: rest, t.cursor.mark.along (w.length + 2)⟩, false⟩ := by
      have hfront : t.cursor = ⟨'\x22' :: (w ++ '\x22' :: ':' :: rest), t.cursor.mark⟩ := by
        rw [heq, ← h.ahead]
      rw [hfront]
      exact quoted_body hw _ _
    rw [follow, quotedScalar, hsave]
    change Except.bind (quoted false t.cursor) _ = _
    rw [hread]
    rfl

end

/-! ## Values -/

theorem Calm.take {s : Scan} {columns : List Nat} {signs : List Sign} (h : s.Calm columns signs)
    (sign : Sign) (hsign : sign ≠ .streamEnd) (stop : Mark) (after : Cursor) (allowed : Bool) :
    ((s.take sign stop after).allowKey allowed).Calm columns (sign :: signs) := by
  have hpush := h.push (t := ⟨sign, s.cursor.mark, stop⟩) hsign
  exact ⟨hpush.count, hpush.read, hpush.blocks, hpush.key, hpush.outer, hpush.going⟩

/-- A line or the text ends here. -/
theorem Calm.atLine {s : Scan} {columns : List Nat} {signs : List Sign} (h : s.Calm columns signs)
    {k : Nat} {next tail : List Char} (hahead : s.cursor.rest = tail) (hend : LineEnd k tail next) :
    s.AtLine columns signs k next := by
  cases hend with
  | text =>
    have htoken : s.toToken = s := toToken_of_opensLine (by rw [hahead]; rfl)
    exact ⟨h, absurd rfl, by rw [htoken, hahead], absurd rfl⟩
  | line hnext =>
    obtain ⟨rfl, hopens⟩ := hnext
    have hblanks : blanksFrom s.inFlow s.keyAllowed false s.cursor.mark s.cursor.rest =
        (true, ⟨next, Mark.along ⟨s.cursor.mark.index + 1, s.cursor.mark.line + 1, 0⟩ k⟩) := by
      rw [h.inFlow, hahead, blanksFrom_lineFeed, blanksFrom_indentation,
        blanksFrom_opensLine hopens]
    have htoken := toToken_of_blanks hblanks
    exact ⟨h, fun _ => by rw [htoken], by rw [htoken],
      fun _ => by rw [htoken]; exact Nat.zero_add k⟩

section

variable {s : Scan} {columns : List Nat} {signs : List Sign} {w t next front tail : List Char}
  {k : Nat}

/-- What is behind the colon starts on the next line. -/
theorem AfterColon.nested (h : s.AfterColon columns signs ('\n' :: front))
    (hnext : IsIndented k front next) : s.AtLine columns signs k next :=
  h.calm.atLine h.ahead (.line hnext)

/-- A value behind a space. -/
theorem AfterColon.step_eq (h : s.AfterColon columns signs (' ' :: front))
    (hfront : opensLine front = true) {lead : Lead}
    (hlead : lead? false ⟨front, s.cursor.mark.along 1⟩ = some lead) :
    s.step = (({ s with cursor := ⟨front, s.cursor.mark.along 1⟩ } : Scan).follow lead).bind
      (·.dropStale) := by
  have htoken : s.toToken = { s with cursor := ⟨front, s.cursor.mark.along 1⟩ } := by
    have hspace := blanksFrom_indentation s.inFlow s.keyAllowed front 1 s.cursor.mark
    rw [blanksFrom_opensLine hfront] at hspace
    exact toToken_of_blanks (by rw [h.ahead]; exact hspace)
  have hunroll : s.toToken.unroll = s.toToken := by
    refine close_eq_self fun c hc => decide_eq_false ?_
    have hinside := h.inside
    rw [htoken] at hc ⊢
    obtain ⟨cs, hcs⟩ : ∃ cs, s.columns = c :: cs := List.head?_eq_some_iff.mp hc
    have hindent : s.indent = c := by rw [indent, hcs]
    simp only [Mark.along]
    omega
  have hlead' : lead? false s.toToken.cursor = some lead := by
    rw [htoken]
    exact hlead
  rw [h.calm.step_eq hlead', hunroll, htoken]

/-- The step that takes the value on the line of its key. -/
theorem AfterColon.steps_value (h : s.AfterColon columns signs (' ' :: front))
    (hfront : opensLine front = true) {lead : Lead}
    (hlead : lead? false ⟨front, s.cursor.mark.along 1⟩ = some lead) {v : Scan}
    (hfollow : ({ s with cursor := ⟨front, s.cursor.mark.along 1⟩ } : Scan).follow lead = .ok v)
    {sgs : List Sign} (hv : v.Calm columns sgs) : Steps 1 s v := by
  refine .one h.calm.isDone ?_
  rw [h.step_eq hfront hlead, hfollow]
  exact hv.dropStale

theorem saveKey_of_forbidden {t : Scan} (h : t.keyAllowed = false) : t.saveKey = .ok t := by
  simp [saveKey, h]

/-- A plain scalar where no key may stand is one token. -/
theorem Calm.plainScalar {t : Scan} (h : t.Calm columns signs) (hallowed : t.keyAllowed = false)
    {r : Scalar} (hread : plain false (t.indent + 1) t.cursor = .ok r) :
    t.plainScalar = .ok ((t.take (.scalar r.text .plain) r.stop r.after).allowKey r.broken) := by
  rw [Scan.plainScalar, saveKey_of_forbidden hallowed]
  change Except.bind (plain t.inFlow (t.indent + 1) t.cursor) _ = _
  rw [h.inFlow, hread]
  rfl

/-- A scalar in quotes where no key may stand is one token. -/
theorem quotedScalar_of_forbidden {t : Scan} (hallowed : t.keyAllowed = false) {single : Bool}
    {r : Scalar} (hread : quoted single t.cursor = .ok r) :
    t.quotedScalar single = .ok ((t.take
      (.scalar r.text (if single then .singleQuoted else .doubleQuoted)) r.stop r.after).allowKey
        false) := by
  rw [quotedScalar, saveKey_of_forbidden hallowed]
  change Except.bind (quoted single t.cursor) _ = _
  rw [hread]
  rfl

/-- A plain value is read with the end of its line. -/
theorem plain_end (hw : Phrase w) (indent : Int) (m : Mark) (hindent : indent ≤ m.column)
    (hcolumn : 0 < m.column) (hk : (k : Int) < indent) (hend : LineEnd k tail next) :
    ∃ r, plain false indent ⟨w ++ tail, m⟩ = .ok r ∧ r.text = w ∧ r.after.rest = next ∧
      (next ≠ [] → r.broken = true ∧ r.after.mark.column = k) := by
  cases hend with
  | text =>
    rw [List.append_nil]
    exact ⟨_, plain_textEnd hw hindent hcolumn, rfl, rfl, absurd rfl⟩
  | line hnext =>
    obtain ⟨rfl, hopens⟩ := hnext
    exact ⟨_, plain_lineEnd hw hindent hcolumn hk hopens, rfl, rfl, fun _ => ⟨rfl, rfl⟩⟩

theorem LineEnd.opensLine (h : LineEnd k tail next) : opensLine next = true := by
  cases h with
  | text => rfl
  | line hnext => exact hnext.opens

/-- A plain value, up to the first word of the next line. -/
theorem AfterColon.plainValue (h : s.AfterColon columns signs (' ' :: (w ++ tail)))
    (hw : Phrase w) (hfirst : ∃ c ∈ w.head?, opensPlain c = true) {column : Nat}
    (hcolumn : columns.head? = some column) (hk : k ≤ column) (hend : LineEnd k tail next) :
    ∃ v, Steps 1 s v ∧ v.AtLine columns (.scalar w .plain :: signs) k next := by
  obtain ⟨c, hc, hplain⟩ := hfirst
  obtain ⟨cs, rfl⟩ := List.head?_eq_some_iff.mp hc
  have hinside := h.inside
  have hindent : s.indent = column := by
    obtain ⟨outer, houter⟩ := List.head?_eq_some_iff.mp (h.calm.blocks ▸ hcolumn)
    rw [indent, houter]
  have hlead : lead? false ⟨c :: cs ++ tail, s.cursor.mark.along 1⟩ = some .plain :=
    lead?_plain hplain (by simp [Cursor.atMarker, Mark.along])
  obtain ⟨r, hread, htext, hafter, hbroken⟩ := plain_end hw (s.indent + 1)
    (s.cursor.mark.along 1) (by simp only [Mark.along]; omega) (Nat.succ_pos _) (by omega) hend
  have hcalm := h.calm.moved ⟨c :: cs ++ tail, s.cursor.mark.along 1⟩
  have hv := hcalm.take (.scalar r.text .plain) (by simp) r.stop r.after r.broken
  refine ⟨_, h.steps_value (opensLine_of_opensPlain hplain _) hlead
    (hcalm.plainScalar h.forbidden hread) hv, htext ▸ hv, ?_, ?_, ?_⟩
  all_goals rw [toToken_of_opensLine (by
    change opensLine r.after.rest = true
    rw [hafter]
    exact hend.opensLine)]
  · exact fun hnext => (hbroken hnext).1
  · exact hafter
  · exact fun hnext => (hbroken hnext).2

/-- A value between double quotes. -/
theorem AfterColon.spelledValue
    (h : s.AfterColon columns signs (' ' :: '\x22' :: (t ++ '\x22' :: tail))) (hw : Spelled w t) :
    ∃ v, Steps 1 s v ∧ v.Calm columns (.scalar w .doubleQuoted :: signs) ∧
      v.cursor.rest = tail := by
  have hcalm := h.calm.moved ⟨'\x22' :: (t ++ '\x22' :: tail), s.cursor.mark.along 1⟩
  have hread := quoted_spelled hw (s.cursor.mark.along 1) tail
  have hv := hcalm.take (.scalar w .doubleQuoted) (by simp)
    ((s.cursor.mark.along 1).along (t.length + 2))
    ⟨tail, (s.cursor.mark.along 1).along (t.length + 2)⟩ false
  exact ⟨_, h.steps_value rfl (lead?_quoted _ _)
    (quotedScalar_of_forbidden (t := { s with cursor := ⟨_, s.cursor.mark.along 1⟩ }) h.forbidden
      hread) hv, hv, rfl⟩

/-- A value between single quotes. -/
theorem AfterColon.doubledValue
    (h : s.AfterColon columns signs (' ' :: '\x27' :: (doubled w ++ '\x27' :: tail)))
    (hw : ∀ c ∈ w, isBreak c = false) (htail : tail.head? ≠ some '\x27') :
    ∃ v, Steps 1 s v ∧ v.Calm columns (.scalar w .singleQuoted :: signs) ∧
      v.cursor.rest = tail := by
  have hcalm := h.calm.moved ⟨'\x27' :: (doubled w ++ '\x27' :: tail), s.cursor.mark.along 1⟩
  have hlead : lead? false ⟨'\x27' :: (doubled w ++ '\x27' :: tail), s.cursor.mark.along 1⟩ =
      some (.quoted true) := by
    simp [lead?, Cursor.atMarker]
  have hread := quoted_doubled hw (s.cursor.mark.along 1) htail
  have hv := hcalm.take (.scalar w .singleQuoted) (by simp)
    ((s.cursor.mark.along 1).along ((doubled w).length + 2))
    ⟨tail, (s.cursor.mark.along 1).along ((doubled w).length + 2)⟩ false
  exact ⟨_, h.steps_value rfl hlead
    (quotedScalar_of_forbidden (t := { s with cursor := ⟨_, s.cursor.mark.along 1⟩ }) h.forbidden
      hread) hv, hv, rfl⟩

end

/-! ## Entries -/

theorem head?_keyColumns (columns : List Nat) (column : Nat) :
    (keyColumns columns column).head? = some column := by
  unfold keyColumns withColumn
  by_cases h : (columns.dropWhile (column < ·)).head? = some column
  · simp [h]
  · simp [h]

/-- A line with a key and a value between double quotes. -/
def quotedLine (key value next : List Char) : List Char :=
  key ++ ':' :: ' ' :: '\x22' :: (value ++ '\x22' :: '\n' :: next)

/-- A line with a key and a plain value. -/
def plainLine (key value next : List Char) : List Char :=
  key ++ ':' :: ' ' :: (value ++ '\n' :: next)

section

variable {s : Scan} {columns : List Nat} {signs : List Sign} {column k : Nat}
  {key value next front : List Char}

/-- A whole line whose value is in quotes. -/
theorem AtLine.quotedEntry
    (h : s.AtLine columns signs column (quotedLine key value front))
    (hkey : IsPlainKey key) (hvalue : ∀ c ∈ value, isBody c = true)
    (hnext : IsIndented k front next) :
    ∃ v, Steps 3 s v ∧ v.AtLine (keyColumns columns column)
      (.scalar value .doubleQuoted :: .value :: .scalar key .plain :: .key ::
        (keySigns columns column ++ signs)) k next := by
  obtain ⟨t, hst, ht⟩ := h.plainKey hkey rfl
  obtain ⟨v, htv, hv, hahead⟩ := ht.spelledValue (spelled_self hvalue)
  exact ⟨v, hst.trans htv, hv.atLine hahead (.line hnext)⟩

/-- A whole line whose value is a plain scalar. -/
theorem AtLine.plainEntry
    (h : s.AtLine columns signs column (plainLine key value front))
    (hkey : IsPlainKey key) (hvalue : Phrase value)
    (hfirst : ∃ c ∈ value.head?, opensPlain c = true) (hk : k ≤ column)
    (hnext : IsIndented k front next) :
    ∃ v, Steps 3 s v ∧ v.AtLine (keyColumns columns column)
      (.scalar value .plain :: .value :: .scalar key .plain :: .key ::
        (keySigns columns column ++ signs)) k next := by
  obtain ⟨t, hst, ht⟩ := h.plainKey hkey rfl
  obtain ⟨v, htv, hv⟩ := ht.plainValue hvalue hfirst (head?_keyColumns columns column) hk
    (.line hnext)
  exact ⟨v, hst.trans htv, hv⟩

end

/-! ## The ends of a text -/

/-- The end of the text closes all blocks. -/
theorem Calm.unrollAll {s : Scan} {columns : List Nat} {signs : List Sign}
    (h : s.Calm columns signs) :
    s.unrollAll.Calm [] (List.replicate columns.length .blockEnd ++ signs) := by
  have hclose := h.close fun _ => true
  have hdrop : columns.dropWhile (fun _ => true) = [] := by
    clear h hclose
    induction columns with
    | nil => rfl
    | cons _ _ ih => exact ih
  have htake : columns.takeWhile (fun _ => true) = columns := by
    have hall := List.takeWhile_append_dropWhile (p := fun _ => true) (l := columns)
    rwa [hdrop, List.append_nil] at hall
  rwa [hdrop, htake] at hclose

theorem Calm.removeKey {s : Scan} {columns : List Nat} {signs : List Sign}
    (h : s.Calm columns signs) : s.removeKey = .ok s := by
  rw [Scan.removeKey, h.key]

/-- All blocks are closed in two steps : those to the right of a column, and the others. -/
theorem Calm.unroll_unrollAll {s : Scan} {columns : List Nat} {signs : List Sign}
    (h : s.Calm columns signs) (cursor : Cursor) :
    ({ s.unroll with cursor } : Scan).unrollAll.Calm []
      (List.replicate columns.length .blockEnd ++ signs) := by
  have hclosed := ((h.close (s.cursor.mark.column < ·)).moved cursor).unrollAll
  have hlength := congrArg List.length (List.takeWhile_append_dropWhile
    (p := fun n => decide (s.cursor.mark.column < n)) (l := columns))
  rw [List.length_append] at hlength
  rwa [← List.append_assoc, List.replicate_append_replicate, Nat.add_comm, hlength] at hclosed

theorem advance_rest {c : Cursor} {d : Char} {rest : List Char} (h : c.rest = d :: rest) :
    c.advance.rest = rest := by
  rw [Cursor.advance, h]

/-- The start of a text, without a byte order mark. -/
theorem atLine_start (text : List Char) (htext : opensLine text = true)
    (hmark : text.head? ≠ some '\uFEFF') : (start text).AtLine [] [.streamStart] 0 text := by
  have hstart : start text =
      ⟨⟨text, .zero⟩, [⟨.streamStart, .zero, .zero⟩], 1, [], true, none, []⟩ := by
    simp [start, Cursor.start, Cursor.sees, hmark]
  have htoken : (start text).toToken = start text :=
    toToken_of_opensLine (by rw [hstart]; exact htext)
  rw [hstart] at htoken ⊢
  exact ⟨⟨rfl, rfl, rfl, rfl, rfl, by simp⟩, fun _ => by rw [htoken], by rw [htoken],
    fun _ => by rw [htoken]; rfl⟩

section

variable {s : Scan} {columns : List Nat} {signs : List Sign} {k : Nat} {next front : List Char}

/-- The sign that starts a document closes all blocks, whatever stands on the lines after it. -/
theorem AtLine.closes_marker
    (h : s.AtLine columns signs 0 ('-' :: '-' :: '-' :: '\n' :: front)) :
    ∃ v, Steps 1 s v ∧ v.Calm [] (.documentStart ::
      (List.replicate columns.length .blockEnd ++ signs)) ∧ v.cursor.rest = '\n' :: front := by
  have hlead : lead? false s.toToken.cursor = some (.marker .documentStart) := by
    rw [cursor_eq_mk h.ahead]
    simp [lead?, Cursor.atMarker, h.place (by simp), endsWord, isBreak]
  have hcalm := h.calm.toToken.unroll_unrollAll s.toToken.unroll.cursor
  obtain ⟨hcursor, -⟩ := close_cursor s.toToken (s.toToken.cursor.mark.column < ·)
  have hall : s.toToken.unroll.unrollAll.cursor.rest =
      '-' :: '-' :: '-' :: '\n' :: front := by
    rw [unrollAll, (close_cursor _ _).1, unroll, hcursor, h.ahead]
  have hv := hcalm.take .documentStart (by simp)
    (s.toToken.unroll.unrollAll.cursor.advanceBy 3).mark
    (s.toToken.unroll.unrollAll.cursor.advanceBy 3) false
  refine ⟨_, .one h.calm.isDone ?_, hv, ?_⟩
  · rw [h.calm.step_eq hlead, follow, marker, hcalm.removeKey]
    exact hv.dropStale
  · exact advance_rest (advance_rest (advance_rest hall))

/-- The sign that starts a document, with a line after it. -/
theorem AtLine.steps_marker
    (h : s.AtLine columns signs 0 ('-' :: '-' :: '-' :: '\n' :: front))
    (hnext : IsIndented k front next) :
    ∃ v, Steps 1 s v ∧ v.AtLine []
      (.documentStart :: (List.replicate columns.length .blockEnd ++ signs)) k next := by
  obtain ⟨v, hsv, hv, hahead⟩ := h.closes_marker
  exact ⟨v, hsv, hv.atLine hahead (.line hnext)⟩

/-- The end of a text closes all blocks. -/
theorem AtLine.steps_finish (h : s.AtLine columns signs k []) :
    ∃ v, Steps 1 s v ∧ v.isDone = true ∧ v.released.map Token.sign =
      signs.reverse ++ List.replicate columns.length .blockEnd ++ [.streamEnd] := by
  have hlead : lead? false s.toToken.cursor = some .finish := by
    simp [lead?, h.ahead]
  obtain ⟨m, hm⟩ : ∃ m, s.toToken.unroll.finish =
      (do let t ← ({ s.toToken.unroll with cursor := ⟨[], m⟩ } : Scan).unrollAll.removeKey
          pure ((t.take .streamEnd m ⟨[], m⟩).allowKey false)) := ⟨_, rfl⟩
  have hcalm := h.calm.toToken.unroll_unrollAll ⟨[], m⟩
  obtain ⟨t, ht⟩ : ∃ t, t = ({ s.toToken.unroll with cursor := ⟨[], m⟩ } : Scan).unrollAll :=
    ⟨_, rfl⟩
  rw [← ht] at hm hcalm
  have hdone : s.step = .ok ((t.take .streamEnd m ⟨[], m⟩).allowKey false) := by
    rw [h.calm.step_eq hlead, follow, hm, hcalm.removeKey]
    exact dropStale_of_none hcalm.key hcalm.outer
  refine ⟨_, .one h.calm.isDone hdone, rfl, ?_⟩
  simp [released, Scan.take, push, allowKey, hcalm.key, hcalm.outer, hcalm.read]

end

/-- A text that is scanned to its end in some steps. -/
theorem scan_of_steps {text : List Char} (htext : text.all isPrintable = true) {n : Nat} {v : Scan}
    (h : Steps n (start text) v) (hdone : v.isDone = true) (hn : n ≤ text.length + 2) :
    Token.scan text = (v.released, none) := by
  obtain ⟨fuel, hfuel⟩ := Nat.exists_eq_add_of_le hn
  rw [Token.scan, if_pos htext, hfuel, run_of_steps h]
  cases fuel with
  | zero => rfl
  | succ fuel => simp [run, hdone]

end UserConfigs.Yaml.Scan
