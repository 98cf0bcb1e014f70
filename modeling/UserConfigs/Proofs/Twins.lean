import UserConfigs.Proofs.TagReading

/-!
# Readers that do not see what follows

A reader looks ahead, so it may read other things where another text follows. The readers of
expressions do not if a closing brace comes first. They pass single characters, but no closing
brace, and whole texts in quotes (`Closed`). So what they read, and what they refuse, is settled
before a closing brace that no quote is open at (`Guarded`).

This is said of two readers at once (`Twin`) : what `p` reads in a text, `q` reads in the same text
with `R` behind it. They may be readers of different depths, which differ only in texts as long as
they are deep, and with nothing behind the text they read alike in any text (`Fits`). A `Twin` also
tells what its values are like, if the text is a part of the source `S`. Twins are put together as
readers are (`Twin.bind`, `Twin.orElse`, `Twin.many`). After a reader that takes a character the
next one may be less deep by one (`Twin.bind_next`).
-/

namespace UserConfigs.Template

open Reader

/-! ## Texts without an open quote -/

/-- A character that starts a text in quotes. -/
def isQuote (c : Char) : Bool := c = '\x22' || c = '\x27' || c = '\x60'

/-- A text in which all quotes are closed, and no closing brace stands outside of them. -/
inductive Closed : List Char → Prop where
  | nil : Closed []
  | char {c : Char} {w : List Char} (hquote : isQuote c = false) (hbrace : c ≠ '\x7d')
    (h : Closed w) : Closed (c :: w)
  | quoted {q : Char} {body w : List Char} (hquote : isQuote q = true) (hbody : q ∉ body)
    (h : Closed w) : Closed (q :: (body ++ q :: w))

theorem Closed.append {w v : List Char} (hw : Closed w) (hv : Closed v) : Closed (w ++ v) := by
  induction hw with
  | nil => exact hv
  | char hquote hbrace _ ih => exact .char hquote hbrace ih
  | @quoted q body w hquote hbody _ ih =>
    rw [List.cons_append, List.append_assoc, List.cons_append]
    exact .quoted hquote hbody ih

/-- A closing brace comes before any quote that stays open. -/
def Guarded (s : List Char) : Prop := ∃ w t, Closed w ∧ s = w ++ '\x7d' :: t

theorem guarded_brace (t : List Char) : Guarded ('\x7d' :: t) := ⟨[], t, .nil, rfl⟩

theorem Guarded.append {w s : List Char} (hw : Closed w) (hs : Guarded s) : Guarded (w ++ s) := by
  obtain ⟨v, t, hv, rfl⟩ := hs
  exact ⟨w ++ v, t, hw.append hv, (List.append_assoc w v _).symm⟩

theorem append_cons_inj {q : Char} {a b s t : List Char} (ha : q ∉ a) (hb : q ∉ b)
    (h : a ++ q :: s = b ++ q :: t) : a = b ∧ s = t := by
  rcases List.append_eq_append_iff.mp h with ⟨u, rfl, hu⟩ | ⟨u, rfl, hu⟩
  · cases u with
    | nil => simpa using hu
    | cons c u =>
      obtain ⟨rfl, -⟩ := List.cons.inj hu
      simp at hb
  · cases u with
    | nil => simpa [eq_comm] using hu
    | cons c u =>
      obtain ⟨rfl, -⟩ := List.cons.inj hu
      simp at ha

/-- The brace is not passed with a closed text. -/
theorem Guarded.drop {w : List Char} (hw : Closed w) : ∀ {s : List Char}, Guarded (w ++ s) →
    Guarded s := by
  induction hw with
  | nil => exact fun h => h
  | @char c w hquote hbrace hw ih =>
    rintro s ⟨v, t, hv, heq⟩
    cases hv with
    | nil => exact absurd (List.cons.inj heq).1 hbrace
    | char _ _ hv => exact ih ⟨_, t, hv, (List.cons.inj heq).2⟩
    | quoted hquote' _ _ =>
      obtain ⟨rfl, -⟩ := List.cons.inj heq
      simp [hquote] at hquote'
  | @quoted q body w hquote hbody hw ih =>
    rintro s ⟨v, t, hv, heq⟩
    cases hv with
    | nil =>
      obtain ⟨rfl, -⟩ := List.cons.inj heq
      simp [isQuote] at hquote
    | char hquote' _ _ =>
      obtain ⟨rfl, -⟩ := List.cons.inj heq
      simp [hquote] at hquote'
    | @quoted q' body' v _ hbody' hv =>
      obtain ⟨rfl, -⟩ := List.cons.inj heq
      have htail : body ++ q :: (w ++ s) = body' ++ q :: (v ++ '\x7d' :: t) := by simpa using heq
      obtain ⟨-, hrest⟩ := append_cons_inj hbody hbody' htail
      exact ih ⟨v, t, hv, hrest⟩

/-- The text may stand in front of `R` without the readers of expressions seeing it. -/
def Fits (R s : List Char) : Prop := R = [] ∨ Guarded s

theorem Fits.drop {R w s : List Char} (hw : Closed w) (h : Fits R (w ++ s)) : Fits R s :=
  h.imp_right (Guarded.drop hw)

/-! ## Twins -/

/-- In a part of the source `S` the reader `p` takes closed texts, at least one character of them if
`taking`, and its values are such that `G`. In such a text of fewer than `k` characters with `R`
behind it, `q` reads the same. -/
structure Twin {α : Type} (S R : List Char) (k : Nat) (taking : Bool) (p q : Reader α)
    (G : α → Prop) : Prop where
  takes : ∀ {s a r}, s <:+ S → p s = some (a, r) →
    G a ∧ ∃ w, Closed w ∧ (taking = true → w ≠ []) ∧ s = w ++ r
  agrees : ∀ {s}, s <:+ S → s.length < k → Fits R s →
    q (s ++ R) = (p s).map fun x => (x.1, x.2 ++ R)

section

variable {α β : Type} {S R : List Char} {k : Nat} {taking : Bool} {p q : Reader α}
  {G : α → Prop} {G' : β → Prop}

namespace Twin

/-- Twins in shorter parts of the source, and with less said of the value. -/
theorem mono (h : Twin S R k taking p q G) {k' : Nat} (hk : k' ≤ k) {G' : α → Prop}
    (hG : ∀ a, G a → G' a) : Twin S R k' taking p q G' :=
  ⟨fun hs hp => (h.takes hs hp).imp_left (hG _),
    fun hs hlength => h.agrees hs (Nat.lt_of_lt_of_le hlength hk)⟩

/-- It does not matter that a character is taken. -/
theorem loose (h : Twin S R k taking p q G) : Twin S R k false p q G :=
  ⟨fun hs hp => (h.takes hs hp).imp_right fun ⟨w, hw, _, hsw⟩ => ⟨w, hw, nofun, hsw⟩, h.agrees⟩

/-- No text has fewer than no characters. -/
theorem zero (h : Twin S R k taking p q G) (q' : Reader α) : Twin S R 0 taking p q' G where
  takes := h.takes
  agrees := fun _ hlength _ => absurd hlength (Nat.not_lt_zero _)

theorem pure {a : α} (ha : G a) : Twin S R k false (pure a) (pure a) G := by
  refine ⟨fun {s b r} _ hp => ?_, fun _ _ _ => rfl⟩
  obtain ⟨rfl, rfl⟩ : a = b ∧ s = r := by simpa using hp
  exact ⟨ha, [], .nil, nofun, rfl⟩

theorem failure : Twin S R k taking (failure : Reader α) failure G :=
  ⟨fun _ hp => (nomatch hp), fun _ _ _ => rfl⟩

/-- What is left after a reader. -/
theorem rest (h : Twin S R k taking p q G) {s : List Char} {a : α} {r : List Char} (hs : s <:+ S)
    (hp : p s = some (a, r)) : G a ∧ r <:+ S ∧ r.length ≤ s.length ∧
      (taking = true → r.length < s.length) ∧ (Fits R s → Fits R r) := by
  obtain ⟨ha, w, hw, htaking, rfl⟩ := h.takes hs hp
  refine ⟨ha, (List.suffix_append w r).trans hs, ?_, fun ht => ?_, fun hfits => hfits.drop hw⟩
  · rw [List.length_append]
    omega
  · have hpos := List.length_pos_iff.mpr (htaking ht)
    rw [List.length_append]
    omega

/-- One reader after another. If the first one takes a character, the second one may be less
deep. -/
theorem bind_deep {k' : Nat} (hk : k ≤ k' + 1) (hk' : taking = false → k ≤ k') {taking' : Bool}
    {f g : α → Reader β} (h : Twin S R k taking p q G)
    (hf : ∀ a, G a → Twin S R k' taking' (f a) (g a) G') :
    Twin S R k (taking || taking') (p >>= f) (q >>= g) G' := by
  refine ⟨fun {s b r} hs hp => ?_, fun {s} hs hlength hfits => ?_⟩
  · rw [bind_apply] at hp
    obtain ⟨⟨a, s'⟩, ha, hb⟩ := Option.bind_eq_some_iff.mp hp
    obtain ⟨hG, w, hw, htaking, rfl⟩ := h.takes hs ha
    obtain ⟨hG', v, hv, htaking', rfl⟩ := (hf a hG).takes ((List.suffix_append w _).trans hs) hb
    refine ⟨hG', w ++ v, hw.append hv, fun ht hnil => ?_, (List.append_assoc w v r).symm⟩
    obtain ⟨hwnil, hvnil⟩ := List.append_eq_nil_iff.mp hnil
    rcases (Bool.or_eq_true _ _).mp ht with ht | ht
    · exact htaking ht hwnil
    · exact htaking' ht hvnil
  · rw [bind_apply, bind_apply, h.agrees hs hlength hfits]
    cases hp : p s with
    | none => rfl
    | some x =>
      obtain ⟨a, r⟩ := x
      obtain ⟨hG, hr, hle, hlt, hrest⟩ := h.rest hs hp
      have hshort : r.length < k' := by
        cases taking with
        | true =>
          have := hlt rfl
          omega
        | false =>
          have := hk' rfl
          omega
      exact (hf a hG).agrees hr hshort (hrest hfits)

/-- One reader after another, where the first one may take nothing. -/
theorem bind {f g : α → Reader β} (h : Twin S R k false p q G)
    (hf : ∀ a, G a → Twin S R k taking (f a) (g a) G') : Twin S R k taking (p >>= f) (q >>= g) G' :=
  h.bind_deep (Nat.le_succ k) (fun _ => Nat.le_refl k) hf

/-- After a reader that takes a character. -/
theorem andThen {f g : α → Reader β} (h : Twin S R k true p q G)
    (hf : ∀ a, G a → Twin S R k false (f a) (g a) G') : Twin S R k true (p >>= f) (q >>= g) G' :=
  h.bind_deep (Nat.le_succ k) (fun _ => Nat.le_refl k) hf

/-- After a reader that takes a character the depth may be less. -/
theorem bind_next {f g : α → Reader β} (h : Twin S R (k + 1) true p q G)
    (hf : ∀ a, G a → Twin S R k false (f a) (g a) G') :
    Twin S R (k + 1) true (p >>= f) (q >>= g) G' :=
  h.bind_deep (Nat.le_refl (k + 1)) (fun hfalse => absurd hfalse (by decide)) hf

theorem ite {c : Prop} [Decidable c] {p' q' : Reader α} (h : Twin S R k taking p q G)
    (h' : Twin S R k taking p' q' G) :
    Twin S R k taking (if c then p else p') (if c then q else q') G := by
  split
  · exact h
  · exact h'

theorem map {f : α → β} (h : Twin S R k taking p q G) (hf : ∀ a, G a → G' (f a)) :
    Twin S R k taking (f <$> p) (f <$> q) G' := by
  have hpure := h.bind_deep (Nat.le_succ k) (fun _ => Nat.le_refl k) fun a ha =>
    Twin.pure (S := S) (R := R) (k := k) (hf a ha)
  rwa [Bool.or_false] at hpure

/-- A choice is taken alike, for a twin that fails fails on both sides. -/
theorem orElse {p' q' : Reader α} (h : Twin S R k taking p q G)
    (h' : Twin S R k taking p' q' G) : Twin S R k taking (p <|> p') (q <|> q') G := by
  refine ⟨fun {s a r} hs hp => ?_, fun {s} hs hlength hfits => ?_⟩
  · rw [orElse_apply] at hp
    rcases Option.or_eq_some_iff.mp hp with hp | ⟨-, hp⟩
    · exact h.takes hs hp
    · exact h'.takes hs hp
  · rw [orElse_apply, orElse_apply, h.agrees hs hlength hfits, h'.agrees hs hlength hfits]
    cases p s <;> rfl

/-- A reader that may be left out. -/
theorem maybe (h : Twin S R k taking p q G) :
    Twin S R k false (maybe p) (maybe q) fun o => ∀ a ∈ o, G a :=
  (h.loose.map fun _ ha _ hb => Option.mem_some.mp hb ▸ ha).orElse (.pure nofun)

theorem given (h : Twin S R k taking p q G) :
    Twin S R k false (given p) (given q) fun _ => True :=
  (h.loose.bind fun _ _ => .pure trivial).orElse (.pure trivial)

/-- What is taken by repetition is taken piece by piece. -/
theorem takes_repeated (h : Twin S R k true p q G) : ∀ (fuel : Nat) {s r : List Char}
    {as : List α}, s <:+ S → repeated p fuel s = some (as, r) →
      (∀ a ∈ as, G a) ∧ ∃ w, Closed w ∧ s = w ++ r := by
  intro fuel
  induction fuel with
  | zero =>
    intro s r as _ hp
    obtain ⟨rfl, rfl⟩ : [] = as ∧ s = r := by simpa [repeated] using hp
    exact ⟨List.forall_mem_nil _, [], .nil, rfl⟩
  | succ fuel ih =>
    intro s r as hs hp
    simp only [repeated, orElse_apply, bind_apply, pure_apply] at hp
    rcases Option.or_eq_some_iff.mp hp with hp | ⟨-, hp⟩
    · obtain ⟨⟨a, s'⟩, ha, hp⟩ := Option.bind_eq_some_iff.mp hp
      obtain ⟨⟨as', r'⟩, has, hp⟩ := Option.bind_eq_some_iff.mp hp
      obtain ⟨rfl, rfl⟩ : a :: as' = as ∧ r' = r := by simpa using hp
      obtain ⟨hG, w, hw, -, rfl⟩ := h.takes hs ha
      obtain ⟨hGs, v, hv, rfl⟩ := ih ((List.suffix_append w _).trans hs) has
      exact ⟨List.forall_mem_cons.mpr ⟨hG, hGs⟩, w ++ v, hw.append hv,
        (List.append_assoc w v _).symm⟩
    · obtain ⟨rfl, rfl⟩ : [] = as ∧ s = r := by simpa using hp
      exact ⟨List.forall_mem_nil _, [], .nil, rfl⟩

/-- With fuel for each character, repetition does not see what follows. -/
theorem agrees_repeated (h : Twin S R k true p q G) : ∀ (fuel : Nat) {fuel' : Nat}
    {s : List Char}, s <:+ S → s.length < k → Fits R s → s.length ≤ fuel → s.length ≤ fuel' →
      repeated q fuel' (s ++ R) = (repeated p fuel s).map fun x => (x.1, x.2 ++ R) := by
  -- neither reader goes on where `p` reads nothing, whatever fuel is left
  have hstop : ∀ (fuel fuel' : Nat) {s : List Char}, p s = none → q (s ++ R) = none →
      repeated q fuel' (s ++ R) = (repeated p fuel s).map fun x => (x.1, x.2 ++ R) := by
    intro fuel fuel' s hp hq
    cases fuel <;> cases fuel' <;> simp [repeated, hp, hq]
  intro fuel
  induction fuel with
  | zero =>
    intro fuel' s hs hlength hfits hfuel _
    have hq := h.agrees hs hlength hfits
    cases hp : p s with
    | none => exact hstop 0 fuel' hp (by rw [hq, hp]; rfl)
    | some x =>
      have hlt := (h.rest hs hp).2.2.2.1 rfl
      omega
  | succ fuel ih =>
    intro fuel' s hs hlength hfits hfuel hfuel'
    have hq := h.agrees hs hlength hfits
    cases hp : p s with
    | none => exact hstop (fuel + 1) fuel' hp (by rw [hq, hp]; rfl)
    | some x =>
      obtain ⟨a, r⟩ := x
      rw [hp] at hq
      obtain ⟨-, hr, -, hlt, hrest⟩ := h.rest hs hp
      have hshort := hlt rfl
      obtain ⟨fuel', rfl⟩ : ∃ n, fuel' = n + 1 := ⟨fuel' - 1, by omega⟩
      have hmore := @ih fuel' r hr (by omega) (hrest hfits) (by omega) (by omega)
      simp only [repeated, orElse_apply, bind_apply, pure_apply, hp, hq, hmore, Option.map_some,
        Option.bind_some]
      cases repeated p fuel r <;> rfl

/-- A reader that takes a character each time stops at the same place in both texts. -/
theorem many (h : Twin S R k true p q G) :
    Twin S R k false (many p) (many q) fun as => ∀ a ∈ as, G a := by
  refine ⟨fun {s as r} hs hp => ?_, fun {s} hs hlength hfits => ?_⟩
  · obtain ⟨hG, w, hw, hsw⟩ := h.takes_repeated s.length hs hp
    exact ⟨hG, w, hw, fun h => absurd h Bool.false_ne_true, hsw⟩
  · exact h.agrees_repeated s.length hs hlength hfits (Nat.le_refl _) (by simp)

end Twin

end

/-! ## Single characters and words -/

/-- A character that the readers of expressions pass by itself. -/
def isPassed (c : Char) : Bool := !isQuote c && c ≠ '\x7d'

/-- A text without quotes and braces is closed. -/
theorem closed_of_isPassed : ∀ {w : List Char}, (∀ c ∈ w, isPassed c = true) → Closed w
  | [], _ => .nil
  | c :: w, h => by
    obtain ⟨hc, hw⟩ := List.forall_mem_cons.mp h
    simp only [isPassed, Bool.and_eq_true, Bool.not_eq_true', decide_eq_true_eq] at hc
    exact .char hc.1 hc.2 (closed_of_isPassed hw)

/-- The quotes and the closing brace. -/
def stops : List Char := ['\x22', '\x27', '\x60', '\x7d']

theorem isPassed_of_class {P : Char → Bool} (hP : stops.any P = false) {c : Char}
    (hc : P c = true) : isPassed c = true := by
  rw [isPassed, Bool.and_eq_true, Bool.not_eq_true', Bool.eq_false_iff, decide_eq_true_eq]
  have hnot : c ∉ stops := fun h =>
    Bool.false_ne_true (hP.symm.trans (List.any_eq_true.mpr ⟨c, h, hc⟩))
  simp only [stops, List.mem_cons, List.not_mem_nil, or_false, not_or] at hnot
  simp [isQuote, hnot]

theorem Guarded.brace_mem {s : List Char} (h : Guarded s) : '\x7d' ∈ s := by
  obtain ⟨w, t, -, rfl⟩ := h
  simp

namespace Twin

variable {S R : List Char} {k : Nat} {P : Char → Bool}

/-- A sign of a kind that holds neither quote nor brace. -/
theorem char (hP : stops.any P = false) :
    Twin S R k true (char P) (char P) fun c => P c = true := by
  refine ⟨fun {s a r} _ hp => ?_, fun {s} _ _ hfits => ?_⟩
  · cases s with
    | nil => simp [Reader.char] at hp
    | cons c s =>
      obtain ⟨hc, rfl, rfl⟩ : P c = true ∧ c = a ∧ s = r := by simpa [Reader.char] using hp
      refine ⟨hc, [c], closed_of_isPassed ?_, fun _ => List.cons_ne_nil c [], rfl⟩
      exact List.forall_mem_singleton.mpr (isPassed_of_class hP hc)
  · cases s with
    | nil =>
      rcases hfits with rfl | hguarded
      · rfl
      · simpa using hguarded.brace_mem
    | cons c s =>
      simp only [Reader.char, List.cons_append]
      split <;> rfl

/-- A row of such signs ends in the source, or the text that follows does not go on with it. -/
theorem run (hP : stops.any P = false) :
    Twin S R k false (run P) (run P) fun cs => ∀ c ∈ cs, P c = true := by
  refine ⟨fun {s a r} _ hp => ?_, fun {s} _ _ hfits => ?_⟩
  · obtain ⟨rfl, rfl⟩ : s.takeWhile P = a ∧ s.dropWhile P = r := by simpa [Reader.run] using hp
    have hall : ∀ c ∈ s.takeWhile P, P c = true := fun c hc => List.mem_takeWhile_imp hc
    have hclosed := closed_of_isPassed fun c hc => isPassed_of_class hP (hall c hc)
    exact ⟨hall, s.takeWhile P, hclosed, fun h => absurd h Bool.false_ne_true,
      List.takeWhile_append_dropWhile.symm⟩
  · rcases hfits with rfl | hguarded
    · simp [Reader.run]
    · have hstop : ¬∀ c ∈ s, P c = true := fun h => by
        simpa [isPassed] using isPassed_of_class hP (h _ hguarded.brace_mem)
      have htake : (s.takeWhile P).length ≠ s.length := fun h =>
        hstop (List.takeWhile_eq_self_iff.mp ((List.takeWhile_prefix P).eq_of_length h))
      have hdrop : (s.dropWhile P).isEmpty = false := by
        simpa [List.isEmpty_eq_false_iff, List.dropWhile_eq_nil_iff] using hstop
      simp [Reader.run, List.takeWhile_append, List.dropWhile_append, htake, hdrop]

theorem run1 (hP : stops.any P = false) :
    Twin S R k true (run1 P) (run1 P) fun cs => ∀ c ∈ cs, P c = true :=
  (Twin.char hP).andThen fun _ hc => (Twin.run hP).bind fun _ hcs =>
    .pure (List.forall_mem_cons.mpr ⟨hc, hcs⟩)

theorem gap : Twin S R k false gap gap fun _ => True :=
  (Twin.run (by decide)).bind fun _ _ => .pure trivial

/-- A word without quotes and closing braces. -/
theorem exact {w : String} (hw : w.toList ≠ [] ∧ w.toList.all isPassed = true) :
    Twin S R k true (exact w) (exact w) fun _ => True := by
  refine ⟨fun {s a r} _ hp => ?_, fun {s} _ _ hfits => ?_⟩
  · rw [exact_apply, Option.map_eq_some_iff] at hp
    obtain ⟨r', hr, hpair⟩ := hp
    obtain rfl : r' = r := (Prod.mk.inj hpair).2
    exact ⟨trivial, w.toList, closed_of_isPassed (List.all_eq_true.mp hw.2), fun _ => hw.1,
      eq_append_of_dropFront? hr⟩
  · rw [exact_apply, exact_apply]
    cases hd : dropFront? w.toList s with
    | some r =>
      rw [eq_append_of_dropFront? hd, List.append_assoc, dropFront?_append]
      rfl
    | none =>
      cases hd' : dropFront? w.toList (s ++ R) with
      | none => rfl
      | some r =>
        rcases hfits with rfl | hguarded
        · simp [hd] at hd'
        · -- the word would go over the brace
          have happend := eq_append_of_dropFront? hd'
          obtain ⟨v, hv, -⟩ | ⟨v, hv, -⟩ := List.append_eq_append_iff.mp happend
          · have hbrace : '\x7d' ∈ w.toList := hv ▸ List.mem_append_left v hguarded.brace_mem
            simpa [isPassed] using List.all_eq_true.mp hw.2 _ hbrace
          · simp [hv, dropFront?_append] at hd

end Twin

end UserConfigs.Template
