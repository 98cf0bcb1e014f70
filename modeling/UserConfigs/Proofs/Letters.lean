import UserConfigs.Yaml.Document

/-!
# Letters of a text

A scalar that is written without escapes has only letters of the text, in their order
(`Scalar.IsFrom`), for blanks and line breaks leave no letters. As long as nothing in the text calls
for an escape, a tag, an anchor, a block scalar or a directive (`Scan.callers`), a scan step keeps
this for all of its tokens (`Scan.IsFrom.step`), so the scalars of a text have no letters but those
of the text (`letters_of_scan`). `Gives` says what holds of a result if there is one.
-/

namespace UserConfigs

/-! ## Results -/

/-- What `x` gives, if it gives something, is such that `Q`. -/
def Gives {ε α : Type} (x : Except ε α) (Q : α → Prop) : Prop := ∀ a, x = .ok a → Q a

section Gives

variable {ε α β : Type} {Q : α → Prop} {R : β → Prop}

/-- A fault gives nothing, so all that it gives is such. -/
theorem gives_error (e : ε) : Gives (.error e) Q := nofun

theorem gives_ok {a : α} (h : Q a) : Gives (.ok a : Except ε α) Q :=
  fun _ ha => Except.ok.inj ha ▸ h

/-- What is such that `Q` is also such that `Q'`, if this follows. -/
theorem Gives.mono {x : Except ε α} {Q' : α → Prop} (h : Gives x Q) (hQ : ∀ a, Q a → Q' a) :
    Gives x Q' :=
  fun a ha => hQ a (h a ha)

/-- What is made of a result. -/
theorem Gives.map {x : Except ε α} {f : α → β} (h : Gives x Q) (hf : ∀ a, Q a → R (f a)) :
    Gives (x.map f) R := by
  cases x with
  | error e => exact gives_error e
  | ok a => exact gives_ok (hf a (h a rfl))

/-- One computation after another. -/
theorem Gives.bind {x : Except ε α} {f : α → Except ε β} (h : Gives x Q)
    (hf : ∀ a, Q a → Gives (f a) R) : Gives (x >>= f) R := by
  cases x with
  | error e => exact gives_error e
  | ok a => exact hf a (h a rfl)

end Gives

namespace Yaml

/-! ## Letters -/

/-- The letters of a text. -/
def letters (s : List Char) : List Char := s.filter Char.isAlpha

theorem letters_append (s t : List Char) : letters (s ++ t) = letters s ++ letters t :=
  List.filter_append s t

/-- The end of a text has no letters but those of the text. -/
theorem letters_sublist_of_suffix {s t : List Char} (h : s <:+ t) :
    (letters s).Sublist (letters t) :=
  h.sublist.filter Char.isAlpha

/-! ## Gaps -/

theorem isAlpha_of_isBlank {c : Char} (h : isBlank c = true) : c.isAlpha = false := by
  simp only [isBlank, Bool.or_eq_true, decide_eq_true_eq] at h
  rcases h with rfl | rfl <;> decide

/-- A line break has no letters. -/
theorem letters_breakText {c : Char} (rest : List Char) : letters (breakText c rest) = [] := by
  unfold breakText
  split
  · rfl
  · split
    · next h => rcases h with rfl | rfl <;> decide
    · decide

/-- A gap without letters. -/
structure Gap.IsSilent (g : Gap) : Prop where
  blanks : letters g.blanks = []
  first : letters g.first = []
  more : letters g.more = []

namespace Gap

/-- The gap at the start of a scalar. -/
theorem isSilent_none : Gap.none.IsSilent := ⟨rfl, rfl, rfl⟩

variable {g : Gap} (h : g.IsSilent)
include h

/-- A gap stays without letters when a blank is added. -/
theorem IsSilent.blank {c : Char} (hc : isBlank c = true) : (g.blank c).IsSilent := by
  unfold Gap.blank
  split
  · exact h
  · refine ⟨?_, h.first, h.more⟩
    rw [letters_append, h.blanks]
    simp [letters, isAlpha_of_isBlank hc]

/-- A gap stays without letters when a line break is added. -/
theorem IsSilent.lineBreak (c : Char) (rest : List Char) : (g.lineBreak c rest).IsSilent := by
  unfold Gap.lineBreak
  split
  · exact h
  · split
    · exact ⟨h.blanks, h.first, by rw [letters_append, h.more, letters_breakText]; rfl⟩
    · exact ⟨rfl, letters_breakText rest, rfl⟩

/-- What a gap folds to has no letters, be it a blank, line breaks or nothing. -/
theorem IsSilent.fold : letters g.fold = [] := by
  unfold Gap.fold
  split
  · split
    · split
      · decide
      · exact h.more
    · rw [letters_append, h.first, h.more]
      rfl
  · exact h.blanks

end Gap

/-! ## Scalars -/

/-- A scalar was read from a text : what follows it is the end of the text, and its letters are
letters of the text. -/
structure Scalar.IsFrom (r : Scalar) (s : List Char) : Prop where
  after : r.after.rest <:+ s
  text : (letters r.text).Sublist (letters s)

/-- What was read from the end of a text was read from the text. -/
theorem Scalar.IsFrom.cons {r : Scalar} {s : List Char} (h : r.IsFrom s) (c : Char) :
    r.IsFrom (c :: s) :=
  ⟨h.after.trans (List.suffix_cons c s),
    h.text.trans (letters_sublist_of_suffix (List.suffix_cons c s))⟩

/-- A scalar goes on with a character after a gap. -/
theorem gives_prepend {g : Gap} (hg : g.IsSilent) {c : Char} {rest : List Char}
    {e : Except Problem Scalar} (h : Gives e (Scalar.IsFrom · rest)) :
    Gives (Scalar.prepend (g.fold ++ [c]) e) (Scalar.IsFrom · (c :: rest)) := by
  cases e with
  | error p => exact gives_error p
  | ok r =>
    obtain ⟨hafter, htext⟩ := h r rfl
    refine gives_ok ⟨hafter.trans (List.suffix_cons c rest), ?_⟩
    have hcons : letters (c :: rest) = letters [c] ++ letters rest := letters_append [c] rest
    rw [List.append_assoc, letters_append, hg.fold, List.nil_append, letters_append, hcons]
    exact (List.Sublist.refl (letters [c])).append htext

/-- A scalar without text. -/
theorem Scalar.isFrom_nil {stop m : Mark} {broken : Bool} (s : List Char) :
    Scalar.IsFrom ⟨[], stop, ⟨s, m⟩, broken⟩ s :=
  ⟨List.suffix_refl s, List.nil_sublist _⟩

/-- A plain scalar, character by character. Each way to go on takes one, so this is by induction on
the text. -/
theorem gives_plainFrom (x : PlainContext) : ∀ {s : List Char} {g : Gap} {stop m : Mark},
    g.IsSilent → Gives (plainFrom x g stop m s) (Scalar.IsFrom · s)
  | [], _, _, _, _ => gives_ok (Scalar.isFrom_nil [])
  | c :: rest, g, stop, m, hg => by
    unfold plainFrom
    split
    · next hblank =>
      split
      · exact gives_error _
      · exact (gives_plainFrom x (hg.blank hblank)).mono fun _ hr => hr.cons c
    · split
      · exact (gives_plainFrom x (hg.lineBreak c rest)).mono fun _ hr => hr.cons c
      · split
        · exact gives_ok (Scalar.isFrom_nil _)
        · split
          · exact gives_error _
          · split
            · exact gives_ok (Scalar.isFrom_nil _)
            · exact gives_prepend hg (gives_plainFrom x Gap.isSilent_none)

/-- A quoted scalar without a backslash has no escapes. -/
theorem gives_quotedFrom (single : Bool) (start : Mark) : ∀ {s : List Char} {state : QuotedState}
    {g : Gap} {m : Mark}, (state = .text ∨ state = .quote) → '\x5c' ∉ s → g.IsSilent →
      Gives (quotedFrom single start state g m s) (Scalar.IsFrom · s)
  | [], _, _, _, .inl rfl, _, _ => gives_error _
  | [], _, g, _, .inr rfl, _, hg =>
    gives_ok ⟨List.suffix_refl [], by rw [hg.fold]; exact List.nil_sublist _⟩
  | c :: rest, state, g, m, hstate, hback, hg => by
    obtain ⟨hc, hrest⟩ : '\x5c' ≠ c ∧ '\x5c' ∉ rest := by simpa using hback
    have hprepend := gives_prepend hg (c := c)
      (gives_quotedFrom single start (m := m.past c rest) (.inl rfl) hrest Gap.isSilent_none)
    have hdone : ∀ {s : List Char}, s <:+ c :: rest → ∀ {stop m : Mark} {broken : Bool},
        Scalar.IsFrom ⟨g.fold, stop, ⟨s, m⟩, broken⟩ (c :: rest) := fun hs _ _ _ =>
      ⟨hs, by rw [hg.fold]; exact List.nil_sublist _⟩
    unfold quotedFrom
    rcases hstate with rfl | rfl
    · simp only
      split
      · next hblank =>
        exact (gives_quotedFrom single start (.inl rfl) hrest (hg.blank hblank)).mono
          fun _ hr => hr.cons c
      · split
        · exact (gives_quotedFrom single start (.inl rfl) hrest
            (hg.lineBreak c rest)).mono fun _ hr => hr.cons c
        · split
          · exact gives_error _
          · split
            · exact (gives_quotedFrom single start (.inr rfl) hrest hg).mono fun _ hr => hr.cons c
            · split
              · exact gives_ok (hdone (List.suffix_cons c rest))
              · split
                · next hbackslash => exact absurd hbackslash.2.symm hc
                · exact hprepend
    · simp only
      split
      · exact hprepend
      · exact gives_ok (hdone (List.suffix_refl _))

/-! ## Scans -/

/-- What a sign says, if it is a scalar, is such that `P`. -/
def Sign.Says (P : List Char → Prop) : Sign → Prop
  | .scalar text _ => P text
  | _ => True

theorem Sign.Says.mono {P Q : List Char → Prop} (h : ∀ text, P text → Q text) {sign : Sign}
    (hsign : sign.Says P) : sign.Says Q := by
  cases sign with
  | scalar text style => exact h text hsign
  | _ => trivial

/-- The letters of a text are letters of another one. -/
def HasLettersOf (source text : List Char) : Prop := (letters text).Sublist (letters source)

/-- A cursor goes forward only. -/
theorem suffix_advance (c : Cursor) : c.advance.rest <:+ c.rest := by
  unfold Cursor.advance
  split
  · exact List.suffix_refl _
  · next d rest h =>
    rw [h]
    exact List.suffix_cons d rest

theorem suffix_advanceBy : ∀ (n : Nat) (c : Cursor), (c.advanceBy n).rest <:+ c.rest
  | 0, _ => List.suffix_refl _
  | n + 1, c => (suffix_advanceBy n c.advance).trans (suffix_advance c)

/-- Blanks, line breaks and comments are passed over. -/
theorem Scan.suffix_blanksFrom (flow : Bool) : ∀ (allowed comment : Bool) (m : Mark)
    (s : List Char), (blanksFrom flow allowed comment m s).2.rest <:+ s
  | allowed, comment, m, [] => List.suffix_refl []
  | allowed, comment, m, c :: rest => by
    have hrest : ∀ allowed comment m,
        (blanksFrom flow allowed comment m rest).2.rest <:+ c :: rest := fun allowed comment m =>
      (suffix_blanksFrom flow allowed comment m rest).trans (List.suffix_cons c rest)
    unfold blanksFrom
    split
    · exact hrest _ _ _
    · split
      · exact hrest _ _ _
      · split
        · exact hrest _ _ _
        · exact List.suffix_refl _

namespace Scan

/-- A scan is at the end of a text, and has no letters but those of the text. -/
structure IsFrom (s : Scan) (source : List Char) : Prop where
  rest : s.cursor.rest <:+ source
  texts : ∀ t ∈ s.tokens, t.sign.Says (HasLettersOf source)

namespace IsFrom

variable {s : Scan} {source : List Char} (h : s.IsFrom source)
include h

/-- A token may be added if its text has no other letters. -/
theorem push {t : Token} (ht : t.sign.Says (HasLettersOf source)) : (s.push t).IsFrom source :=
  ⟨h.rest, List.forall_mem_cons.mpr ⟨ht, h.texts⟩⟩

/-- A token is added, and the cursor goes on to the end of its text. -/
theorem take (sign : Sign) (hsign : sign.Says (HasLettersOf source)) (stop : Mark) {after : Cursor}
    (hafter : after.rest <:+ source) : (s.take sign stop after).IsFrom source :=
  ⟨hafter, List.forall_mem_cons.mpr ⟨hsign, h.texts⟩⟩

theorem takeChars (sign : Sign) (hsign : sign.Says (HasLettersOf source)) (n : Nat) :
    (s.takeChars sign n).IsFrom source :=
  h.take sign hsign _ ((suffix_advanceBy n s.cursor).trans h.rest)

/-- A token is put in among earlier ones, as the key in front of a value is. -/
theorem insert (number : Nat) {t : Token} (ht : t.sign.Says (HasLettersOf source)) :
    (s.insert number t).IsFrom source := by
  refine ⟨h.rest, fun u hu => ?_⟩
  rcases List.mem_append.mp hu with hu | hu
  · exact h.texts u (List.mem_of_mem_take hu)
  · rcases List.mem_cons.mp hu with rfl | hu
    · exact ht
    · exact h.texts u (List.mem_of_mem_drop hu)

theorem allowKey (allowed : Bool) : (s.allowKey allowed).IsFrom source := ⟨h.rest, h.texts⟩

theorem toToken : s.toToken.IsFrom source :=
  ⟨(suffix_blanksFrom _ _ _ _ _).trans h.rest, h.texts⟩

/-- Keys that can no longer have a value are forgotten, or are missed. -/
theorem dropStale : Gives s.dropStale (IsFrom · source) := by
  unfold Scan.dropStale
  simp only
  split
  · exact gives_error _
  · exact gives_ok ⟨h.rest, h.texts⟩

/-- A key that is given up is forgotten, or is missed. -/
theorem removeKey : Gives s.removeKey (IsFrom · source) := by
  unfold Scan.removeKey
  split
  · split
    · exact gives_error _
    · exact gives_ok ⟨h.rest, h.texts⟩
  · exact gives_ok h

theorem saveKey : Gives s.saveKey (IsFrom · source) := by
  unfold Scan.saveKey
  split
  · exact h.removeKey.bind fun u hu => gives_ok ⟨hu.rest, hu.texts⟩
  · exact gives_ok h

/-- The ends of blocks have no text. -/
theorem close (ends : Nat → Bool) : (s.close ends).IsFrom source := by
  have hfold : ∀ (closed : List Nat) {s : Scan}, s.IsFrom source →
      (closed.foldl (fun s _ => s.push ⟨.blockEnd, s.cursor.mark, s.cursor.mark⟩) s).IsFrom
        source := by
    intro closed
    induction closed with
    | nil => exact fun h => h
    | cons n closed ih => exact fun h => ih (h.push trivial)
  unfold Scan.close
  split
  · exact h
  · exact hfold _ ⟨h.rest, h.texts⟩

/-- The start of a block goes to the place of its first key. -/
theorem roll (number : Nat) (sign : Sign) (hsign : sign.Says (HasLettersOf source)) (m : Mark) :
    (s.roll number sign m).IsFrom source := by
  have hopened : ({ s with columns := m.column :: s.columns } : Scan).IsFrom source :=
    ⟨h.rest, h.texts⟩
  unfold Scan.roll
  split
  · exact hopened.insert (t := ⟨sign, m, m⟩) number hsign
  · exact h

theorem enter (flaw : Flaw) (sign : Sign) (hsign : sign.Says (HasLettersOf source)) :
    Gives (s.enter flaw sign) (IsFrom · source) := by
  unfold Scan.enter
  split
  · exact gives_error _
  · exact gives_ok (h.roll _ sign hsign _)

/-! ### Leads -/

/-- At the end of the text all blocks are closed. -/
theorem finish : Gives s.finish (IsFrom · source) := by
  have hend : ∀ m, ({ s with cursor := ⟨[], m⟩ } : Scan).IsFrom source := fun _ =>
    ⟨List.nil_suffix, h.texts⟩
  exact ((hend _).close _).removeKey.bind fun u hu =>
    gives_ok ((hu.take .streamEnd trivial _ List.nil_suffix).allowKey _)

/-- The signs at the start and the end of a document. -/
theorem marker (sign : Sign) (hsign : sign.Says (HasLettersOf source)) :
    Gives (s.marker sign) (IsFrom · source) :=
  (h.close _).removeKey.bind fun _ hu => gives_ok ((hu.takeChars sign hsign 3).allowKey _)

/-- An opening bracket or brace. -/
theorem flowStart (sign : Sign) (hsign : sign.Says (HasLettersOf source)) :
    Gives (s.flowStart sign) (IsFrom · source) := by
  refine h.saveKey.bind fun u hu => ?_
  have hopened : ({ u with key := none, outer := u.key :: u.outer } : Scan).IsFrom source :=
    ⟨hu.rest, hu.texts⟩
  exact gives_ok ((hopened.takeChars sign hsign 1).allowKey _)

theorem flowEnd (sign : Sign) (hsign : sign.Says (HasLettersOf source)) :
    Gives (s.flowEnd sign) (IsFrom · source) := by
  refine h.removeKey.bind fun u hu =>
    gives_ok (IsFrom.allowKey (IsFrom.takeChars ?_ sign hsign 1) _)
  split
  · exact hu
  · exact ⟨hu.rest, hu.texts⟩

theorem flowEntry : Gives s.flowEntry (IsFrom · source) :=
  h.removeKey.bind fun _ hu => gives_ok ((hu.takeChars .flowEntry trivial 1).allowKey _)

theorem blockEntry : Gives s.blockEntry (IsFrom · source) :=
  (h.enter _ .blockSequenceStart trivial).bind fun _ hu => hu.removeKey.bind fun _ hv =>
    gives_ok ((hv.takeChars .blockEntry trivial 1).allowKey _)

theorem keySign : Gives s.keySign (IsFrom · source) :=
  (h.enter _ .blockMappingStart trivial).bind fun _ hu => hu.removeKey.bind fun _ hv =>
    gives_ok ((hv.takeChars .key trivial 1).allowKey _)

/-- The sign of a value. If the key in front of it was not marked, its token and that of the block
are put in. -/
theorem value : Gives s.value (IsFrom · source) := by
  unfold Scan.value
  split
  · next k _ =>
    have hrolled := (h.insert (t := ⟨.key, k.mark, k.mark⟩) k.number trivial).roll k.number
      .blockMappingStart trivial k.mark
    refine gives_ok (IsFrom.allowKey (IsFrom.takeChars ?_ .value trivial 1) _)
    exact ⟨hrolled.rest, hrolled.texts⟩
  · exact (h.enter _ .blockMappingStart trivial).bind fun _ hu =>
      gives_ok ((hu.takeChars .value trivial 1).allowKey _)

/-- A quoted scalar. Without backslashes in the source there are no escapes, which could stand for
other letters. -/
theorem quotedScalar (hback : '\x5c' ∉ source) (single : Bool) :
    Gives (s.quotedScalar single) (IsFrom · source) := by
  refine h.saveKey.bind fun u hu => ?_
  have hadvance := (suffix_advance u.cursor).trans hu.rest
  refine Gives.bind (gives_quotedFrom single _ (.inl rfl) (fun hc => hback (hadvance.subset hc))
    Gap.isSilent_none) fun r hr => ?_
  have htext : HasLettersOf source r.text :=
    hr.text.trans (letters_sublist_of_suffix hadvance)
  exact gives_ok ((hu.take (.scalar r.text _) htext _ (hr.after.trans hadvance)).allowKey _)

/-- A plain scalar has the letters of the text that it was read from. -/
theorem plainScalar : Gives s.plainScalar (IsFrom · source) := by
  refine h.saveKey.bind fun u hu => ?_
  refine Gives.bind (gives_plainFrom _ Gap.isSilent_none) fun r hr => ?_
  have htext : HasLettersOf source r.text :=
    hr.text.trans (letters_sublist_of_suffix hu.rest)
  exact gives_ok ((hu.take (.scalar r.text _) htext _ (hr.after.trans hu.rest)).allowKey _)

end IsFrom

/-! ## Steps -/

/-- The characters that call for something else than their own letters : an escape, a directive, an
anchor, an alias, a tag and the two kinds of block scalars. -/
def callers : List Char := ['\x5c', '%', '&', '*', '!', '|', '>']

/-- A lead that none of the callers announces; its sign, if it has one, is no scalar. -/
def Lead.IsUncalled : Lead → Prop
  | .directive | .anchor | .aliasOf | .tag | .block _ => False
  | .marker sign | .flowStart sign | .flowEnd sign => sign.Says fun _ => False
  | _ => True

theorem eq_or_of_ite_eq_some {α : Type} {p : Prop} [Decidable p] {a b : α} {o : Option α}
    (h : (if p then some a else o) = some b) : a = b ∨ o = some b := by
  split at h
  · exact .inl (Option.some.inj h)
  · exact .inr h

/-- Without the characters that call for them there are no directives, anchors, aliases, tags and
block scalars. -/
theorem isUncalled_of_lead? {flow : Bool} {cursor : Cursor} {lead : Lead}
    (hrest : ∀ c ∈ callers, c ∉ cursor.rest) (h : lead? flow cursor = some lead) :
    lead.IsUncalled := by
  unfold lead? at h
  split at h
  · rw [← Option.some.inj h]
    trivial
  · next c rest heq =>
    have hc : ∀ d ∈ callers, c ≠ d := fun d hd hcd => hrest d hd (by rw [heq, hcd]; simp)
    simp only [callers, List.forall_mem_cons] at hc
    simp only [hc, and_false, false_and, if_false] at h
    rcases eq_or_of_ite_eq_some h with rfl | h
    · change Sign.Says _ (if c = '-' then _ else _)
      split <;> trivial
    · iterate 11
        rcases eq_or_of_ite_eq_some h with rfl | h
        · trivial
      simp at h

/-- What a lead announces is read from the text, unless one of the callers announced it. -/
theorem IsFrom.follow {s : Scan} {source : List Char} (h : s.IsFrom source)
    (hback : '\x5c' ∉ source) {lead : Lead} (hlead : lead.IsUncalled) :
    Gives (s.follow lead) (IsFrom · source) := by
  have hsilent : ∀ {sign : Sign}, sign.Says (fun _ => False) → sign.Says (HasLettersOf source) :=
    Sign.Says.mono fun _ => False.elim
  cases lead with
  | directive | anchor | aliasOf | tag | block literal => exact hlead.elim
  | finish => exact h.finish
  | marker sign => exact h.marker sign (hsilent hlead)
  | flowStart sign => exact h.flowStart sign (hsilent hlead)
  | flowEnd sign => exact h.flowEnd sign (hsilent hlead)
  | flowEntry => exact h.flowEntry
  | blockEntry => exact h.blockEntry
  | key => exact h.keySign
  | value => exact h.value
  | quoted single => exact h.quotedScalar hback single
  | plain => exact h.plainScalar

/-- A step of a scan reads from the text. -/
theorem IsFrom.step {s : Scan} {source : List Char} (h : s.IsFrom source)
    (hsource : ∀ c ∈ callers, c ∉ source) : Gives s.step (IsFrom · source) := by
  refine h.toToken.dropStale.bind fun u hu => ?_
  have hopen := hu.close (u.cursor.mark.column < ·)
  simp only
  split
  · next lead hlead =>
    have huncalled := isUncalled_of_lead?
      (fun c hc hmem => hsource c hc (hopen.rest.subset hmem)) hlead
    exact (hopen.follow (hsource '\x5c' List.mem_cons_self) huncalled).bind fun v hv => hv.dropStale
  · exact gives_error _

/-- So do all steps. -/
theorem IsFrom.run {source : List Char} (hsource : ∀ c ∈ callers, c ∉ source) :
    ∀ (fuel : Nat) {s : Scan}, s.IsFrom source →
      ∀ t ∈ (Scan.run fuel s).1, t.sign.Says (HasLettersOf source)
  | fuel, s, h => by
    have hreleased : ∀ t ∈ s.released, t.sign.Says (HasLettersOf source) := fun t ht =>
      h.texts t (List.mem_of_mem_drop (List.mem_reverse.mp ht))
    cases fuel with
    | zero => exact hreleased
    | succ fuel =>
      unfold Scan.run
      split
      · exact hreleased
      · split
        · next t ht => exact IsFrom.run hsource fuel (h.step hsource t ht)
        · exact hreleased

end Scan

/-- The scalars of a text without callers have no letters but those of the text. -/
theorem letters_of_scan {source : List Char} (hsource : ∀ c ∈ Scan.callers, c ∉ source) :
    ∀ t ∈ (Token.scan source).1, t.sign.Says (HasLettersOf source) := by
  have hstart : (Scan.start source).IsFrom source := by
    refine ⟨?_, by simp [Scan.start, Sign.Says]⟩
    unfold Scan.start
    simp only
    split
    · exact suffix_advance _
    · exact List.suffix_refl source
  unfold Token.scan
  split
  · exact hstart.run hsource _
  · simp

end Yaml

end UserConfigs
