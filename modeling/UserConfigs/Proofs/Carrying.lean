import UserConfigs.Proofs.Heads
import UserConfigs.Proofs.Levels

/-!
# Pieces of a template where another text follows

The pieces of a template are read on where another text follows, as far as that text lets them
(`Carries`). Other than a `Twin` this says nothing of a text that is not read, for a text that no
piece starts may start one with something behind it. That the choice between the pieces stays the
same is known from their heads (`ReadsAt`).

A tag ends in a closing brace, so the expressions in it do not see what is behind the tag (`Seals`).
A tag that starts with readers of expressions is put together by `Twin.bind_seals`, and what comes
after a tag by `Seals.bind`.
-/

namespace UserConfigs.Template

open Reader

/-! ## Readers that carry on -/

/-- In a part of the source `S` of fewer than `k` characters, what `p` reads has the property `G`,
and `q` reads the same where `R` follows, if the rest of both is such that `C`. A character or more
is read if `taking`. -/
structure Carries {α : Type} (S R : List Char) (k : Nat) (C : List Char → Prop) (taking : Bool)
    (p q : Reader α) (G : α → Prop) : Prop where
  leaves : ∀ {s a r}, s <:+ S → s.length < k → p s = some (a, r) →
    G a ∧ r <:+ s ∧ (taking = true → r.length < s.length)
  carries : ∀ {s a r}, s <:+ S → s.length < k → p s = some (a, r) → C (r ++ R) →
    q (s ++ R) = some (a, r ++ R)

/-- A reader that carries on, and reads only texts in which a closing brace comes before any quote
that stays open. -/
structure Seals {α : Type} (S R : List Char) (k : Nat) (C : List Char → Prop) (p q : Reader α)
    (G : α → Prop) : Prop extends Carries S R k C true p q G where
  guarded : ∀ {s x}, s <:+ S → s.length < k → p s = some x → Guarded s

/-- Any text. -/
def Anywhere (_ : List Char) : Prop := True

section

variable {α β : Type} {S R : List Char} {k : Nat} {C C' : List Char → Prop} {taking : Bool}
  {p q : Reader α} {G : α → Prop} {G' : β → Prop}

namespace Carries

theorem loose (h : Carries S R k C taking p q G) : Carries S R k C false p q G :=
  ⟨fun hs hk hp => (h.leaves hs hk hp).imp_right fun hr => ⟨hr.1, nofun⟩, h.carries⟩

theorem mono (h : Carries S R k C taking p q G) {k' : Nat} (hk : k' ≤ k) :
    Carries S R k' C taking p q G :=
  ⟨fun hs hk' => h.leaves hs (Nat.lt_of_lt_of_le hk' hk),
    fun hs hk' => h.carries hs (Nat.lt_of_lt_of_le hk' hk)⟩

/-- Less may follow, and less may be said of the values. -/
theorem imp (h : Carries S R k C taking p q G) {G' : α → Prop} (hC : ∀ t, C' t → C t)
    (hG : ∀ a, G a → G' a) : Carries S R k C' taking p q G' :=
  ⟨fun hs hk hp => (h.leaves hs hk hp).imp_left (hG _),
    fun hs hk hp hr => h.carries hs hk hp (hC _ hr)⟩

theorem failure : Carries S R k C taking (failure : Reader α) q G :=
  ⟨fun _ _ hp => (nomatch hp), fun _ _ hp => (nomatch hp)⟩

/-- One reader after another. If the first one takes a character, the second one gets fewer. -/
theorem bind_deep {k' : Nat} (hk : taking = false → k ≤ k') (hk' : k ≤ k' + 1)
    {f g : α → Reader β} (h : Carries S R k C taking p q G) (hC : ∀ a t x, g a t = some x → C t)
    (hf : ∀ a, G a → Carries S R k' C' false (f a) (g a) G') :
    Carries S R k C' taking (p >>= f) (q >>= g) G' := by
  have hshort : ∀ {s a t}, s <:+ S → s.length < k → p s = some (a, t) →
      t <:+ S ∧ t.length < k' := fun {s a t} hs hlength hp => by
    obtain ⟨-, hsuffix, htaking⟩ := h.leaves hs hlength hp
    refine ⟨hsuffix.trans hs, ?_⟩
    have hle := hsuffix.length_le
    cases taking with
    | true =>
      have := htaking rfl
      omega
    | false =>
      have := hk rfl
      omega
  refine ⟨fun {s b r} hs hlength hp => ?_, fun {s b r} hs hlength hp hr => ?_⟩
  · obtain ⟨a, t, ha, hb⟩ := bind_eq_some hp
    obtain ⟨hG, hsuffix, htaking⟩ := h.leaves hs hlength ha
    obtain ⟨ht, hlength'⟩ := hshort hs hlength ha
    obtain ⟨hG', hsuffix', -⟩ := (hf a hG).leaves ht hlength' hb
    exact ⟨hG', hsuffix'.trans hsuffix, fun htrue =>
      Nat.lt_of_le_of_lt hsuffix'.length_le (htaking htrue)⟩
  · obtain ⟨a, t, ha, hb⟩ := bind_eq_some hp
    obtain ⟨hG, -, -⟩ := h.leaves hs hlength ha
    obtain ⟨ht, hlength'⟩ := hshort hs hlength ha
    have hg := (hf a hG).carries ht hlength' hb hr
    rw [bind_apply, h.carries hs hlength ha (hC a _ _ hg)]
    exact hg

/-- One reader after another. -/
theorem bind {f g : α → Reader β} (h : Carries S R k C taking p q G)
    (hC : ∀ a t x, g a t = some x → C t)
    (hf : ∀ a, G a → Carries S R k C' false (f a) (g a) G') :
    Carries S R k C' taking (p >>= f) (q >>= g) G' :=
  h.bind_deep (fun _ => Nat.le_refl k) (Nat.le_succ k) hC hf

theorem map (h : Carries S R k C taking p q G) {f : α → β} (hf : ∀ a, G a → G' (f a)) :
    Carries S R k C taking (f <$> p) (f <$> q) G' := by
  refine ⟨fun {s b r} hs hlength hp => ?_, fun {s b r} hs hlength hp hr => ?_⟩
  · rw [map_apply, Option.map_eq_some_iff] at hp
    obtain ⟨⟨a, t⟩, ha, hpair⟩ := hp
    obtain ⟨rfl, rfl⟩ : f a = b ∧ t = r := by simpa using hpair
    exact (h.leaves hs hlength ha).imp_left (hf a)
  · rw [map_apply, Option.map_eq_some_iff] at hp
    obtain ⟨⟨a, t⟩, ha, hpair⟩ := hp
    obtain ⟨rfl, rfl⟩ : f a = b ∧ t = r := by simpa using hpair
    rw [map_apply, h.carries hs hlength ha hr]
    rfl

/-- A reader whose value is put into another one. -/
theorem bind_pure (h : Carries S R k C taking p q G) {f : α → β} (hf : ∀ a, G a → G' (f a)) :
    Carries S R k C taking (p >>= fun a => Pure.pure (f a)) (q >>= fun a => Pure.pure (f a))
      G' := by
  rw [bind_pure_comp, bind_pure_comp]
  exact h.map hf

/-- A choice between readers that do not read the same texts. -/
theorem orElse {p' q' : Reader α} {H H' : List Head} (h : Carries S R k C taking p q G)
    (hH : ReadsAt H q) (h' : Carries S R k C taking p' q' G) (hH' : ReadsAt H' q')
    (hne : ∀ x ∈ H', x ∉ H) : Carries S R k C taking (p <|> p') (q <|> q') G := by
  refine ⟨fun {s a r} hs hlength hp => ?_, fun {s a r} hs hlength hp hr => ?_⟩
  · rw [orElse_apply] at hp
    rcases Option.or_eq_some_iff.mp hp with hp | ⟨-, hp⟩
    · exact h.leaves hs hlength hp
    · exact h'.leaves hs hlength hp
  · rw [orElse_apply] at hp
    rcases Option.or_eq_some_iff.mp hp with hp | ⟨-, hp⟩
    · rw [orElse_apply, h.carries hs hlength hp hr, Option.some_or]
    · have hq' := h'.carries hs hlength hp hr
      rw [orElse_apply, hH.eq_none (hne _ (hH' hq')), Option.none_or, hq']

/-- A reader that may be left out, and what follows it. Neither reads what the other one reads. -/
theorem maybe_bind {H H' : List Head} (h : Carries S R k C taking p q G) (hH : ReadsAt H q)
    {f g : Option α → Reader β} (hC : ∀ a t x, g (some a) t = some x → C t)
    (hH' : ReadsAt H' (g none)) (hne : ∀ x ∈ H', x ∉ H)
    (hf : ∀ o, (∀ a ∈ o, G a) → Carries S R k C' false (f o) (g o) G') :
    Carries S R k C' false (maybe p >>= f) (maybe q >>= g) G' := by
  refine ⟨fun {s b r} hs hlength hp => ?_, fun {s b r} hs hlength hp hr => ?_⟩
  · rw [bind_apply, maybe_apply] at hp
    cases ha : p s with
    | none =>
      rw [ha] at hp
      exact (hf none nofun).leaves hs hlength hp
    | some x =>
      rw [ha] at hp
      obtain ⟨hG, hsuffix, -⟩ := h.leaves hs hlength ha
      obtain ⟨hG', hsuffix', -⟩ := (hf (some x.1) fun a ha => Option.mem_some.mp ha ▸ hG).leaves
        (hsuffix.trans hs) (Nat.lt_of_le_of_lt hsuffix.length_le hlength) hp
      exact ⟨hG', hsuffix'.trans hsuffix, nofun⟩
  · rw [bind_apply, maybe_apply] at hp ⊢
    cases ha : p s with
    | none =>
      rw [ha] at hp
      have hg := (hf none nofun).carries hs hlength hp hr
      rw [hH.eq_none (hne _ (hH' hg))]
      exact hg
    | some x =>
      rw [ha] at hp
      obtain ⟨hG, hsuffix, -⟩ := h.leaves hs hlength ha
      have hg := (hf (some x.1) fun a ha => Option.mem_some.mp ha ▸ hG).carries
        (hsuffix.trans hs) (Nat.lt_of_le_of_lt hsuffix.length_le hlength) hp hr
      rw [h.carries hs hlength ha (hC _ _ _ hg)]
      exact hg

end Carries

/-! ## Repetition -/

namespace Reader

/-- A repetition always reads something, an empty row at the least. -/
theorem exists_repeated (p : Reader α) (fuel : Nat) (s : List Char) :
    ∃ x, repeated p fuel s = some x := by
  cases fuel with
  | zero => exact ⟨_, rfl⟩
  | succ fuel =>
    rw [repeated, orElse_apply]
    cases (do let a ← p; let as ← repeated p fuel; pure (a :: as) : Reader (List α)) s with
    | none => exact ⟨_, rfl⟩
    | some x => exact ⟨x, rfl⟩

/-- A reader that takes a character each time is repeated until it reads nothing. -/
theorem reads_of_repeated {p : Reader α} {s : List Char}
    (hp : ∀ {t a r}, t <:+ s → p t = some (a, r) → r <:+ t ∧ r.length < t.length) :
    ∀ {fuel : Nat} {t r : List Char} {as : List α}, t <:+ s → t.length ≤ fuel →
      repeated p fuel t = some (as, r) → Reads p t as r := by
  -- on the fuel, which is enough for the text as it starts with the length of it
  intro fuel
  induction fuel with
  | zero =>
    intro t r as ht hfuel h
    obtain ⟨rfl, rfl⟩ : [] = as ∧ t = r := by simpa [repeated] using h
    refine .nil ?_
    cases hnone : p t with
    | none => rfl
    | some x =>
      have := (hp ht hnone).2
      omega
  | succ fuel ih =>
    intro t r as ht hfuel h
    rw [repeated, orElse_apply] at h
    cases hone : p t with
    | none =>
      rw [bind_eq_none hone, Option.none_or, pure_apply] at h
      obtain ⟨rfl, rfl⟩ : [] = as ∧ t = r := by simpa using h
      exact .nil hone
    | some x =>
      obtain ⟨a, u⟩ := x
      obtain ⟨hu, hlt⟩ := hp ht hone
      obtain ⟨⟨as', v⟩, hmore⟩ := exists_repeated p fuel u
      rw [bind_apply, hone, Option.bind_some, bind_apply, hmore, Option.bind_some, pure_apply,
        Option.some_or] at h
      obtain ⟨rfl, rfl⟩ : a :: as' = as ∧ v = r := by simpa using h
      exact .cons hone hlt (ih (hu.trans ht) (by omega) hmore)

end Reader

namespace Carries

/-- A repetition reads piece by piece, and takes a character or more for each. -/
theorem reads (h : Carries S R k C true p q G) {s r : List Char} {as : List α} (hs : s <:+ S)
    (hlength : s.length < k) (hp : many p s = some (as, r)) : Reads p s as r := by
  refine reads_of_repeated (s := s) (fun {t a u} ht ha => ?_) (List.suffix_refl s)
    (Nat.le_refl _) hp
  have := h.leaves (ht.trans hs) (Nat.lt_of_le_of_lt ht.length_le hlength) ha
  exact ⟨this.2.1, this.2.2 rfl⟩

/-- A row of pieces is read again, if nothing is read behind it. -/
theorem carries_reads (h : Carries S R k C true p q G) (hnext : ∀ t x, q t = some x → C t)
    {s r : List Char} {as : List α} (hreads : Reads p s as r) : s <:+ S → s.length < k →
      (∀ a ∈ as, G a) ∧ r <:+ s ∧
        (C (r ++ R) → q (r ++ R) = none → Reads q (s ++ R) as (r ++ R)) := by
  induction hreads with
  | nil _ => exact fun _ _ => ⟨nofun, List.suffix_refl _, fun _ hnone => .nil hnone⟩
  | @cons s s' r a as ha hlt _ ih =>
    intro hs hlength
    obtain ⟨hG, hsuffix, -⟩ := h.leaves hs hlength ha
    obtain ⟨hGs, hsuffix', hrest⟩ := ih (hsuffix.trans hs) (Nat.lt_trans hlt hlength)
    refine ⟨List.forall_mem_cons.mpr ⟨hG, hGs⟩, hsuffix'.trans hsuffix, fun hC hnone => ?_⟩
    have hreads' := hrest hC hnone
    -- the next piece starts behind this one, or else the end of the row
    have hC' : C (s' ++ R) := by
      generalize hu : s' ++ R = u at hreads'
      cases hreads' with
      | nil _ => exact hC
      | cons hb _ _ => exact hnext _ _ hb
    refine .cons (h.carries hs hlength ha hC') ?_ hreads'
    rw [List.length_append, List.length_append]
    omega

/-- A repetition goes on until no piece can be read, so where it stops no piece may start either. -/
theorem many (h : Carries S R k C true p q G) (hnext : ∀ t x, q t = some x → C t) :
    Carries S R k (fun t => C t ∧ q t = none) false (many p) (many q) fun as => ∀ a ∈ as, G a := by
  refine ⟨fun {s as r} hs hlength hp => ?_, fun {s as r} hs hlength hp hr => ?_⟩
  · obtain ⟨hG, hsuffix, -⟩ := h.carries_reads hnext (h.reads hs hlength hp) hs hlength
    exact ⟨hG, hsuffix, nofun⟩
  · obtain ⟨-, -, hreads⟩ := h.carries_reads hnext (h.reads hs hlength hp) hs hlength
    exact many_of_reads (hreads hr.1 hr.2)

end Carries

/-! ## Ends of tags -/

namespace Seals

theorem mono (h : Seals S R k C p q G) {k' : Nat} (hk : k' ≤ k) : Seals S R k' C p q G :=
  ⟨h.toCarries.mono hk, fun hs hk' => h.guarded hs (Nat.lt_of_lt_of_le hk' hk)⟩

/-- The end of a tag, and what follows it. -/
theorem bind {f g : α → Reader β} (h : Seals S R (k + 1) C p q G)
    (hC : ∀ a t x, g a t = some x → C t)
    (hf : ∀ a, G a → Carries S R k C' false (f a) (g a) G') :
    Seals S R (k + 1) C' (p >>= f) (q >>= g) G' := by
  refine ⟨h.toCarries.bind_deep (fun hfalse => absurd hfalse (by decide))
    (Nat.le_refl (k + 1)) hC hf, fun {s x} hs hlength hp => ?_⟩
  obtain ⟨b, r⟩ := x
  obtain ⟨a, t, ha, -⟩ := bind_eq_some hp
  exact h.guarded hs hlength ha

end Seals

/-- What stands before the end of a tag is read alike. -/
theorem Twin.bind_seals {f g : α → Reader β} (h : Twin S R (S.length + 1) taking p q G)
    (hf : ∀ a, G a → Seals S R k C (f a) (g a) G') : Seals S R k C (p >>= f) (q >>= g) G' := by
  have hsplit : ∀ {s a t}, s <:+ S → s.length < k → p s = some (a, t) →
      G a ∧ t <:+ s ∧ t.length < k ∧ ∃ w, Closed w ∧ s = w ++ t := fun {s a t} hs hlength ha => by
    obtain ⟨hG, w, hw, -, hsw⟩ := h.takes hs ha
    have hsuffix : t <:+ s := hsw ▸ List.suffix_append w t
    exact ⟨hG, hsuffix, Nat.lt_of_le_of_lt hsuffix.length_le hlength, w, hw, hsw⟩
  refine ⟨⟨fun {s b r} hs hlength hp => ?_, fun {s b r} hs hlength hp hr => ?_⟩,
    fun {s x} hs hlength hp => ?_⟩
  · obtain ⟨a, t, ha, hb⟩ := bind_eq_some hp
    obtain ⟨hG, hsuffix, hshort, -⟩ := hsplit hs hlength ha
    obtain ⟨hG', hsuffix', hlt⟩ := (hf a hG).leaves (hsuffix.trans hs) hshort hb
    exact ⟨hG', hsuffix'.trans hsuffix, fun _ => Nat.lt_of_lt_of_le (hlt rfl) hsuffix.length_le⟩
  · obtain ⟨a, t, ha, hb⟩ := bind_eq_some hp
    obtain ⟨hG, hsuffix, hshort, w, hw, hsw⟩ := hsplit hs hlength ha
    have hguarded : Guarded s := hsw ▸ ((hf a hG).guarded (hsuffix.trans hs) hshort hb).append hw
    rw [bind_apply, h.agrees hs (Nat.lt_succ_of_le hs.length_le) (.inr hguarded), ha]
    exact (hf a hG).carries (hsuffix.trans hs) hshort hb hr
  · obtain ⟨b, r⟩ := x
    obtain ⟨a, t, ha, hb⟩ := bind_eq_some hp
    obtain ⟨hG, hsuffix, hshort, w, hw, hsw⟩ := hsplit hs hlength ha
    exact hsw ▸ ((hf a hG).guarded (hsuffix.trans hs) hshort hb).append hw

/-- The end of a tag seals what stands before it, since it starts with no dash and has a brace in
it. -/
theorem seals_closeTag {w : String} {c : Char} {v : List Char} (hw : w.toList = c :: v)
    (hc : c ≠ '-') (hguarded : ∀ r, Guarded (w.toList ++ r)) :
    Seals S R k Anywhere (closeTag w) (closeTag w) fun _ => True := by
  refine ⟨⟨fun {s dash r} _ _ hp => ?_, fun {s dash r} _ _ hp _ => ?_⟩, fun {s x} _ _ hp => ?_⟩
  · rw [eq_of_closeTag hp]
    refine ⟨trivial, ?_, fun _ => ?_⟩
    · rw [← List.append_assoc]
      exact List.suffix_append _ r
    · rw [hw, List.length_append, List.length_append, List.length_cons]
      omega
  · rw [eq_of_closeTag hp, List.append_assoc, List.append_assoc]
    exact closeTag_append hw hc dash (r ++ R)
  · obtain ⟨dash, r⟩ := x
    rw [eq_of_closeTag hp]
    refine (hguarded r).append ?_
    cases dash with
    | true => exact .char rfl (by decide) .nil
    | false => exact .nil

theorem seals_closeValue : Seals S R k Anywhere closeValue closeValue fun _ => True :=
  seals_closeTag (c := '\x7d') (v := ['\x7d']) rfl (by decide) fun r => guarded_brace ('\x7d' :: r)

theorem seals_closeStatement :
    Seals S R k Anywhere closeStatement closeStatement fun _ => True :=
  seals_closeTag (c := '%') (v := ['\x7d']) rfl (by decide) fun r =>
    ⟨['%'], r, .char rfl (by decide) .nil, rfl⟩

/-- The end of a statement with the blanks before it. -/
theorem seals_closeWord : Seals S R k Anywhere closeWord closeWord fun _ => True :=
  Twin.gap.bind_seals fun _ _ => seals_closeStatement

end

namespace Twin

variable {S R : List Char} {k : Nat}

theorem openValue : Twin S R k true openValue openValue fun _ => True :=
  (spelled (by decide) trivial).orElse (spelled (by decide) trivial)

theorem openStatement : Twin S R k true openStatement openStatement fun _ => True :=
  (spelled (by decide) trivial).orElse (spelled (by decide) trivial)

theorem space : Twin S R k true space space fun _ => True :=
  (Twin.run1 (by decide)).andThen fun _ _ => .pure trivial

/-- The start of a statement, up to the blanks behind its first word. -/
theorem openWord {w : String} (hw : w.toList ≠ [] ∧ w.toList.all isPassed = true) :
    Twin S R k true (openWord w) (openWord w) fun _ => True :=
  openStatement.andThen fun _ _ => gap.bind fun _ _ => (Twin.exact hw).loose.bind fun _ _ =>
    space.loose.bind fun _ _ => .pure trivial

end Twin

section

variable {α β : Type} {S R : List Char} {k : Nat} {C C' : List Char → Prop} {taking : Bool}
  {p q : Reader α} {G : α → Prop} {G' : β → Prop}

/-- The end of a tag, and then a value that is settled. -/
theorem Seals.pure (h : Seals S R k C p q G) {f : α → β} (hf : ∀ a, G a → G' (f a)) :
    Seals S R k C (p >>= fun a => Pure.pure (f a)) (q >>= fun a => Pure.pure (f a)) G' := by
  refine ⟨h.toCarries.bind_pure hf, fun {s x} hs hlength hp => ?_⟩
  obtain ⟨b, r⟩ := x
  obtain ⟨a, t, ha, -⟩ := bind_eq_some hp
  exact h.guarded hs hlength ha

/-- A statement of one word. -/
theorem seals_wordTag {w : String} (hw : w.toList ≠ [] ∧ w.toList.all isPassed = true) :
    Seals S R k Anywhere (wordTag w) (wordTag w) fun _ => True :=
  Twin.openStatement.bind_seals fun _ _ => Twin.gap.bind_seals fun _ _ =>
    (Twin.exact hw).bind_seals fun _ _ => Twin.gap.bind_seals fun _ _ =>
      seals_closeStatement.pure fun _ _ => trivial

end

end UserConfigs.Template
