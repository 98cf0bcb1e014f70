import UserConfigs.Proofs.Letters
import UserConfigs.Proofs.Scanning

/-!
# Tokens that stay

A scan goes back to what it read only to put a sign before a word that turns out to be a key. Where
no word waits for a colon, the tokens read so far stay (`Scan.Keeps`) : a key that is found later
stands behind them. Every operation of a scan leaves them as they are, and so does a step
(`Scan.Keeps.step`). So they come first among the tokens of the whole text, whatever follows, and
an error in what follows does not hide them (`Scan.Keeps.run`).
-/

namespace UserConfigs

theorem gives_any {ε α : Type} (x : Except ε α) : Gives x fun _ => True := fun _ _ => trivial

namespace Yaml.Scan

/-- The tokens `first`, the last of them first, are the first ones that were read, and whatever may
still turn out to be a key stands behind them. -/
structure Keeps (s : Scan) (first : List Token) : Prop where
  count : s.count = s.tokens.length
  tokens : first <:+ s.tokens
  keys : ∀ k, some k ∈ s.key :: s.outer → first.length ≤ k.number

/-- No number is released that the keys still need. -/
theorem le_held {n : Nat} : ∀ (keys : List (Option KeyPlace)) {count : Nat}, n ≤ count →
    (∀ k, some k ∈ keys → n ≤ k.number) →
      n ≤ keys.foldl (fun count k => min count (k.elim count (·.number))) count
  | [], _, hcount, _ => hcount
  | none :: keys, _, hcount, hkeys =>
    le_held keys (by simpa using hcount) fun k hk => hkeys k (List.mem_cons_of_mem none hk)
  | some key :: keys, _, hcount, hkeys =>
    le_held keys (Nat.le_min.mpr ⟨hcount, hkeys key List.mem_cons_self⟩) fun k hk =>
      hkeys k (List.mem_cons_of_mem (some key) hk)

namespace Keeps

variable {s : Scan} {first : List Token} (h : s.Keeps first)
include h

/-! ## Tokens -/

theorem length_le : first.length ≤ s.count := h.count ▸ h.tokens.length_le

/-- A token is added at the end, and the first ones stay. -/
theorem push (t : Token) : (s.push t).Keeps first :=
  ⟨by simp [Scan.push, h.count], h.tokens.trans (List.suffix_cons t s.tokens), h.keys⟩

/-- A sign is read at the cursor. -/
theorem take (sign : Sign) (stop : Mark) (after : Cursor) : (s.take sign stop after).Keeps first :=
  have hpush := h.push ⟨sign, s.cursor.mark, stop⟩
  ⟨hpush.count, hpush.tokens, hpush.keys⟩

theorem takeChars (sign : Sign) (n : Nat) : (s.takeChars sign n).Keeps first := h.take sign _ _

theorem allowKey (allowed : Bool) : (s.allowKey allowed).Keeps first :=
  ⟨h.count, h.tokens, h.keys⟩

theorem withColumns (columns : List Nat) : ({ s with columns } : Scan).Keeps first :=
  ⟨h.count, h.tokens, h.keys⟩

theorem withCursor (cursor : Cursor) : ({ s with cursor } : Scan).Keeps first :=
  ⟨h.count, h.tokens, h.keys⟩

theorem withoutKey : ({ s with key := none } : Scan).Keeps first :=
  ⟨h.count, h.tokens, fun k hk => h.keys k (by simp at hk; simp [hk])⟩

/-- A token that is put behind them. -/
theorem insert {number : Nat} (hnumber : first.length ≤ number) (t : Token) :
    (s.insert number t).Keeps first := by
  obtain ⟨later, hlater⟩ := h.tokens
  have hcount := h.count
  have hlength : later.length + first.length = s.count := by
    rw [hcount, ← hlater, List.length_append]
  refine ⟨?_, ?_, h.keys⟩
  · simp only [Scan.insert, List.length_append, List.length_cons, List.length_take,
      List.length_drop]
    omega
  · have hdrop : first <:+ s.tokens.drop (s.count - number) := by
      rw [← hlater, List.drop_append_of_le_length (by omega)]
      exact List.suffix_append _ first
    exact (hdrop.trans (List.suffix_cons t _)).trans (List.suffix_append _ _)

/-- The start of a block goes behind what was settled, since the key does. -/
theorem roll {number : Nat} (hnumber : first.length ≤ number) (sign : Sign) (m : Mark) :
    (s.roll number sign m).Keeps first := by
  unfold Scan.roll
  split
  · exact (h.withColumns _).insert hnumber _
  · exact h

/-- Blocks are closed by tokens at the end. -/
theorem close (ends : Nat → Bool) : (s.close ends).Keeps first := by
  have hfold : ∀ (closed : List Nat) {s : Scan}, s.Keeps first →
      (closed.foldl (fun s _ => s.push ⟨.blockEnd, s.cursor.mark, s.cursor.mark⟩) s).Keeps
        first := by
    intro closed
    induction closed with
    | nil => exact fun h => h
    | cons n closed ih => exact fun h => ih (h.push _)
  unfold Scan.close
  split
  · exact h
  · exact hfold _ (h.withColumns _)

/-- Nothing hides them, not even an error. -/
theorem released : first.reverse <+: s.released := by
  obtain ⟨later, hlater⟩ := h.tokens
  have hcount := h.count
  have hlength : later.length + first.length = s.count := by
    rw [hcount, ← hlater, List.length_append]
  have hle := le_held (s.key :: s.outer) h.length_le h.keys
  unfold Scan.released
  simp only
  rw [← hlater, List.drop_append_of_le_length (by omega), List.reverse_append]
  exact List.prefix_append _ _

/-! ## Keys -/

/-- Blanks and comments add no tokens. -/
theorem toToken : s.toToken.Keeps first := ⟨h.count, h.tokens, h.keys⟩

theorem dropStale : Gives s.dropStale (Keeps · first) := by
  unfold Scan.dropStale
  simp only
  split
  · exact gives_error _
  · refine gives_ok ⟨h.count, h.tokens, fun k hk => h.keys k ?_⟩
    rcases List.mem_cons.mp hk with hk | hk
    · exact List.mem_cons.mpr (.inl (Option.eq_some_of_filter_eq_some hk.symm).symm)
    · obtain ⟨key, hkey, hfilter⟩ := List.mem_map.mp hk
      exact List.mem_cons_of_mem _ (Option.eq_some_of_filter_eq_some hfilter ▸ hkey)

/-- To forget a key takes no token away. -/
theorem removeKey : Gives s.removeKey (Keeps · first) := by
  unfold Scan.removeKey
  split
  · split
    · exact gives_error _
    · exact gives_ok h.withoutKey
  · exact gives_ok h

/-- A new key stands behind all tokens. -/
theorem saveKey : Gives s.saveKey (Keeps · first) := by
  unfold Scan.saveKey
  split
  · refine h.removeKey.bind fun u hu => gives_ok ⟨hu.count, hu.tokens, fun k hk => ?_⟩
    rcases List.mem_cons.mp hk with hk | hk
    · obtain rfl := Option.some.inj hk
      exact hu.length_le
    · exact hu.keys k (List.mem_cons_of_mem _ hk)
  · exact gives_ok h

/-- The start of a block at the current place. -/
theorem enter (flaw : Flaw) (sign : Sign) : Gives (s.enter flaw sign) (Keeps · first) := by
  unfold Scan.enter
  split
  · exact gives_error _
  · exact gives_ok (h.roll h.length_le _ _)

/-! ## Leads -/

/-- The end of the text adds tokens only. -/
theorem finish : Gives s.finish (Keeps · first) :=
  ((h.withCursor _).close _).removeKey.bind fun _ hu => gives_ok ((hu.take _ _ _).allowKey _)

theorem directive : Gives s.directive (Keeps · first) :=
  (h.close _).removeKey.bind fun _ hu => (gives_any _).bind fun _ _ =>
    gives_ok ((hu.take _ _ _).allowKey _)

/-- The signs at the start and the end of a document close what is open. -/
theorem marker (sign : Sign) : Gives (s.marker sign) (Keeps · first) :=
  (h.close _).removeKey.bind fun _ hu => gives_ok ((hu.takeChars sign 3).allowKey _)

/-- An opening bracket or brace lays the key aside. -/
theorem flowStart (sign : Sign) : Gives (s.flowStart sign) (Keeps · first) := by
  refine h.saveKey.bind fun u hu => ?_
  have hopened : ({ u with key := none, outer := u.key :: u.outer } : Scan).Keeps first :=
    ⟨hu.count, hu.tokens, fun k hk => hu.keys k (by simpa using hk)⟩
  exact gives_ok ((hopened.takeChars sign 1).allowKey _)

/-- A closing bracket or brace takes the key up again. -/
theorem flowEnd (sign : Sign) : Gives (s.flowEnd sign) (Keeps · first) := by
  refine h.removeKey.bind fun u hu => gives_ok (Keeps.allowKey (Keeps.takeChars ?_ sign 1) _)
  split
  · exact hu
  · next k outer houter =>
    refine ⟨hu.count, hu.tokens, fun k' hk' => hu.keys k' (List.mem_cons_of_mem _ ?_)⟩
    rw [houter]
    exact hk'

theorem flowEntry : Gives s.flowEntry (Keeps · first) :=
  h.removeKey.bind fun _ hu => gives_ok ((hu.takeChars _ 1).allowKey _)

/-- The dash of an entry may start a block. -/
theorem blockEntry : Gives s.blockEntry (Keeps · first) :=
  (h.enter _ _).bind fun _ hu => hu.removeKey.bind fun _ hv =>
    gives_ok ((hv.takeChars _ 1).allowKey _)

theorem keySign : Gives s.keySign (Keeps · first) :=
  (h.enter _ _).bind fun _ hu => hu.removeKey.bind fun _ hv =>
    gives_ok ((hv.takeChars _ 1).allowKey _)

/-- A colon puts signs before the key, which is behind them. -/
theorem value : Gives s.value (Keeps · first) := by
  unfold Scan.value
  split
  · next k hkey =>
    have hnumber : first.length ≤ k.number := h.keys k (by simp [hkey])
    have hrolled := (h.insert hnumber ⟨.key, k.mark, k.mark⟩).roll hnumber .blockMappingStart k.mark
    exact gives_ok ((hrolled.withoutKey.takeChars _ 1).allowKey _)
  · exact (h.enter _ _).bind fun _ hu => gives_ok ((hu.takeChars _ 1).allowKey _)

/-- An anchor or an alias is saved as a possible key first. -/
theorem named (activity : Activity) (sign : List Char → Sign) :
    Gives (s.named activity sign) (Keeps · first) :=
  h.saveKey.bind fun _ hu => (gives_any _).bind fun _ _ => gives_ok ((hu.take _ _ _).allowKey _)

theorem tag : Gives s.tag (Keeps · first) :=
  h.saveKey.bind fun _ hu => (gives_any _).bind fun _ _ => gives_ok ((hu.take _ _ _).allowKey _)

/-- A block scalar is no key. -/
theorem blockScalar (literal : Bool) : Gives (s.blockScalar literal) (Keeps · first) :=
  h.removeKey.bind fun _ hu => (gives_any _).bind fun _ _ => gives_ok ((hu.take _ _ _).allowKey _)

/-- A quoted scalar may be a key. -/
theorem quotedScalar (single : Bool) : Gives (s.quotedScalar single) (Keeps · first) :=
  h.saveKey.bind fun _ hu => (gives_any _).bind fun _ _ => gives_ok ((hu.take _ _ _).allowKey _)

/-- A plain scalar may be a key. -/
theorem plainScalar : Gives s.plainScalar (Keeps · first) :=
  h.saveKey.bind fun _ hu => (gives_any _).bind fun _ _ => gives_ok ((hu.take _ _ _).allowKey _)

/-- What a lead calls for, one case a lead. -/
theorem follow (lead : Lead) : Gives (s.follow lead) (Keeps · first) := by
  cases lead with
  | finish => exact h.finish
  | directive => exact h.directive
  | marker sign => exact h.marker sign
  | flowStart sign => exact h.flowStart sign
  | flowEnd sign => exact h.flowEnd sign
  | flowEntry => exact h.flowEntry
  | blockEntry => exact h.blockEntry
  | key => exact h.keySign
  | value => exact h.value
  | anchor => exact h.named _ _
  | aliasOf => exact h.named _ _
  | tag => exact h.tag
  | block literal => exact h.blockScalar literal
  | quoted single => exact h.quotedScalar single
  | plain => exact h.plainScalar

/-! ## Steps -/

/-- A step keeps them, whatever it reads. -/
theorem step : Gives s.step (Keeps · first) := by
  refine h.toToken.dropStale.bind fun u hu => ?_
  simp only
  split
  · exact ((hu.close _).follow _).bind fun v hv => hv.dropStale
  · exact gives_error _

omit h in
/-- So do all steps, whether or not one of them fails. -/
theorem run : ∀ (fuel : Nat) {s : Scan}, s.Keeps first → first.reverse <+: (Scan.run fuel s).1
  | 0, s, h => h.released
  | fuel + 1, s, h => by
    unfold Scan.run
    split
    · exact h.released
    · split
      · next t ht => exact run fuel (h.step t ht)
      · exact h.released

end Keeps

/-- Where no word waits for a colon, all tokens stay. -/
theorem Calm.keeps {s : Scan} {columns : List Nat} {signs : List Sign} (h : s.Calm columns signs) :
    s.Keeps s.tokens :=
  ⟨h.count, List.suffix_refl _, fun k hk => by simp [h.key, h.outer] at hk⟩

end Yaml.Scan

end UserConfigs
