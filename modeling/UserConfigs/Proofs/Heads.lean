import UserConfigs.Proofs.PathTexts

/-!
# The start of a text

Which rule reads the next node of a template is settled by the start of the text (`head`) : a value,
a comment, a statement with its first word, or literal text. Each rule reads only texts with a head
of its own (`ReadsAt`), so a text is left to one rule by its head, and where no rule has the head
no node is read.
-/

namespace UserConfigs.Template

open Reader

/-! ## Ends of tags -/

/-- What the start of a tag is read from. -/
theorem eq_of_openTag {w : String} {s r : List Char} {dash : Bool}
    (h : openTag w s = some (dash, r)) :
    s = w.toList ++ ((if dash then ['-'] else []) ++ r) := by
  rw [openTag, orElse_apply] at h
  rcases Option.or_eq_some_iff.mp h with h | ⟨-, h⟩
  · obtain ⟨rfl, hs⟩ := eq_append_of_spelled h
    simpa using hs
  · obtain ⟨rfl, hs⟩ := eq_append_of_spelled h
    simpa using hs

/-- What the end of a tag is read from. -/
theorem eq_of_closeTag {w : String} {s r : List Char} {dash : Bool}
    (h : closeTag w s = some (dash, r)) :
    s = (if dash then ['-'] else []) ++ (w.toList ++ r) := by
  rw [closeTag, orElse_apply] at h
  rcases Option.or_eq_some_iff.mp h with h | ⟨-, h⟩
  · obtain ⟨rfl, hs⟩ := eq_append_of_spelled h
    simpa using hs
  · obtain ⟨rfl, hs⟩ := eq_append_of_spelled h
    simpa using hs

/-- The start of a tag is read with its dash. Without a dash none may follow, since it would be
taken. -/
theorem openTag_append (w : String) (dash : Bool) {r : List Char}
    (hr : dash = false → ∀ c ∈ r.head?, c ≠ '-') :
    openTag w (w.toList ++ ((if dash then ['-'] else []) ++ r)) = some (dash, r) := by
  rw [openTag, orElse_apply, spelled_apply, spelled_apply, String.toList_append]
  cases dash with
  | true =>
    have happend : w.toList ++ (['-'] ++ r) = w.toList ++ "-".toList ++ r := by simp
    rw [if_pos rfl, happend, dropFront?_append]
    rfl
  | false =>
    have hnone : dropFront? (w.toList ++ "-".toList) (w.toList ++ r) = none := by
      cases hd : dropFront? (w.toList ++ "-".toList) (w.toList ++ r) with
      | none => rfl
      | some t =>
        have happend := eq_append_of_dropFront? hd
        rw [List.append_assoc, List.append_cancel_left_eq] at happend
        exact absurd rfl (hr rfl '-' (by simp [happend]))
    rw [if_neg (by decide), List.nil_append, hnone, dropFront?_append]
    rfl

/-- A dash after the sign is taken with it. -/
theorem ne_dash_of_openTag {w : String} {s r : List Char} {dash : Bool}
    (h : openTag w s = some (dash, r)) (hdash : dash = false) : ∀ c ∈ r.head?, c ≠ '-' := by
  rintro c hc rfl
  obtain ⟨t, rfl⟩ : ∃ t, r = '-' :: t := by
    cases r with
    | nil => simp at hc
    | cons d t => exact ⟨t, by rw [Option.some.inj hc]⟩
  rw [eq_of_openTag h, hdash] at h
  have htaken := openTag_append w true (r := t) nofun
  simp only [if_true, Bool.false_eq_true, if_false, List.nil_append, List.singleton_append]
    at h htaken
  simp [htaken] at h

/-- What follows the start of a tag does not matter to it, unless nothing does. -/
theorem openTag_carries {w : String} {s r : List Char} {dash : Bool}
    (h : openTag w s = some (dash, r)) (hr : r ≠ []) (R : List Char) :
    openTag w (s ++ R) = some (dash, r ++ R) := by
  rw [eq_of_openTag h, List.append_assoc, List.append_assoc]
  refine openTag_append w dash fun hdash c hc => ne_dash_of_openTag h hdash c ?_
  rwa [List.head?_append_of_ne_nil _ hr] at hc

/-- The end of a tag is read with its dash. -/
theorem closeTag_append {w : String} {c : Char} {v : List Char} (hw : w.toList = c :: v)
    (hc : c ≠ '-') (dash : Bool) (r : List Char) :
    closeTag w ((if dash then ['-'] else []) ++ (w.toList ++ r)) = some (dash, r) := by
  rw [closeTag, orElse_apply, spelled_apply, spelled_apply, String.toList_append]
  cases dash with
  | true =>
    have happend : ['-'] ++ (w.toList ++ r) = "-".toList ++ w.toList ++ r := by simp
    rw [if_pos rfl, happend, dropFront?_append]
    rfl
  | false =>
    have hnone : dropFront? ("-".toList ++ w.toList) (w.toList ++ r) = none := by
      simp [hw, dropFront?, hc.symm]
    rw [if_neg (by decide), List.nil_append, hnone, dropFront?_append]
    rfl

/-- Where a tag starts, literal text stops. -/
theorem startsTag_of_openTag {w : String} (hw : w ∈ ["\x7b\x7b", "\x7b%", "\x7b#"])
    {s r : List Char} {dash : Bool} (h : openTag w s = some (dash, r)) : startsTag s = true := by
  rw [eq_of_openTag h]
  simp only [List.mem_cons, List.not_mem_nil, or_false] at hw
  rcases hw with rfl | rfl | rfl <;> simp [startsTag]

/-- Only one kind of tag opens. -/
theorem openTag_of_openTag {w v : String} (hlength : w.toList.length = v.toList.length)
    (hne : w ≠ v) {s : List Char} {x : Bool × List Char} (h : openTag w s = some x) :
    openTag v s = none := by
  cases hv : openTag v s with
  | none => rfl
  | some y =>
    have happend := (eq_of_openTag h).symm.trans (eq_of_openTag hv)
    exact absurd (String.toList_inj.mp (List.append_inj happend hlength).1) hne

/-! ## Heads -/

/-- What stands at the start of a text. -/
inductive Head where
  | value
  | comment
  /-- A statement that starts with the word. -/
  | statement (word : String)
  | other
  deriving DecidableEq

/-- What stands at the start of the text. -/
def head (s : List Char) : Head :=
  match openStatement s with
  | some (_, t) => .statement (String.ofList ((t.dropWhile isSpace).takeWhile isNameChar))
  | none =>
    if (openValue s).isSome then .value else if (openComment s).isSome then .comment else .other

/-- A word of which all characters are characters of names. -/
abbrev IsWord (w : String) : Prop := w.toList.all isNameChar = true

/-- A statement is known by its first word. -/
theorem head_statement {s t r : List Char} {d : Bool} {w : String} (hw : IsWord w)
    (hopen : openStatement s = some (d, t)) (hword : t.dropWhile isSpace = w.toList ++ r)
    (hr : ∀ c ∈ r.head?, isNameChar c = false) : head s = .statement w := by
  have htake : (w.toList ++ r).takeWhile isNameChar = w.toList := by
    rw [List.takeWhile_append_of_pos (List.all_eq_true.mp hw)]
    cases r with
    | nil => simp
    | cons c r => simp [hr c rfl]
  rw [head, hopen]
  simp only [hword, htake, String.ofList_toList]

theorem isNameChar_of_isSpace {c : Char} (h : isSpace c = true) : isNameChar c = false := by
  simp only [isSpace, Bool.or_eq_true, decide_eq_true_eq] at h
  rcases h with ((rfl | rfl) | rfl) | rfl <;> rfl

/-- No name goes on before a blank. -/
theorem head?_space {s : List Char} {x : Unit × List Char} (h : space s = some x) :
    ∀ c ∈ s.head?, isNameChar c = false := by
  obtain ⟨cs, t, hrun, -⟩ := bind_eq_some h
  obtain ⟨c, u, hc, -⟩ := bind_eq_some hrun
  obtain ⟨rfl, hblank⟩ := eq_cons_of_char hc
  intro d hd
  rw [← Option.some.inj hd]
  exact isNameChar_of_isSpace hblank

/-- Statements with more behind their first word. -/
theorem head_openWord {w : String} (hw : IsWord w) {s r : List Char} {d : Bool}
    (h : openWord w s = some (d, r)) : head s = .statement w := by
  obtain ⟨dash, t, hopen, h⟩ := bind_eq_some h
  obtain ⟨⟨⟩, u, hgap, h⟩ := bind_eq_some h
  obtain ⟨⟨⟩, v, hword, h⟩ := bind_eq_some h
  obtain ⟨⟨⟩, v', hspace, -⟩ := bind_eq_some h
  exact head_statement hw hopen ((eq_of_gap hgap).symm.trans (eq_append_of_exact hword))
    (head?_space hspace)

/-- No name goes on where a statement ends. -/
theorem head?_closeWord {s r : List Char} {dash : Bool} (h : closeWord s = some (dash, r)) :
    ∀ c ∈ s.head?, isNameChar c = false := by
  obtain ⟨⟨⟩, t, hgap, hclose⟩ := bind_eq_some h
  intro c hc
  obtain ⟨s, rfl⟩ : ∃ t, s = c :: t := by
    cases s with
    | nil => simp at hc
    | cons d t => exact ⟨t, by rw [Option.some.inj hc]⟩
  by_cases hblank : isSpace c = true
  · exact isNameChar_of_isSpace hblank
  · -- the sign of the end, or its dash
    have hend := eq_of_closeTag hclose
    rw [eq_of_gap hgap, List.dropWhile_cons_of_neg hblank] at hend
    cases dash with
    | true => rw [(List.cons.inj hend).1]; rfl
    | false => rw [(List.cons.inj hend).1]; rfl

/-- Statements of one word. -/
theorem head_wordTag {w : String} (hw : IsWord w) {s r : List Char} {d : Dashes}
    (h : wordTag w s = some (d, r)) : head s = .statement w := by
  obtain ⟨dash, t, hopen, h⟩ := bind_eq_some h
  obtain ⟨⟨⟩, u, hgap, h⟩ := bind_eq_some h
  obtain ⟨⟨⟩, v, hword, h⟩ := bind_eq_some h
  obtain ⟨⟨⟩, v', hgap', h⟩ := bind_eq_some h
  obtain ⟨dash', v'', hclose, -⟩ := bind_eq_some h
  have hend : closeWord v = some (dash', v'') := by
    simp only [closeWord, bind_apply, hgap', Option.bind_some, hclose]
  exact head_statement hw hopen ((eq_of_gap hgap).symm.trans (eq_append_of_exact hword))
    (head?_closeWord hend)

/-- The end of a section starts with its word, be a name behind it or not. -/
theorem head_endTag {w : String} (hw : IsWord w) {s r : List Char} {d : Dashes}
    (h : endTag w s = some (d, r)) : head s = .statement w := by
  obtain ⟨dash, t, hopen, h⟩ := bind_eq_some h
  obtain ⟨⟨⟩, u, hgap, h⟩ := bind_eq_some h
  obtain ⟨⟨⟩, v, hword, h⟩ := bind_eq_some h
  obtain ⟨again, v', hagain, h⟩ := bind_eq_some h
  obtain ⟨⟨⟩, u', hgap', h⟩ := bind_eq_some h
  obtain ⟨dash', v'', hclose, -⟩ := bind_eq_some h
  refine head_statement hw hopen ((eq_of_gap hgap).symm.trans (eq_append_of_exact hword)) ?_
  rw [maybe_apply] at hagain
  rcases Option.or_eq_some_iff.mp hagain with hname | ⟨-, hnone⟩
  · obtain ⟨⟨x, x'⟩, hx, -⟩ := Option.map_eq_some_iff.mp hname
    obtain ⟨⟨⟩, y, hspace, -⟩ := bind_eq_some hx
    exact head?_space hspace
  · obtain ⟨-, rfl⟩ : none = again ∧ v = v' := by simpa using hnone
    have hend : closeWord v = some (dash', v'') := by
      simp only [closeWord, bind_apply, hgap', Option.bind_some, hclose]
    exact head?_closeWord hend

/-! ## Where readers read -/

/-- The reader reads only texts that start in one of some ways. -/
def ReadsAt {α : Type} (H : List Head) (p : Reader α) : Prop := ∀ ⦃s x⦄, p s = some x → head s ∈ H

namespace ReadsAt

variable {α β : Type} {H H' : List Head} {p q : Reader α}

/-- Where a text starts otherwise, the reader reads nothing. -/
theorem eq_none (h : ReadsAt H p) {s : List Char} (hs : head s ∉ H) : p s = none := by
  cases hp : p s with
  | none => rfl
  | some x => exact absurd (h hp) hs

/-- Where another reader stands first, it is passed over. -/
theorem pass (h : ReadsAt H p) {s : List Char} (hs : head s ∉ H) : (p <|> q) s = q s := by
  rw [orElse_apply, h.eq_none hs, Option.none_or]

theorem mono (h : ReadsAt H p) (hH : H ⊆ H') : ReadsAt H' p := fun _ _ hp => hH (h hp)

/-- A reader starts where its first part does. -/
theorem bind (h : ReadsAt H p) (f : α → Reader β) : ReadsAt H (p >>= f) := fun s _ hp => by
  rw [bind_apply] at hp
  obtain ⟨x, hx, -⟩ := Option.bind_eq_some_iff.mp hp
  exact h hx

theorem map (h : ReadsAt H p) (f : α → β) : ReadsAt H (f <$> p) := fun s _ hp => by
  rw [map_apply, Option.map_eq_some_iff] at hp
  obtain ⟨x, hx, -⟩ := hp
  exact h hx

/-- A choice starts where one of the two does. -/
theorem orElse (h : ReadsAt H p) (h' : ReadsAt H' q) : ReadsAt (H ++ H') (p <|> q) :=
  fun s x hp => by
    rw [orElse_apply] at hp
    rcases Option.or_eq_some_iff.mp hp with hp | ⟨-, hp⟩
    · exact List.mem_append_left H' (h hp)
    · exact List.mem_append_right H (h' hp)

theorem failure : ReadsAt [] (failure : Reader α) := fun _ _ hp => nomatch hp

/-- A reader that may be left out, and what follows it. -/
theorem maybe (h : ReadsAt H p) {f : Option α → Reader β} (hf : ReadsAt H' (f none)) :
    ReadsAt (H ++ H') (maybe p >>= f) := fun s x hx => by
  rw [bind_apply, maybe_apply] at hx
  cases hp : p s with
  | some y => exact List.mem_append_left H' (h hp)
  | none =>
    rw [hp] at hx
    exact List.mem_append_right H (hf hx)

/-- A reader that is repeated, and what follows it. -/
theorem many (h : ReadsAt H p) {f : List α → Reader β} (hf : ReadsAt H' (f [])) :
    ReadsAt (H ++ H') (many p >>= f) := fun s x hx => by
  cases hp : p s with
  | some y => exact List.mem_append_left H' (h hp)
  | none =>
    rw [bind_apply, many_of_none hp] at hx
    exact List.mem_append_right H (hf hx)

end ReadsAt

section

variable (exprs : Level) (body : Setting → Reader (List Node)) (place : Setting)

/-- Statements by their first words. No two of the rules for statements have the same one. -/
theorem readsAt_openWord {w : String} (hw : IsWord w) : ReadsAt [.statement w] (openWord w) :=
  fun _ _ h => List.mem_singleton.mpr (head_openWord hw h)

theorem readsAt_wordTag {w : String} (hw : IsWord w) : ReadsAt [.statement w] (wordTag w) :=
  fun _ _ h => List.mem_singleton.mpr (head_wordTag hw h)

/-- The end of a section, with or without the name of what ends. -/
theorem readsAt_endTag {w : String} (hw : IsWord w) : ReadsAt [.statement w] (endTag w) :=
  fun _ _ h => List.mem_singleton.mpr (head_endTag hw h)

theorem readsAt_insertTag : ReadsAt [.statement "include"] insertTag :=
  (readsAt_openWord (by decide)).bind _

theorem readsAt_loadTag : ReadsAt [.statement "import"] loadTag :=
  (readsAt_openWord (by decide)).bind _

/-- Both kinds of assignments, which differ in their word. -/
theorem readsAt_assignTag {w : String} (hw : IsWord w) (global : Bool) :
    ReadsAt [.statement w] (assignTag exprs w global) :=
  (readsAt_openWord hw).bind _

theorem readsAt_defineSection : ReadsAt [.statement "macro"] (defineSection body) :=
  (readsAt_openWord (by decide)).bind _

theorem readsAt_blockSection : ReadsAt [.statement "block"] (blockSection body) :=
  (readsAt_openWord (by decide)).bind _

/-- A branch starts with its first arm. -/
theorem readsAt_branchSection : ReadsAt [.statement "if"] (branchSection exprs body place) :=
  ((readsAt_openWord (by decide)).bind _).bind _

theorem readsAt_loopSection : ReadsAt [.statement "for"] (loopSection exprs body) :=
  (readsAt_openWord (by decide)).bind _

theorem readsAt_filterSection : ReadsAt [.statement "filter"] (filterSection exprs body) :=
  (readsAt_openWord (by decide)).bind _

theorem readsAt_rawText : ReadsAt [.statement "raw"] rawText := (readsAt_wordTag (by decide)).bind _

/-- Tags around values start like no other tag. -/
theorem readsAt_valueTag : ReadsAt [.value] (valueTag exprs place) := by
  refine ReadsAt.bind (fun s x h => ?_) _
  have hstatement : openStatement s = none := openTag_of_openTag (by decide) (by decide) h
  simp [head, hstatement, h]

/-- Comments start like no other tag. -/
theorem readsAt_comment : ReadsAt [.comment] comment := by
  refine ReadsAt.bind (fun s x h => ?_) _
  have hstatement : openStatement s = none := openTag_of_openTag (by decide) (by decide) h
  have hvalue : openValue s = none := openTag_of_openTag (by decide) (by decide) h
  simp [head, hstatement, hvalue, h]

/-- Literal text is read only where no tag starts. -/
theorem readsAt_literal : ReadsAt [.other] literal := fun s x h => by
  have hnone : ∀ {w : String}, w ∈ ["\x7b\x7b", "\x7b%", "\x7b#"] → openTag w s = none :=
    fun {w} hw => by
      cases hopen : openTag w s with
      | none => rfl
      | some y =>
        rw [literal, literalRun_of_startsTag (startsTag_of_openTag hw hopen)] at h
        simp at h
  have hstatement : openStatement s = none := hnone (by simp)
  have hvalue : openValue s = none := hnone (by simp)
  have hcomment : openComment s = none := hnone (by simp)
  simp [head, hstatement, hvalue, hcomment]

end

end UserConfigs.Template
