import UserConfigs.Proofs.TagReading

/-!
# Reading comments and raw text

Both are read up to the first place where their end reads (`upTo_append`). The end of a comment
starts with a sign that the comment does not contain (`node_commentText`). The end of raw text
contains the word `endraw`, and no brace but its first one, so it cannot start inside a text without
that word, even where the text ends like the start of a tag (`node_rawBlock`).
-/

namespace UserConfigs.Template

open Reader

/-! ## Texts up to their end -/

/-- A text is read up to a place where `stop` reads, if it reads nowhere in the text. -/
theorem upTo_append {α : Type} {stop : Reader α} {rest : List Char} (hne : rest ≠ [])
    (hstop : (stop rest).isSome) : ∀ {t : List Char},
      (∀ s, s ≠ [] → s <:+ t → stop (s ++ rest) = none) → upTo stop (t ++ rest) = some (t, rest)
  | [], _ => by
    obtain ⟨c, cs, rfl⟩ := List.exists_cons_of_ne_nil hne
    obtain ⟨a, ha⟩ := Option.isSome_iff_exists.mp hstop
    simp only [List.nil_append, upTo, ha]
  | c :: t, hnone => by
    have hc : stop (c :: (t ++ rest)) = none := hnone (c :: t) (by simp) (List.suffix_refl _)
    have ih : upTo stop (t ++ rest) = some (t, rest) :=
      upTo_append hne hstop fun s hs hsuffix => hnone s hs (hsuffix.trans (List.suffix_cons c t))
    simp only [List.cons_append, upTo, hc, ih, Option.map_some]

/-! ## Comments -/

/-- The text of a comment. -/
def commentText (t : List Char) : List Char := '\x7b' :: '#' :: (t ++ ['#', '\x7d'])

section Comments

variable {t : List Char} (hne : t ≠ []) (hsign : '#' ∉ t) (hdash : '-' ∉ t) (s : List Char)
include hne hsign hdash

theorem comment_commentText :
    comment (commentText t ++ s) = some (.comment ⟨false, false⟩, s) := by
  obtain ⟨c, cs, rfl⟩ := List.exists_cons_of_ne_nil hne
  have hopen : openComment (commentText (c :: cs) ++ s) =
      some (false, c :: cs ++ '#' :: '\x7d' :: s) := by
    have hc : '-' ≠ c := (List.ne_and_not_mem_of_not_mem_cons hdash).1
    simp [openComment, openTag, spelled_apply, commentText, dropFront?, hc]
  have hclose : closeComment ('#' :: '\x7d' :: s) = some (false, s) := by
    simp [closeComment, closeTag, spelled_apply, dropFront?]
  have hbody : upTo closeComment (c :: cs ++ '#' :: '\x7d' :: s) =
      some (c :: cs, '#' :: '\x7d' :: s) := by
    refine upTo_append (by simp) (by simp [hclose]) fun u hu hsuffix => ?_
    obtain ⟨d, ds, rfl⟩ := List.exists_cons_of_ne_nil hu
    have hd : d ∈ c :: cs := hsuffix.subset (by simp)
    have hd' : '#' ≠ d ∧ '-' ≠ d := ⟨fun h => hsign (h ▸ hd), fun h => hdash (h ▸ hd)⟩
    simp [closeComment, closeTag, spelled_apply, dropFront?, hd']
  simp only [comment, bind_apply, pure_apply, hopen, hbody, hclose, Option.bind_some,
    List.isEmpty_cons, Bool.false_eq_true, if_false]

theorem node_commentText (exprs : Level) (body : Setting → Reader (List Node)) (place : Setting) :
    node exprs body place (commentText t ++ s) = some (.comment ⟨false, false⟩, s) := by
  have hstatement : openStatement (commentText t ++ s) = none :=
    openTag_eq_none (by simp [commentText, dropFront?])
  have hvalue : openValue (commentText t ++ s) = none :=
    openTag_eq_none (by simp [commentText, dropFront?])
  rw [node_of_no_statement exprs body place hstatement]
  simp only [valueTag, bind_apply, hvalue, Option.bind_none, Option.none_or,
    comment_commentText hne hsign hdash, Option.some_or]

end Comments

/-! ## Raw text -/

/-- The text of a statement that is one word. -/
def wordText (w : String) : List Char := '\x7b' :: '%' :: ' ' :: (w.toList ++ [' ', '%', '\x7d'])

/-- The text of a raw block. -/
def rawBlock (t : List Char) : List Char := wordText "raw" ++ (t ++ wordText "endraw")

theorem openStatement_wordText (w : String) (s : List Char) :
    openStatement (wordText w ++ s) =
      some (false, ' ' :: (w.toList ++ ' ' :: '%' :: '\x7d' :: s)) := by
  simp [openStatement, openTag, spelled_apply, wordText, dropFront?]

/-- A word stands after the blanks. -/
theorem gap_word {c : Char} (hc : isSpace c = false) (s : List Char) :
    gap (' ' :: c :: s) = some ((), c :: s) := by
  have hblank : isSpace ' ' = true := rfl
  simp [gap_apply, hblank, hc]

theorem wordTag_wordText {w : String} {c : Char} {cs : List Char} (hw : w.toList = c :: cs)
    (hc : isSpace c = false) (s : List Char) :
    wordTag w (wordText w ++ s) = some (⟨false, false⟩, s) := by
  have hclose : closeStatement ('%' :: '\x7d' :: s) = some (false, s) := by
    simp [closeStatement, closeTag, spelled_apply, dropFront?]
  have hblank : gap (' ' :: '%' :: '\x7d' :: s) = some ((), '%' :: '\x7d' :: s) := rfl
  have hword : dropFront? (c :: cs) (c :: (cs ++ ' ' :: '%' :: '\x7d' :: s)) =
      some (' ' :: '%' :: '\x7d' :: s) := dropFront?_append (c :: cs) _
  simp only [wordTag, bind_apply, pure_apply, openStatement_wordText, exact_apply, hw,
    List.cons_append, gap_word hc, hword, Option.map_some, Option.bind_some, hblank, hclose]

/-- The start of a statement has no brace but its first one. -/
theorem eq_append_of_openStatement {s r : List Char} {dash : Bool}
    (h : openStatement s = some (dash, r)) : ∃ o, s = '\x7b' :: (o ++ r) ∧ '\x7b' ∉ o := by
  have hdashed : ("\x7b%" ++ "-").toList = '\x7b' :: ['%', '-'] := by decide
  have hplain : "\x7b%".toList = '\x7b' :: ['%'] := by decide
  simp only [openStatement, openTag, orElse_apply, spelled_apply, hdashed, hplain] at h
  rcases Option.or_eq_some_iff.mp h with h | ⟨-, h⟩
  · obtain ⟨r', hr, hr'⟩ := Option.map_eq_some_iff.mp h
    obtain rfl : r' = r := congrArg Prod.snd hr'
    exact ⟨['%', '-'], eq_append_of_dropFront? hr, by decide⟩
  · obtain ⟨r', hr, hr'⟩ := Option.map_eq_some_iff.mp h
    obtain rfl : r' = r := congrArg Prod.snd hr'
    exact ⟨['%'], eq_append_of_dropFront? hr, by decide⟩

/-- A statement that is one word has no brace but its first one, up to the end of the word. -/
theorem eq_append_of_wordTag {v : String} (hv : '\x7b' ∉ v.toList) {s : List Char}
    (h : (wordTag v s).isSome) :
    ∃ w r, s = '\x7b' :: (w ++ v.toList ++ r) ∧ '\x7b' ∉ w ++ v.toList := by
  obtain ⟨d, h⟩ := Option.isSome_iff_exists.mp h
  simp only [wordTag, bind_apply, gap_apply, exact_apply, Option.bind_some] at h
  obtain ⟨⟨dash, r⟩, hopen, h⟩ := Option.bind_eq_some_iff.mp h
  obtain ⟨_, hword, -⟩ := Option.bind_eq_some_iff.mp h
  obtain ⟨r', hr', -⟩ := Option.map_eq_some_iff.mp hword
  obtain ⟨o, rfl, ho⟩ := eq_append_of_openStatement hopen
  have hsplit : r = r.takeWhile isSpace ++ (v.toList ++ r') := by
    rw [← eq_append_of_dropFront? hr', List.takeWhile_append_dropWhile]
  have hblanks : '\x7b' ∉ r.takeWhile isSpace := fun hmem =>
    absurd (List.mem_takeWhile_imp hmem) (by decide)
  refine ⟨o ++ r.takeWhile isSpace, r', ?_, by simp [ho, hblanks, hv]⟩
  conv_lhs => rw [hsplit]
  simp only [List.append_assoc]

/-- No such statement starts in a text without its word, before a brace. -/
theorem wordTag_eq_none {v : String} (hv : '\x7b' ∉ v.toList) {b : List Char} (hb : b ≠ [])
    (hword : ¬v.toList <:+: b) (s : List Char) : wordTag v (b ++ '\x7b' :: s) = none := by
  rw [← Option.not_isSome_iff_eq_none]
  intro hsome
  obtain ⟨w, r, hs, hbrace⟩ := eq_append_of_wordTag hv hsome
  obtain ⟨c, b, rfl⟩ := List.exists_cons_of_ne_nil hb
  obtain ⟨rfl, htail⟩ := List.cons.inj hs
  -- the brace stands behind the word, or in it
  rcases List.append_eq_append_iff.mp htail with ⟨u, hu, hu'⟩ | ⟨u, hu, -⟩
  · rcases u with _ | ⟨d, u⟩
    · rw [List.append_nil] at hu
      exact hword ⟨'\x7b' :: w, [], by simp [← hu]⟩
    · obtain ⟨rfl, -⟩ := List.cons.inj hu'
      exact hbrace (by simp [hu])
  · exact hword ⟨'\x7b' :: w, u, by simp [hu]⟩

section Raw

variable {t : List Char} (ht : ¬"endraw".toList <:+: t) (s : List Char)

include ht in
theorem rawText_rawBlock :
    rawText (rawBlock t ++ s) = some (.raw ⟨false, false⟩ t ⟨false, false⟩, s) := by
  have hraw : "raw".toList = ['r', 'a', 'w'] := by decide
  have hendraw : "endraw".toList = ['e', 'n', 'd', 'r', 'a', 'w'] := by decide
  have hfirst := wordTag_wordText hraw rfl
  have hlast := wordTag_wordText hendraw rfl s
  have hbody : upTo (wordTag "endraw") (t ++ (wordText "endraw" ++ s)) =
      some (t, wordText "endraw" ++ s) := by
    refine upTo_append (by simp [wordText]) (by simp [hlast]) fun u hu hsuffix => ?_
    have hinfix : ¬"endraw".toList <:+: u := fun h => ht (h.trans hsuffix.isInfix)
    exact wordTag_eq_none (by decide) hu hinfix _
  simp only [rawText, rawBlock, List.append_assoc, bind_apply, pure_apply, hfirst, hbody, hlast,
    Option.bind_some]

theorem gap_raw (r : List Char) :
    gap (' ' :: ("raw".toList ++ r)) = some ((), 'r' :: 'a' :: 'w' :: r) :=
  gap_word rfl ('a' :: 'w' :: r)

/-- A raw block starts like no statement with another first letter. -/
theorem openWord_rawBlock {w : String} (hw : ∀ r, dropFront? w.toList ('r' :: r) = none) :
    openWord w (rawBlock t ++ s) = none := by
  simp only [openWord, rawBlock, List.append_assoc, bind_apply, openStatement_wordText, gap_raw,
    Option.bind_some, exact_apply, hw, Option.map_none, Option.bind_none]

theorem comment_rawBlock : comment (rawBlock t ++ s) = none :=
  bind_eq_none (openTag_eq_none (by simp [rawBlock, wordText, dropFront?])) _

include ht in
theorem node_rawBlock (exprs : Level) (body : Setting → Reader (List Node)) :
    node exprs body .plain (rawBlock t ++ s) = some (.raw ⟨false, false⟩ t ⟨false, false⟩, s) := by
  have hopen : ∀ w ∈ ["include", "import", "set", "set_global", "macro", "block", "if", "for",
      "filter"],
      openWord w (rawBlock t ++ s) = none := fun w hw => by
    refine openWord_rawBlock s fun r => ?_
    simp only [List.mem_cons, List.not_mem_nil, or_false] at hw
    rcases hw with rfl | rfl | rfl | rfl | rfl | rfl | rfl | rfl | rfl <;> simp [dropFront?]
  have hvalue : valueTag exprs .plain (rawBlock t ++ s) = none :=
    bind_eq_none (openTag_eq_none (by simp [rawBlock, wordText, dropFront?])) _
  have hinsert : insertTag (rawBlock t ++ s) = none :=
    bind_eq_none (hopen "include" (by simp)) _
  have hload : loadTag (rawBlock t ++ s) = none := bind_eq_none (hopen "import" (by simp)) _
  have hset : assignTag exprs "set" false (rawBlock t ++ s) = none :=
    bind_eq_none (hopen "set" (by simp)) _
  have hglobal : assignTag exprs "set_global" true (rawBlock t ++ s) = none :=
    bind_eq_none (hopen "set_global" (by simp)) _
  have hdefine : defineSection body (rawBlock t ++ s) = none :=
    bind_eq_none (hopen "macro" (by simp)) _
  have hblock : blockSection body (rawBlock t ++ s) = none :=
    bind_eq_none (hopen "block" (by simp)) _
  have hbranch : branchSection exprs body .plain (rawBlock t ++ s) = none :=
    bind_eq_none (bind_eq_none (hopen "if" (by simp)) _) _
  have hloop : loopSection exprs body (rawBlock t ++ s) = none :=
    bind_eq_none (hopen "for" (by simp)) _
  have hfilter : filterSection exprs body (rawBlock t ++ s) = none :=
    bind_eq_none (hopen "filter" (by simp)) _
  have hleave : (if Setting.plain = .loop then leaveTag else failure : Reader Node)
      (rawBlock t ++ s) = none := rfl
  simp only [node, orElse_apply, hinsert, hload, hvalue, comment_rawBlock, hset, hglobal, hdefine,
    hblock, hbranch, hloop, hfilter, hleave, Option.none_or, rawText_rawBlock ht, Option.some_or]

/-- A raw block is no `extends`. -/
theorem parentTag_rawBlock : parentTag (rawBlock t ++ s) = none := by
  have hextends : ∀ r, exact "extends" ('r' :: r) = none := fun _ => rfl
  simp only [parentTag, rawBlock, List.append_assoc, bind_apply, openStatement_wordText, gap_raw,
    Option.bind_some, hextends, Option.bind_none]

end Raw

end UserConfigs.Template
