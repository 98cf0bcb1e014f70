import UserConfigs.Proofs.NodeReading

/-!
# Whole templates as bodies

A template is read as comments, perhaps the tag that names the template it extends, and a body. The
comments are nodes as well, so a template that extends no other is one body (`read?_eq_some_iff`).
How deep its bodies and expressions may go does not matter, as long as the depth is not less than
the length of the text (`bodyWithin_eq_some`).
-/

namespace UserConfigs.Template

open Reader

/-! ## Comments at the front -/

theorem readsAt_parentTag : ReadsAt [.statement "extends"] parentTag := fun s x h => by
  obtain ⟨n, r⟩ := x
  obtain ⟨dash, t, hopen, h⟩ := bind_eq_some h
  obtain ⟨⟨⟩, u, hgap, h⟩ := bind_eq_some h
  obtain ⟨⟨⟩, v, hword, h⟩ := bind_eq_some h
  obtain ⟨⟨⟩, v', hgap', h⟩ := bind_eq_some h
  obtain ⟨name, v'', hname, -⟩ := bind_eq_some h
  obtain ⟨⟨q, body⟩, v₁, hquoted, -⟩ := bind_eq_some hname
  obtain ⟨hquote, -, rfl⟩ := eq_of_quotedText hquoted
  obtain ⟨blanks, hblanks, rfl⟩ := eq_append_of_gap hgap'
  refine List.mem_singleton.mpr (head_statement (by decide) hopen
    ((eq_of_gap hgap).symm.trans (eq_append_of_exact hword)) fun c hc => ?_)
  cases blanks with
  | nil =>
    obtain rfl : q = c := by simpa using hc
    simp only [isQuote, Bool.or_eq_true, decide_eq_true_eq] at hquote
    rcases hquote with (rfl | rfl) | rfl <;> rfl
  | cons d blanks =>
    obtain rfl : d = c := by simpa using hc
    exact isNameChar_of_isSpace (hblanks d List.mem_cons_self)

section

variable {exprs : Level} {body : Setting → Reader (List Node)} {place : Setting}

/-- A comment is a node. -/
theorem node_of_comment {s : List Char} {x : Node × List Char} (h : comment s = some x) :
    node exprs body place s = some x := by
  have hhead : head s = .comment := List.mem_singleton.mp (readsAt_comment h)
  rw [node, readsAt_insertTag.pass (by simp [hhead]), readsAt_loadTag.pass (by simp [hhead]),
    (readsAt_valueTag exprs place).pass (by simp [hhead]), orElse_apply, h, Option.some_or]

/-- A tag that sets a name is a node. -/
theorem node_of_assignTag {s : List Char} {x : Node × List Char}
    (h : assignTag exprs "set" false s = some x) : node exprs body place s = some x := by
  have hhead : head s = .statement "set" :=
    List.mem_singleton.mp (readsAt_assignTag exprs (by decide) false h)
  rw [node, readsAt_insertTag.pass (by simp [hhead]), readsAt_loadTag.pass (by simp [hhead]),
    (readsAt_valueTag exprs place).pass (by simp [hhead]), readsAt_comment.pass (by simp [hhead]),
    orElse_apply, h, Option.some_or]

/-- A loop is a node. -/
theorem node_of_loopSection {s : List Char} {x : Node × List Char}
    (h : loopSection exprs body s = some x) : node exprs body place s = some x := by
  have hhead : head s = .statement "for" :=
    List.mem_singleton.mp (readsAt_loopSection exprs body h)
  rw [node, readsAt_insertTag.pass (by simp [hhead]), readsAt_loadTag.pass (by simp [hhead]),
    (readsAt_valueTag exprs place).pass (by simp [hhead]), readsAt_comment.pass (by simp [hhead]),
    (readsAt_assignTag exprs (w := "set") (by decide) false).pass (by simp [hhead]),
    (readsAt_assignTag exprs (w := "set_global") (by decide) true).pass (by simp [hhead]),
    (readsAt_defineSection body).pass (by simp [hhead]),
    (readsAt_blockSection body).pass (by simp [hhead]),
    (readsAt_branchSection exprs body place).pass (by simp [hhead]), orElse_apply, h,
    Option.some_or]

theorem reads_comments_append {s t r : List Char} {comments nodes : List Node}
    (hc : Reads comment s comments t) (hn : Reads (node exprs body place) t nodes r) :
    Reads (node exprs body place) s (comments ++ nodes) r := by
  induction hc with
  | nil _ => exact hn
  | cons h hlt _ ih => exact .cons (node_of_comment h) hlt (ih hn)

/-- The comments at the front of the nodes of a whole text. -/
theorem exists_reads_comments (hnode : ReadsAt nodeHeads (node exprs body place))
    {s : List Char} {nodes : List Node} (h : Reads (node exprs body place) s nodes []) :
    ∃ comments rest t, nodes = comments ++ rest ∧ Reads comment s comments t ∧
      parentTag t = none ∧ Reads (node exprs body place) t rest [] := by
  generalize hr : ([] : List Char) = r at h
  induction h with
  | nil hnone =>
    subst hr
    exact ⟨[], [], [], rfl, .nil (readsAt_comment.eq_none (by decide)),
      readsAt_parentTag.eq_none (by decide), .nil hnone⟩
  | @cons s s' r a as ha hlt hs ih =>
    subst hr
    cases hcomment : comment s with
    | none =>
      refine ⟨[], a :: as, s, rfl, .nil hcomment, readsAt_parentTag.eq_none fun hhead => ?_,
        .cons ha hlt hs⟩
      have hmem := hnode ha
      rw [List.mem_singleton.mp hhead] at hmem
      exact absurd hmem (by decide)
    | some x =>
      obtain rfl : x = (a, s') := Option.some.inj ((node_of_comment hcomment).symm.trans ha)
      obtain ⟨comments, rest, t, rfl, hreads, hparent, hrest⟩ := ih rfl
      exact ⟨a :: comments, rest, t, rfl, .cons hcomment hlt hreads, hparent, hrest⟩

end

/-! ## Templates that extend no other -/

theorem follows_nil (S : List Char) : Follows S [] := .inl rfl

/-- A text of a depth that all its bodies have. -/
theorem rule_source (s : List Char) (n m : Nat) (hn : s.length < n)
    (place : Setting) : Rule s [] (m + 2) nodeHeads (node (level n) (bodyWithin (level n) m) place)
      (node (level n) (bodyWithin (level n) m) place) :=
  rule_node (levelTwin hn hn) (bodyCarries (follows_nil s) (levelTwin hn hn) m m) (follows_nil s)
    (.same place)

/-- A template that extends no other is one body. -/
theorem read?_eq_some_iff {s : List Char} {nodes : List Node} :
    Source.read? s = some ⟨none, nodes⟩ ↔
      bodyWithin (level (s.length + 1)) (s.length + 1) .plain s = some (nodes, []) := by
  have hrule := rule_source s (s.length + 1) s.length (Nat.lt_succ_self _) .plain
  have hshort : s.length < s.length + 2 := by omega
  constructor
  · intro h
    obtain ⟨⟨src, r⟩, hsource, hnodes⟩ := Option.map_eq_some_iff.mp h
    obtain ⟨comments, t, hcomments, hsource⟩ := bind_eq_some hsource
    obtain ⟨parent, u, hparent, hsource⟩ := bind_eq_some hsource
    obtain ⟨rest, v, hrest, hsource⟩ := bind_eq_some hsource
    obtain ⟨⟨⟩, v', hend, hsource⟩ := bind_eq_some hsource
    obtain ⟨rfl, rfl⟩ : ⟨parent, comments ++ rest⟩ = src ∧ v' = r := by simpa using hsource
    obtain ⟨rfl, rfl⟩ : parent = none ∧ comments ++ rest = nodes := by simpa using hnodes
    obtain rfl : v = [] := by
      cases v with
      | nil => rfl
      | cons c v => exact nomatch hend
    obtain rfl : t = u := by
      rw [maybe_apply] at hparent
      cases htag : parentTag t with
      | none => simpa [htag] using hparent
      | some x => simp [htag] at hparent
    have hreads := carries_comment (R := []) |>.reads (List.suffix_refl s) hshort hcomments
    have ht := (carries_comment (S := s) (R := []) |>.carries_reads (fun _ _ _ => trivial) hreads
      (List.suffix_refl s) hshort).2.1
    have hmore := hrule.carries.reads ht (Nat.lt_of_le_of_lt ht.length_le hshort) hrest
    exact many_of_reads (reads_comments_append hreads hmore)
  · intro h
    have hreads := hrule.carries.reads (List.suffix_refl s) hshort h
    obtain ⟨comments, rest, t, rfl, hcomments, hparent, hrest⟩ :=
      exists_reads_comments hrule.readsAt hreads
    exact read?_of_reads hcomments hparent hrest

/-- A text is the same body at any depth that all its bodies have. -/
theorem bodyWithin_eq_some {s : List Char} {nodes : List Node} {n m n' m' : Nat}
    (hn : s.length < n) (hn' : s.length < n') (hm' : s.length ≤ m')
    {place : Setting} (h : bodyWithin (level n) m place s = some (nodes, [])) :
    bodyWithin (level n') m' place s = some (nodes, []) := by
  have hbody := bodyCarries (follows_nil s) (levelTwin hn hn') m m'
  simpa using (hbody (.same place)).carries (List.suffix_refl s) (by omega) h (.inl rfl)

/-- What a template is read from. -/
theorem parse_eq_ok_iff {text : String} {t : Template} : parse text = .ok t ↔
    ∃ nodes, bodyWithin (level (text.toList.length + 1)) (text.toList.length + 1) .plain
      text.toList = some (nodes, []) ∧ Accepted nodes ∧ t = ⟨Node.trimAll false false nodes⟩ := by
  rw [parse_eq_ok_iff_read]
  exact exists_congr fun nodes => and_congr_left fun _ => read?_eq_some_iff

/-- A template is read from its text in bodies nested as deep as one likes. -/
theorem parse_eq_ok_of_body {text : String} {nodes : List Node} {n m : Nat}
    (hn : text.toList.length < n)
    (h : bodyWithin (level n) m .plain text.toList = some (nodes, [])) (hnodes : Accepted nodes) :
    parse text = .ok ⟨Node.trimAll false false nodes⟩ :=
  parse_eq_ok_iff.mpr
    ⟨nodes, bodyWithin_eq_some hn (Nat.lt_succ_self _) (Nat.le_succ _) h, hnodes, rfl⟩

end UserConfigs.Template
