import UserConfigs.Proofs.BlockReading
import UserConfigs.Proofs.Sources
import UserConfigs.Proofs.Trimming

/-!
# Statements that bind a name

The text that sets a name (`setText`) in front of another text is read as the one statement and
then as the other text is by itself (`parse_setText`). So it does not matter for what can be read.

The text of a loop (`forText`) is read as its body and the body for the empty array are read by
themselves (`parse_forText`). For this neither of them may end in an opening brace, which would make
another sign of the one behind it. The body for the empty array may not have dashes : by itself
these take blanks, but in a loop only the body that is repeated is trimmed.
-/

namespace UserConfigs.Template

open Reader

/-! ## Tags around names -/

/-- A name that anything but a name follows. -/
theorem name_identifier {x r : List Char} (hx : IsIdentifier x)
    (hr : ∀ c ∈ r.head?, isNameChar c = false) : name (x ++ r) = some (x, r) := by
  obtain ⟨c, cs, rfl, hc, hcs⟩ := hx
  have htake : (cs ++ r).takeWhile isNameChar = cs ∧ (cs ++ r).dropWhile isNameChar = r := by
    rw [List.takeWhile_append_of_pos hcs, List.dropWhile_append_of_pos hcs]
    cases r with
    | nil => simp
    | cons d r => simp [hr d (by simp)]
  simp [name, char, hc, run, htake.1, htake.2]

/-- One blank before what is no blank. -/
theorem gap_blank {s : List Char} (hs : ∀ c ∈ s.head?, isSpace c = false) :
    gap (' ' :: s) = some ((), s) := by
  rw [gap_apply]
  exact congrArg (fun r => some ((), r))
    (dropWhile_blanks (by simp [isSpace] : ∀ c ∈ [' '], isSpace c = true) hs)

theorem space_blank {s : List Char} (hs : ∀ c ∈ s.head?, isSpace c = false) :
    space (' ' :: s) = some ((), s) := by
  have hrun : run isSpace s = some ([], s) := by
    cases s with
    | nil => rfl
    | cons c s => simp [run, hs c rfl]
  simp [space, run1, char, isSpace, hrun]

theorem exact_append (w : String) (s : List Char) : exact w (w.toList ++ s) = some ((), s) := by
  rw [exact_apply, dropFront?_append]
  rfl

theorem head?_identifier {x : List Char} (hx : IsIdentifier x) (s : List Char) :
    ∀ c ∈ (x ++ s).head?, isSpace c = false := by
  obtain ⟨c, cs, rfl, hc, -⟩ := hx
  intro d hd
  obtain rfl : c = d := by simpa using hd
  refine Bool.eq_false_iff.mpr fun h => ?_
  simp only [isSpace, Bool.or_eq_true, decide_eq_true_eq] at h
  rcases h with ((rfl | rfl) | rfl) | rfl <;> simp [isNameStart] at hc

/-- The start of a statement with single blanks. -/
theorem openWord_blank {w : String} (hw : IsIdentifier w.toList) {s : List Char}
    (hs : ∀ c ∈ s.head?, isSpace c = false) :
    openWord w ("\x7b%".toList ++ ' ' :: (w.toList ++ ' ' :: s)) = some (false, s) := by
  have hopen : openStatement ("\x7b%".toList ++ ' ' :: (w.toList ++ ' ' :: s)) =
      some (false, ' ' :: (w.toList ++ ' ' :: s)) :=
    openTag_append "\x7b%" false fun _ c hc => by
      obtain rfl : ' ' = c := by simpa using hc
      decide
  simp only [openWord, bind_apply, pure_apply, hopen, gap_blank (head?_identifier hw _),
    exact_append, space_blank hs, Option.bind_some]

/-- The end of a statement with a single blank. -/
theorem closeWord_blank (s : List Char) : closeWord (" %\x7d".toList ++ s) = some (false, s) := by
  have hclose : closeStatement ("%\x7d".toList ++ s) = some (false, s) :=
    closeTag_append (c := '%') (v := ['\x7d']) rfl (by decide) false s
  have hgap : gap (" %\x7d".toList ++ s) = some ((), "%\x7d".toList ++ s) :=
    gap_blank (s := "%\x7d".toList ++ s) (by simp [isSpace])
  simp only [closeWord, bind_apply, hgap, hclose, Option.bind_some]

theorem endsTag_blank (s : List Char) : EndsTag (" %\x7d".toList ++ s) where
  next := by simp [isNameChar]
  later := by simp [isSpace, isNameChar]
  tagEnd := ⟨'%', s, .inr rfl, .inl (by simp [isSpace])⟩

/-! ## Setting a name -/

/-- A tag that binds a name to what another name means. -/
def setText (x y : String) : String := "\x7b% set " ++ x ++ " = " ++ y ++ " %\x7d"

/-- What the tag is read as. -/
def setNode (x y : String) : Node := .assign ⟨false, false⟩ false x (.mk (.path y) false [])

section

variable {x y : String} (hx : IsIdentifier x.toList) (hy : IsPlainName y.toList)
include hx hy

theorem assignTag_setText (n : Nat) (s : List Char) :
    assignTag (level (n + 1)) "set" false ((setText x y).toList ++ s) = some (setNode x y, s) := by
  have htext : (setText x y).toList ++ s = "\x7b%".toList ++ ' ' :: ("set".toList ++ ' ' ::
      (x.toList ++ ' ' :: ("=".toList ++ ' ' :: (y.toList ++ (" %\x7d".toList ++ s))))) := by
    simp [setText]
  have hword : IsIdentifier "set".toList :=
    ⟨'s', ['e', 't'], by decide, by decide, by simp [isNameChar]⟩
  have hopen := openWord_blank hword (head?_identifier hx
    (' ' :: ("=".toList ++ ' ' :: (y.toList ++ (" %\x7d".toList ++ s)))))
  have hname : ∀ r, name (x.toList ++ ' ' :: r) = some (x.toList, ' ' :: r) := fun r =>
    name_identifier hx (by simp [isNameChar])
  have hequals : ∀ r, gap (' ' :: ("=".toList ++ r)) = some ((), "=".toList ++ r) := fun r =>
    gap_blank (by simp [isSpace])
  have hvalue := value_name hy (endsTag_blank s) n
  rw [htext]
  simp only [assignTag, bind_apply, pure_apply, hopen, hname, hequals, exact_append,
    gap_blank (head?_identifier hy.shape _), hvalue, closeWord_blank, Option.bind_some,
    String.ofList_toList, setNode]

omit hx hy in
theorem trimAll_setNode (nodes : List Node) : Node.trimAll false false (setNode x y :: nodes) =
    setNode x y :: Node.trimAll false false nodes := by
  simp only [setNode, Node.trimAll, Node.trim, Node.dashRight]

omit hx hy in
/-- The tag is nothing that templates share. -/
theorem accepted_setNode {nodes : List Node} :
    Accepted (setNode x y :: nodes) ↔ Accepted nodes := by
  have hfit : Node.fitAll .top (setNode x y :: nodes) = Node.fitAll .top nodes := by
    simp only [Node.fitAll, setNode, Node.fits, Bool.true_and]
  have hblocks : Node.blocksAll (setNode x y :: nodes) = Node.blocksAll nodes := by
    simp only [Node.blocksAll, setNode, Node.blocks, List.nil_append]
  have hformed : Node.wellFormed (setNode x y :: nodes) = Node.wellFormed nodes := by
    rw [Node.wellFormed, hfit, hblocks]
    rfl
  have hothers : checkOthers none (setNode x y :: nodes) = checkOthers none nodes := rfl
  exact ⟨fun h => ⟨hformed ▸ h.wellFormed, hothers ▸ h.others⟩,
    fun h => ⟨hformed.symm ▸ h.wellFormed, hothers.symm ▸ h.others⟩⟩

/-- A template after such a tag is read as the tag and the template. -/
theorem parse_setText {text : String} {t' : Template} : parse (setText x y ++ text) = .ok t' ↔
    ∃ t, parse text = .ok t ∧ t' = ⟨setNode x y :: t.nodes⟩ := by
  obtain ⟨n, hn⟩ : ∃ n, n = (setText x y ++ text).toList.length := ⟨_, rfl⟩
  have hchars : (setText x y ++ text).toList = (setText x y).toList ++ text.toList :=
    String.toList_append
  have hshort : text.toList.length < n + 1 := by
    rw [hn, hchars, List.length_append]
    omega
  have hpos : text.toList.length < ((setText x y).toList ++ text.toList).length := by
    simp only [setText, String.toList_append, List.length_append, String.reduceToList,
      List.length_cons]
    omega
  have hrule := rule_source text.toList (n + 1) n hshort .plain
  have hset : node (level (n + 1)) (bodyWithin (level (n + 1)) n) .plain
      ((setText x y).toList ++ text.toList) = some (setNode x y, text.toList) :=
    node_of_assignTag (assignTag_setText hx hy n text.toList)
  rw [parse_eq_ok_iff, hchars]
  constructor
  · rintro ⟨nodes, hbody, haccepted, rfl⟩
    rw [← hchars, ← hn] at hbody
    have hreads := (rule_source _ (n + 1) n (hn ▸ Nat.lt_succ_self _) .plain).carries.reads
      (List.suffix_refl (setText x y ++ text).toList) (by omega) hbody
    rw [hchars] at hreads
    -- the tag is the first node, and the other nodes are those of the text behind it
    generalize (setText x y).toList ++ text.toList = source at hreads hset
    cases hreads with
    | nil hnone => exact absurd (hset.symm.trans hnone) (by simp)
    | @cons _ s' _ a as ha _ hs =>
      obtain ⟨rfl, rfl⟩ : setNode x y = a ∧ text.toList = s' := by
        simpa using hset.symm.trans ha
      exact ⟨_, parse_eq_ok_of_body hshort (m := n + 1) (many_of_reads hs)
        (accepted_setNode.mp haccepted), by rw [trimAll_setNode]⟩
  · rintro ⟨t, ht, rfl⟩
    obtain ⟨nodes, hbody, haccepted, rfl⟩ := parse_eq_ok_iff.mp ht
    have hbody' := bodyWithin_eq_some (Nat.lt_succ_self _) hshort
      (by omega : text.toList.length ≤ n + 1) hbody
    have hreads := hrule.carries.reads (List.suffix_refl _) (by omega) hbody'
    refine ⟨setNode x y :: nodes, ?_, accepted_setNode.mpr haccepted, by rw [trimAll_setNode]⟩
    rw [← hchars, ← hn, hchars]
    exact many_of_reads (.cons hset hpos hreads)

end

/-! ## Loops -/

/-- A loop over what a name means, with a body for the empty array. -/
def forText (x y body otherwise : String) : String :=
  "\x7b% for " ++ x ++ " in " ++ y ++ " %\x7d" ++ body ++ "\x7b% else %\x7d" ++ otherwise ++
    "\x7b% endfor %\x7d"

/-- What the loop is read as. -/
def forNode (x y : String) (body otherwise : List Node) : Node :=
  .loop ⟨false, false⟩ none x (.mk (.path y) false []) body (some otherwise) ⟨false, false⟩

theorem wordTag_else (s : List Char) :
    wordTag "else" (wordText "else" ++ s) = some (⟨false, false⟩, s) :=
  wordTag_wordText (rfl : "else".toList = ['e', 'l', 's', 'e']) rfl s

theorem wordTag_endfor (s : List Char) :
    wordTag "endfor" (wordText "endfor" ++ s) = some (⟨false, false⟩, s) :=
  wordTag_wordText (rfl : "endfor".toList = ['e', 'n', 'd', 'f', 'o', 'r']) rfl s

theorem endsBody_else (s : List Char) : EndsBody (wordText "else" ++ s) :=
  endsBody_of_readsAt (readsAt_wordTag (by decide)) (by decide) (wordTag_else s)

theorem endsBody_endfor (s : List Char) : EndsBody (wordText "endfor" ++ s) :=
  endsBody_of_readsAt (readsAt_wordTag (by decide)) (by decide) (wordTag_endfor s)

theorem startsTag_wordText (w : String) (s : List Char) : startsTag (wordText w ++ s) = true := by
  simp [wordText, startsTag]

section

variable {x y : String} (hx : IsIdentifier x.toList) (hy : IsPlainName y.toList)
include hx hy

theorem loopSection_forText {n : Nat} {body : Setting → Reader (List Node)} {b o : List Char}
    {nodes otherwise : List Node}
    (hbody : body .loop (b ++ (wordText "else" ++ (o ++ wordText "endfor"))) =
      some (nodes, wordText "else" ++ (o ++ wordText "endfor")))
    (hotherwise : body .loop (o ++ wordText "endfor") = some (otherwise, wordText "endfor")) :
    loopSection (level (n + 1)) body ("\x7b%".toList ++ ' ' :: ("for".toList ++ ' ' ::
        (x.toList ++ ' ' :: ("in".toList ++ ' ' :: (y.toList ++ (" %\x7d".toList ++
          (b ++ (wordText "else" ++ (o ++ wordText "endfor"))))))))) =
      some (forNode x y nodes otherwise, []) := by
  have hword : IsIdentifier "for".toList :=
    ⟨'f', ['o', 'r'], by decide, by decide, by simp [isNameChar]⟩
  have hopen := fun r => openWord_blank hword (head?_identifier hx r)
  have hname : ∀ r, name (x.toList ++ ' ' :: r) = some (x.toList, ' ' :: r) := fun r =>
    name_identifier hx (by simp [isNameChar])
  have hkey : ∀ r, exact "," (' ' :: r) = none := fun r => by simp [exact_apply, dropFront?]
  have hin : ∀ r, space (' ' :: ("in".toList ++ r)) = some ((), "in".toList ++ r) := fun r =>
    space_blank (by simp [isSpace])
  have hcontainer : ∀ r, loopContainer (level (n + 1)) (y.toList ++ (" %\x7d".toList ++ r)) =
      some (.mk (.path y) false [], " %\x7d".toList ++ r) := fun r => by
    rw [loopContainer, orElse_apply, sumFiltered_name _ hy (endsTag_blank r), Option.some_or,
      String.ofList_toList]
  have helse := wordTag_else (o ++ wordText "endfor")
  have hend := wordTag_endfor []
  rw [List.append_nil] at hend
  simp only [loopSection, bind_apply, pure_apply, hopen, hname, maybe_apply, hkey, hin,
    exact_append, space_blank (head?_identifier hy.shape _), hcontainer, closeWord_blank, hbody,
    helse, hotherwise, hend, Option.bind_some, Option.bind_none, Option.map_none, Option.none_or,
    Option.map_some, Option.some_or, String.ofList_toList, forNode]

omit hx hy in
/-- What is read by itself is read in a loop, before a tag that ends the body. -/
theorem body_of_parse {text : String} {t : Template} (h : parse text = .ok t)
    (hbrace : text.toList.getLast? ≠ some '\x7b') {n m : Nat} (hn : text.toList.length < n)
    (hm : text.toList.length ≤ m) {r : List Char} (hr : startsTag r = true) (hends : EndsBody r) :
    ∃ nodes, bodyWithin (level n) m .loop (text.toList ++ r) = some (nodes, r) ∧
      t = ⟨Node.trimAll false false nodes⟩ := by
  obtain ⟨nodes, hbody, -, rfl⟩ := parse_eq_ok_iff.mp h
  have hcarries := bodyCarries (.inr ⟨hr, hbrace⟩) (levelTwin (Nat.le_refl _) hn)
    (text.toList.length + 1) m
  have hread := (hcarries .loop).carries (List.suffix_refl _) (by omega) hbody hends
  exact ⟨nodes, hread, rfl⟩

omit hx hy in
/-- Without dashes a template is the row of nodes that it is read as. -/
theorem nodes_of_undashed {nodes : List Node}
    (h : ∀ n ∈ partsAll (Node.trimAll false false nodes), n.dashed = false) :
    Node.trimAll false false nodes = nodes :=
  trimAll_of_undashed (forall_mem_of_trimAll Node.dashed_trim (fun _ _ => rfl) h)

/-- A loop is read as its body and the body for the empty array are read by themselves, if neither
has parts to share. -/
theorem parse_forText {body otherwise : String} {t u : Template} (hbody : parse body = .ok t)
    (hbrace : body.toList.getLast? ≠ some '\x7b') (hother : parse otherwise = .ok u)
    (hbrace' : otherwise.toList.getLast? ≠ some '\x7b')
    (hdash : ∀ n ∈ partsAll u.nodes, n.dashed = false) (ht : Unshared t.nodes)
    (hu : Unshared u.nodes) :
    parse (forText x y body otherwise) = .ok ⟨[forNode x y t.nodes u.nodes]⟩ := by
  obtain ⟨n, hn⟩ : ∃ n, n = (forText x y body otherwise).toList.length := ⟨_, rfl⟩
  have hchars : (forText x y body otherwise).toList = "\x7b%".toList ++ ' ' ::
      ("for".toList ++ ' ' :: (x.toList ++ ' ' :: ("in".toList ++ ' ' :: (y.toList ++
        (" %\x7d".toList ++ (body.toList ++ (wordText "else" ++
          (otherwise.toList ++ wordText "endfor")))))))) := by
    simp [forText, wordText]
  have hlength : body.toList.length < n + 1 ∧ otherwise.toList.length < n + 1 := by
    rw [hchars] at hn
    simp only [List.length_append, List.length_cons] at hn
    omega
  have hendfor := endsBody_endfor []
  have hstart := startsTag_wordText "endfor" []
  rw [List.append_nil] at hendfor hstart
  obtain ⟨nodes, hnodes, rfl⟩ := body_of_parse hbody hbrace hlength.1 (Nat.le_of_lt_succ hlength.1)
    (startsTag_wordText "else" (otherwise.toList ++ wordText "endfor")) (endsBody_else _)
  obtain ⟨others, hothers, rfl⟩ := body_of_parse hother hbrace' hlength.2
    (Nat.le_of_lt_succ hlength.2) hstart hendfor
  rw [nodes_of_undashed hdash] at hu ⊢
  have hloop := loopSection_forText hx hy (n := n) hnodes hothers
  rw [← hchars] at hloop
  have hnode : node (level (n + 1)) (bodyWithin (level (n + 1)) n) .plain
      (forText x y body otherwise).toList = some (forNode x y nodes others, []) :=
    node_of_loopSection hloop
  have htrim : Node.trimAll false false [forNode x y nodes others] =
      [forNode x y (Node.trimAll false false nodes) others] := by
    simp only [forNode, Node.trimAll, Node.trim]
  have hunshared : Unshared [forNode x y nodes others] := by
    have hbodies := List.forall_mem_append.mpr ⟨unshared_of_trimAll ht, hu⟩
    simpa [Unshared, partsAll, forNode, Node.parts, Node.shares] using hbodies
  rw [parse_eq_ok_iff, ← hn]
  refine ⟨[forNode x y nodes others], many_of_reads (.cons hnode ?_ (.nil (node_nil _ _ _))),
    accepted_of_unshared hunshared, ?_⟩
  · rw [hchars]
    simp
  · rw [htrim]

end

end UserConfigs.Template
