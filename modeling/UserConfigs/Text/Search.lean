/-!
# Finding and replacing

`occurs` tells whether a text occurs in another, `splitAt?` cuts a text at the first
occurrence, and `replaceAll` replaces all occurrences, from left to right without overlap.
`pieces` cuts a text at every occurrence of a character; put together with the character
between them the pieces are the text again (`intercalate_pieces`), and the pieces on the two sides
of an occurrence do not depend on each other (`pieces_append_cons`). Texts without the character
are the pieces of the text that is put together from them (`pieces_intercalate`).
-/

namespace UserConfigs.Text

/-- `w` occurs in the text. -/
def occurs (w : List Char) : List Char → Bool
  | [] => w.isEmpty
  | c :: s => w.isPrefixOf (c :: s) || occurs w s

/-- What stands before and after the first occurrence of `w`. -/
def splitAt? (w : List Char) : List Char → Option (List Char × List Char)
  | [] => if w.isEmpty then some ([], []) else none
  | c :: s =>
    if w.isPrefixOf (c :: s) then some ([], (c :: s).drop w.length)
    else (splitAt? w s).map fun r => (c :: r.1, r.2)

/-- Replace the occurrences of `w` after the next `skip` characters, which are dropped. -/
def replaceFrom (w new : List Char) : Nat → List Char → List Char
  | _, [] => if w.isEmpty then new else []
  | skip + 1, _ :: s => replaceFrom w new skip s
  | 0, c :: s =>
    if w.isPrefixOf (c :: s) then
      match w with
      | [] => new ++ c :: replaceFrom w new 0 s
      | _ :: v => new ++ replaceFrom w new v.length s
    else c :: replaceFrom w new 0 s

/-- Replace all occurrences of `w`. The empty text occurs between all characters and at both
ends. -/
def replaceAll (w new s : List Char) : List Char := replaceFrom w new 0 s

/-- The pieces of a text between the occurrences of a character. -/
def pieces (sep : Char) : List Char → List (List Char)
  | [] => [[]]
  | c :: s =>
    if c = sep then [] :: pieces sep s
    else
      match pieces sep s with
      | [] => [[c]]
      | p :: ps => (c :: p) :: ps

theorem pieces_ne_nil (sep : Char) (s : List Char) : pieces sep s ≠ [] := by
  cases s with
  | nil => simp [pieces]
  | cons c s =>
    unfold pieces
    split
    · simp
    · split <;> simp

theorem intercalate_pieces (sep : Char) (s : List Char) :
    [sep].intercalate (pieces sep s) = s := by
  induction s with
  | nil => rfl
  | cons c s ih =>
    obtain ⟨p, ps, h⟩ := List.exists_cons_of_ne_nil (pieces_ne_nil sep s)
    rw [h] at ih
    by_cases hc : c = sep
    · subst hc
      simp [pieces, h, List.intercalate] at ih ⊢
      exact ih
    · simp only [pieces, hc, if_false, h]
      cases ps with
      | nil => simpa [List.intercalate] using ih
      | cons q qs => simpa [List.intercalate, List.intersperse] using ih

theorem pieces_append_cons (sep : Char) (s t : List Char) :
    pieces sep (s ++ sep :: t) = pieces sep s ++ pieces sep t := by
  induction s with
  | nil => simp [pieces]
  | cons c s ih =>
    obtain ⟨p, ps, hp⟩ := List.exists_cons_of_ne_nil (pieces_ne_nil sep s)
    by_cases hc : c = sep
    · simp [pieces, hc, ih]
    · simp [pieces, hc, ih, hp]

theorem pieces_of_notMem {sep : Char} {s : List Char} (h : sep ∉ s) : pieces sep s = [s] := by
  induction s with
  | nil => rfl
  | cons c s ih =>
    obtain ⟨hc, hs⟩ := List.ne_and_not_mem_of_not_mem_cons h
    simp [pieces, ih hs, hc.symm]

theorem pieces_intercalate {sep : Char} : ∀ {l : List (List Char)}, l ≠ [] → (∀ p ∈ l, sep ∉ p) →
    pieces sep ([sep].intercalate l) = l
  | [p], _, h => by
    rw [List.intercalate_singleton, pieces_of_notMem (h p List.mem_cons_self)]
  | p :: q :: l, _, h => by
    obtain ⟨hp, hl⟩ := List.forall_mem_cons.mp h
    rw [List.intercalate_cons_cons, List.append_assoc, List.singleton_append, pieces_append_cons,
      pieces_of_notMem hp, pieces_intercalate (List.cons_ne_nil q l) hl, List.singleton_append]

end UserConfigs.Text
