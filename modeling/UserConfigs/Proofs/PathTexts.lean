import UserConfigs.Proofs.PathNames
import UserConfigs.Proofs.Twins

/-!
# Paths as they stand in a text

A path is kept as its text, so what is read as a path stands in the text that it is read from
(`pathWithin_spells`). Its front is a name. So an identifier that a path asks for stands in the path
itself (`infix_of_mem_namesWithin`) : names from the brackets are parts of the path, and a name with
brackets taken out of it is no identifier.
-/

namespace UserConfigs.Template

open Reader

/-! ## Readers that keep their text -/

namespace Reader

/-- What two readers read, one after the other. -/
theorem bind_eq_some {α β : Type} {p : Reader α} {f : α → Reader β} {s r : List Char} {b : β}
    (h : (p >>= f) s = some (b, r)) : ∃ a t, p s = some (a, t) ∧ f a t = some (b, r) := by
  rw [bind_apply] at h
  obtain ⟨⟨a, t⟩, ha, hb⟩ := Option.bind_eq_some_iff.mp h
  exact ⟨a, t, ha, hb⟩

/-- The value of the reader is the text that it takes. -/
def Spells (p : Reader (List Char)) : Prop := ∀ ⦃s cs r⦄, p s = some (cs, r) → s = cs ++ r

theorem eq_cons_of_char {P : Char → Bool} {s r : List Char} {c : Char}
    (h : char P s = some (c, r)) : s = c :: r ∧ P c = true := by
  cases s with
  | nil => simp [char] at h
  | cons d s =>
    obtain ⟨hd, rfl, rfl⟩ : P d = true ∧ d = c ∧ s = r := by simpa [char] using h
    exact ⟨rfl, hd⟩

/-- A fixed text is read only where it stands. -/
theorem eq_append_of_exact {w : String} {s r : List Char} (h : exact w s = some ((), r)) :
    s = w.toList ++ r := by
  rw [exact_apply, Option.map_eq_some_iff] at h
  obtain ⟨r', hr, hpair⟩ := h
  obtain rfl : r' = r := (Prod.mk.inj hpair).2
  exact eq_append_of_dropFront? hr

theorem eq_append_of_spelled {α : Type} {w : String} {a b : α} {s r : List Char}
    (h : spelled w a s = some (b, r)) : a = b ∧ s = w.toList ++ r := by
  obtain ⟨⟨⟩, t, hw, h⟩ := bind_eq_some h
  obtain ⟨rfl, rfl⟩ : a = b ∧ t = r := by simpa using h
  exact ⟨rfl, eq_append_of_exact hw⟩

theorem eq_of_gap {s r : List Char} (h : gap s = some ((), r)) : r = s.dropWhile isSpace := by
  simpa [gap_apply, eq_comm] using h

/-- What is read as a gap is blanks. -/
theorem eq_append_of_gap {s r : List Char} (h : gap s = some ((), r)) :
    ∃ blanks, (∀ c ∈ blanks, isSpace c = true) ∧ s = blanks ++ r := by
  refine ⟨s.takeWhile isSpace, fun c hc => List.mem_takeWhile_imp hc, ?_⟩
  rw [eq_of_gap h, List.takeWhile_append_dropWhile]

theorem run_spells (P : Char → Bool) : Spells (run P) := fun s cs r h => by
  obtain ⟨rfl, rfl⟩ : s.takeWhile P = cs ∧ s.dropWhile P = r := by simpa [run] using h
  exact List.takeWhile_append_dropWhile.symm

namespace Spells

variable {p q : Reader (List Char)}

/-- A choice spells what one of the two does. -/
theorem orElse (hp : Spells p) (hq : Spells q) : Spells (p <|> q) := fun s cs r h => by
  rw [orElse_apply] at h
  rcases Option.or_eq_some_iff.mp h with h | ⟨-, h⟩
  · exact hp h
  · exact hq h

/-- A character and the text after it. -/
theorem cons {P : Char → Bool} (hp : Spells p) :
    Spells (do let c ← char P; let cs ← p; pure (c :: cs)) := fun s cs r h => by
  obtain ⟨c, t, hc, h⟩ := bind_eq_some h
  obtain ⟨ds, u, hds, h⟩ := bind_eq_some h
  obtain ⟨rfl, rfl⟩ : c :: ds = cs ∧ u = r := by simpa using h
  rw [(eq_cons_of_char hc).1, hp hds]
  rfl

/-- A repetition spells its pieces in a row. -/
theorem many (hp : Spells p) : Spells (List.flatten <$> many p) := by
  have hrepeated : ∀ (fuel : Nat) {s r : List Char} {ps : List (List Char)},
      repeated p fuel s = some (ps, r) → s = ps.flatten ++ r := by
    intro fuel
    induction fuel with
    | zero =>
      intro s r ps h
      obtain ⟨rfl, rfl⟩ : [] = ps ∧ s = r := by simpa [repeated] using h
      rfl
    | succ fuel ih =>
      intro s r ps h
      rw [repeated, orElse_apply] at h
      rcases Option.or_eq_some_iff.mp h with h | ⟨-, h⟩
      · obtain ⟨c, t, hc, h⟩ := bind_eq_some h
        obtain ⟨cs, u, hcs, h⟩ := bind_eq_some h
        obtain ⟨rfl, rfl⟩ : c :: cs = ps ∧ u = r := by simpa using h
        rw [hp hc, ih hcs]
        simp
      · obtain ⟨rfl, rfl⟩ : [] = ps ∧ s = r := by simpa using h
        rfl
  intro s cs r h
  rw [map_apply, Option.map_eq_some_iff] at h
  obtain ⟨⟨ps, t⟩, hps, hpair⟩ := h
  obtain ⟨rfl, rfl⟩ : ps.flatten = cs ∧ t = r := by simpa using hpair
  exact hrepeated s.length hps

end Spells

theorem run1_spells (P : Char → Bool) : Spells (run1 P) := (run_spells P).cons

theorem name_spells : Spells name := (run_spells isNameChar).cons

/-- Digits spell themselves. -/
theorem natural_spells : Spells natural := by
  refine .orElse (fun s cs r h => ?_) (run_spells Char.isDigit).cons
  obtain ⟨c, t, hc, h⟩ := bind_eq_some h
  obtain ⟨rfl, rfl⟩ : [c] = cs ∧ t = r := by simpa using h
  exact (eq_cons_of_char hc).1

theorem eq_append_of_minus {s r : List Char} {negative : Bool} (h : minus s = some (negative, r)) :
    s = (if negative then ['-'] else []) ++ r := by
  rw [minus, given_apply] at h
  cases he : exact "-" s with
  | none =>
    obtain ⟨rfl, rfl⟩ : false = negative ∧ s = r := by simpa [he] using h
    rfl
  | some x =>
    obtain ⟨⟨⟩, t⟩ := x
    obtain ⟨rfl, rfl⟩ : true = negative ∧ t = r := by simpa [he] using h
    exact eq_append_of_exact he

end Reader

/-- A text in quotes ends at the next quote of its kind. -/
theorem eq_of_quotedText {s body r : List Char} {q : Char}
    (h : quotedText s = some ((q, body), r)) :
    isQuote q = true ∧ q ∉ body ∧ s = q :: (body ++ q :: r) := by
  obtain ⟨c, t, hc, h⟩ := bind_eq_some h
  obtain ⟨cs, u, hcs, h⟩ := bind_eq_some h
  obtain ⟨d, v, hd, h⟩ := bind_eq_some h
  obtain ⟨⟨rfl, rfl⟩, rfl⟩ : (c = q ∧ cs = body) ∧ v = r := by simpa using h
  obtain ⟨rfl, hquote⟩ := eq_cons_of_char hc
  obtain ⟨hu, hend⟩ := eq_cons_of_char hd
  obtain rfl : d = c := of_decide_eq_true hend
  obtain ⟨rfl, -⟩ : t.takeWhile (· ≠ d) = cs ∧ t.dropWhile (· ≠ d) = u := by
    simpa [run] using hcs
  refine ⟨by simpa [isQuote] using hquote, fun h => ?_, ?_⟩
  · have := List.mem_takeWhile_imp h
    simp at this
  · have ht := run_spells _ hcs
    rw [hu] at ht
    exact congrArg (d :: ·) ht

theorem wholeText_spells : Spells wholeText := fun s cs r h => by
  obtain ⟨negative, t, hn, h⟩ := bind_eq_some h
  obtain ⟨digits, u, hd, h⟩ := bind_eq_some h
  obtain ⟨rfl, rfl⟩ : (if negative then '-' :: digits else digits) = cs ∧ u = r := by
    simpa using h
  rw [eq_append_of_minus hn, natural_spells hd]
  cases negative <;> rfl

theorem dotPart_spells : Spells dotPart := fun s cs r h => by
  obtain ⟨⟨⟩, t, he, h⟩ := bind_eq_some h
  obtain ⟨ds, u, hds, h⟩ := bind_eq_some h
  obtain ⟨rfl, rfl⟩ : '.' :: ds = cs ∧ u = r := by simpa using h
  rw [eq_append_of_exact he, run1_spells _ hds]
  rfl

/-- A part in brackets keeps its brackets. -/
theorem bracketPart_spells {inner : Reader (List Char)} (hinner : Spells inner) :
    Spells (bracketPart inner) := fun s cs r h => by
  obtain ⟨⟨⟩, t, hopen, h⟩ := bind_eq_some h
  obtain ⟨ds, u, hds, h⟩ := bind_eq_some h
  obtain ⟨⟨⟩, v, hclose, h⟩ := bind_eq_some h
  obtain ⟨rfl, rfl⟩ : '[' :: ds ++ [']'] = cs ∧ v = r := by simpa using h
  have hspells := wholeText_spells.orElse (.orElse (fun s cs r h => ?_) hinner) hds
  · rw [eq_append_of_exact hopen, hspells, eq_append_of_exact hclose]
    simp
  · obtain ⟨⟨q, body⟩, t, hq, h⟩ := bind_eq_some h
    obtain ⟨rfl, rfl⟩ : q :: body ++ [q] = cs ∧ t = r := by simpa using h
    rw [(eq_of_quotedText hq).2.2]
    simp

/-- A path is kept as its text. -/
theorem pathWithin_spells : ∀ n : Nat, Spells (pathWithin n)
  | 0 => fun _ _ _ h => nomatch h
  | n + 1 => fun s cs r h => by
    have hparts := (dotPart_spells.orElse (bracketPart_spells (pathWithin_spells n))).many
    obtain ⟨root, t, hroot, h⟩ := bind_eq_some h
    obtain ⟨parts, u, hu, h⟩ := bind_eq_some h
    obtain ⟨rfl, rfl⟩ : root ++ parts.flatten = cs ∧ u = r := by simpa using h
    have hflat := @hparts t parts.flatten u (by rw [map_apply, hu]; rfl)
    rw [name_spells hroot, hflat, List.append_assoc]

/-! ## Names in a path -/

/-- A letter or `_`, and then letters, digits and `_`. -/
def IsIdentifier (x : List Char) : Prop :=
  ∃ c cs, x = c :: cs ∧ isNameStart c = true ∧ ∀ d ∈ cs, isNameChar d = true

/-- In the front of the path a bracket closes at most right at the start. -/
def Opens (p : List Char) : Prop := ']' ∉ (front p).tail

/-- The path stands in the source `S`, and no bracket closes in its front. -/
def Occurs (S : List Char) (p : String) : Prop := p.toList <:+: S ∧ Opens p.toList

theorem opens_of_identifier_front {p : List Char} (h : IsIdentifier (front p)) : Opens p := by
  obtain ⟨c, cs, hfront, -, hcs⟩ := h
  intro hmem
  rw [hfront] at hmem
  simpa [isNameChar] using hcs _ hmem

/-- A character after a text that has one already. -/
theorem Opens.snoc {text : List Char} (h : Opens text) (hne : text ≠ []) {c : Char}
    (hc : c = ']' → '[' ∈ text) : Opens (text ++ [c]) := by
  unfold Opens front at h ⊢
  rw [List.takeWhile_append]
  split
  · next hall =>
    have hself : text.takeWhile (fun c => decide (c ≠ '.' ∧ c ≠ '[')) = text :=
      (List.takeWhile_prefix _).eq_of_length hall
    rw [hself] at h
    have hopen : '[' ∉ text := fun hmem =>
      (notMem_front text).2 (show '[' ∈ List.takeWhile _ text by rwa [hself])
    have hclose : c ≠ ']' := fun h => hopen (hc h)
    rw [List.tail_append_of_ne_nil hne, List.mem_append, not_or]
    refine ⟨h, fun hmem => ?_⟩
    have := (List.takeWhile_prefix _).subset hmem
    exact hclose (List.mem_singleton.mp this).symm
  · exact h

/-- What is passed of the bracket that is open. -/
def BracketState.passed : BracketState → List Char
  | .inside _ text => text
  | .outside | .opened => []

/-- A bracket closes inside the bracket that is open only if it opened there. -/
def BracketState.Sound : BracketState → Prop
  | .inside depth text => text ≠ [] ∧ Opens text ∧ (0 < depth → '[' ∈ text)
  | .outside | .opened => True

/-- The texts in brackets are parts of the path. -/
theorem infix_of_mem_bracketsFrom {whole inner : List Char} : ∀ {s : List Char}
    (st : BracketState), st.Sound → st.passed ++ s <:+: whole → inner ∈ bracketsFrom st s →
      inner <:+: whole ∧ Opens inner
  | [], st, _, _, h => by cases st <;> simp [bracketsFrom] at h
  | c :: s, .outside, _, hs, h => by
    have hrest : s <:+: whole := (List.suffix_cons c s).isInfix.trans hs
    rw [bracketsFrom] at h
    split at h
    · exact infix_of_mem_bracketsFrom .opened trivial hrest h
    · exact infix_of_mem_bracketsFrom .outside trivial hrest h
  | c :: s, .opened, _, hs, h => by
    have hrest : s <:+: whole := (List.suffix_cons c s).isInfix.trans hs
    have hopens : Opens [c] := by
      unfold Opens front
      by_cases hc : c ≠ '.' ∧ c ≠ '[' <;> simp [hc]
    rw [bracketsFrom] at h
    split at h
    · exact infix_of_mem_bracketsFrom .outside trivial hrest h
    · exact infix_of_mem_bracketsFrom (.inside 0 [c])
        ⟨List.cons_ne_nil c [], hopens, fun hlt => absurd hlt (Nat.lt_irrefl 0)⟩ hs h
  | c :: s, .inside depth text, ⟨hne, hopens, hdepth⟩, hs, h => by
    have hrest : s <:+: whole :=
      ((List.suffix_cons c s).trans (List.suffix_append text _)).isInfix.trans hs
    have hmore : text ++ [c] ++ s <:+: whole := by simpa [BracketState.passed] using hs
    have htext : text <:+: whole := (List.prefix_append text (c :: s)).isInfix.trans hs
    have hnext : ∀ {depth' : Nat}, (c = ']' → '[' ∈ text) → (0 < depth' → '[' ∈ text ++ [c]) →
        inner ∈ bracketsFrom (.inside depth' (text ++ [c])) s → inner <:+: whole ∧ Opens inner :=
      fun hc hdepth' h => infix_of_mem_bracketsFrom (.inside _ (text ++ [c]))
        ⟨by simp, hopens.snoc hne hc, hdepth'⟩ hmore h
    unfold bracketsFrom at h
    split at h
    · split at h
      · rcases List.mem_append.mp h with h | h
        · split at h
          · simp at h
          · rw [List.mem_singleton.mp h]
            exact ⟨htext, hopens⟩
        · exact infix_of_mem_bracketsFrom .outside trivial hrest h
      · next d =>
        have hopen : '[' ∈ text := hdepth (Nat.succ_pos d)
        exact hnext (fun _ => hopen) (fun _ => List.mem_append_left [c] hopen) h
    · next hc =>
      refine hnext (fun h => absurd h hc) (fun hlt => ?_) h
      split at hlt
      · next hc => simp [hc]
      · exact List.mem_append_left [c] (hdepth hlt)

/-- What stands in the brackets of a path is a part of that path. -/
theorem infix_of_mem_brackets {p inner : List Char} (h : inner ∈ brackets p) :
    inner <:+: p ∧ Opens inner :=
  infix_of_mem_bracketsFrom .outside trivial (List.infix_refl p) h

/-- Slashes leave a tilde. -/
theorem tilde_mem_replaceAll {s : List Char} (h : '/' ∈ s) :
    '~' ∈ Text.replaceAll ['/'] ['~', '1'] s := by
  obtain ⟨before, after, rfl⟩ := List.append_of_mem h
  rw [Text.replaceAll_append _ (by simp), List.mem_append]
  exact .inr (by simp [Text.replaceAll, Text.replaceFrom])

/-- Without brackets only the slashes are replaced. A bracket right at the start is left out. -/
theorem withoutBrackets_of_notMem {h : List Char} (hopen : '[' ∉ h) (hclose : ']' ∉ h) :
    withoutBrackets h = Text.replaceAll ['/'] ['~', '1'] h ∧
      withoutBrackets (']' :: h) = Text.replaceAll ['/'] ['~', '1'] h := by
  have hnone : ∀ {c : Char}, c ∉ h → c ∉ ['~', '1'] →
      c ∉ Text.replaceAll ['/'] ['~', '1'] h := fun hc hnew hmem =>
    (Text.mem_replaceAll hmem).elim hc hnew
  have hopen' := hnone hopen (by decide)
  have hclose' := hnone hclose (by decide)
  have hstart : Text.replaceAll ['/'] ['~', '1'] (']' :: h) =
      ']' :: Text.replaceAll ['/'] ['~', '1'] h := Text.replaceAll_cons_of_ne (by decide) _ _ _
  unfold withoutBrackets
  simp only [hstart]
  generalize Text.replaceAll ['/'] ['~', '1'] h = g at hopen' hclose' ⊢
  have hopened : '[' ∉ ']' :: g := by simp [hopen']
  constructor
  · rw [Text.replaceAll_of_notMem (a := '[') (by decide) hopen',
      Text.replaceAll_of_notMem (a := '[') (by decide) hopen',
      Text.replaceAll_of_notMem (a := '[') (by decide) hopen',
      Text.replaceAll_of_notMem (a := ']') (by decide) hclose',
      Text.replaceAll_of_notMem (a := ']') (by decide) hclose',
      Text.replaceAll_of_notMem (a := ']') (by decide) hclose']
  · rw [Text.replaceAll_of_notMem (a := '[') (by decide) hopened,
      Text.replaceAll_of_notMem (a := '[') (by decide) hopened,
      Text.replaceAll_of_notMem (a := '[') (by decide) hopened,
      Text.replaceAll_cons_of_ne (by decide),
      Text.replaceAll_of_notMem (a := ']') (by decide) hclose',
      Text.replaceAll_cons_of_ne (by decide),
      Text.replaceAll_of_notMem (a := ']') (by decide) hclose']
    have hgone : Text.replaceAll [']'] [] (']' :: g) = Text.replaceAll [']'] [] g := by
      simp [Text.replaceAll, Text.replaceFrom]
    rw [hgone, Text.replaceAll_of_notMem (a := ']') (by decide) hclose']

/-- An identifier that is left of a front without its brackets stands in the front. -/
theorem infix_of_identifier_front {h : List Char} (hopen : '[' ∉ h) (hclose : ']' ∉ h.tail)
    (hname : IsIdentifier (withoutBrackets h)) : withoutBrackets h <:+: h := by
  -- a slash leaves a sign that no identifier has
  have hslash : ∀ {f : List Char}, IsIdentifier (Text.replaceAll ['/'] ['~', '1'] f) →
      Text.replaceAll ['/'] ['~', '1'] f = f := fun {f} hf => by
    refine Text.replaceAll_of_notMem (a := '/') (by simp) (fun hmem => ?_) _
    obtain ⟨c, cs, heq, hc, hcs⟩ := hf
    have htilde := tilde_mem_replaceAll hmem
    rw [heq] at htilde
    rcases List.mem_cons.mp htilde with rfl | htilde
    · simp [isNameStart] at hc
    · simpa [isNameChar] using hcs _ htilde
  by_cases hmem : ']' ∈ h
  · obtain ⟨f, rfl⟩ : ∃ f, h = ']' :: f := by
      cases h with
      | nil => simp at hmem
      | cons c f => exact ⟨f, by rw [(List.mem_cons.mp hmem).resolve_right hclose]⟩
    rw [(withoutBrackets_of_notMem (fun h => hopen (List.mem_cons_of_mem _ h)) hclose).2] at hname ⊢
    rw [hslash hname]
    exact (List.suffix_cons ']' f).isInfix
  · rw [(withoutBrackets_of_notMem hopen hmem).1] at hname ⊢
    exact ⟨[], [], by simp [hslash hname]⟩

/-- An identifier that a path asks for stands in the path. -/
theorem infix_of_mem_namesWithin {x : String} (hx : IsIdentifier x.toList) :
    ∀ (fuel : Nat) {p : List Char}, Opens p → x ∈ namesWithin fuel p → x.toList <:+: p
  | 0, _, _, h => by simp [namesWithin] at h
  | fuel + 1, p, hp, h => by
    rw [namesWithin] at h
    split at h
    · rcases List.mem_cons.mp h with rfl | h
      · rw [String.toList_ofList] at hx ⊢
        have hfront : front p <:+: p := (List.takeWhile_prefix _).isInfix
        exact (infix_of_identifier_front (notMem_front p).2 hp hx).trans hfront
      · obtain ⟨inner, hinner, hmem⟩ := List.mem_flatMap.mp h
        obtain ⟨hpart, hopens⟩ := infix_of_mem_brackets hinner
        exact (infix_of_mem_namesWithin hx fuel hopens hmem).trans hpart
    · rw [List.mem_singleton.mp h, root_eq, String.toList_ofList]
      exact (List.takeWhile_prefix _).isInfix

end UserConfigs.Template
