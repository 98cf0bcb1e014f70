import Mathlib.Data.List.DropRight
import UserConfigs.Template.Scope

/-!
# The names that a path asks for

A path is looked up by its root, the name that stands before its first point (`root`). A path with
brackets gets its points only when the brackets are resolved, but the root is settled before that :
it is what stands in front of the first point or bracket (`root_withoutBrackets`), and the values
that are put in the brackets stand behind it (`Forks.putIndices`). So the names that a path asks for
are known from its text alone (`pathNames`), and scopes that agree on them read the same at the path
(`Scope.read_congr`).

What stands in brackets is read as a path too, unless it is quoted or a number that can be an index.
So a negative number in brackets is a name, as is a number with more than 64 bits.
-/

namespace UserConfigs

namespace Text

/-! ## Replacing -/

theorem prefix_of_prefix_append {v h t : List Char} {d : Char} (hd : d ∉ v)
    (hv : v <+: h ++ d :: t) : v <+: h := by
  rcases List.prefix_or_prefix_of_prefix hv (List.prefix_append h (d :: t)) with hle | ⟨u, rfl⟩
  · exact hle
  · rw [List.prefix_append_right_inj] at hv
    cases u with
    | nil => simp
    | cons c u =>
      obtain ⟨rfl, -⟩ := List.cons_prefix_cons.mp hv
      simp at hd

/-- A text is replaced on both sides of a character by itself, if the text cannot go over it. -/
theorem replaceFrom_append {a d : Char} {v : List Char} (new : List Char) (hd : d ∉ v)
    (t : List Char) : ∀ (h : List Char) (skip : Nat), skip ≤ h.length →
      replaceFrom (a :: v) new skip (h ++ d :: t) =
        replaceFrom (a :: v) new skip h ++ replaceAll (a :: v) new (d :: t)
  | [], 0, _ => rfl
  | c :: h, skip + 1, hskip => by
    rw [List.cons_append, replaceFrom, replaceFrom,
      replaceFrom_append new hd t h skip (Nat.le_of_succ_le_succ hskip)]
  | c :: h, 0, _ => by
    have hstart : (a :: v).isPrefixOf (c :: (h ++ d :: t)) = (a :: v).isPrefixOf (c :: h) := by
      rw [Bool.eq_iff_iff, List.isPrefixOf_iff_prefix, List.isPrefixOf_iff_prefix,
        List.cons_prefix_cons, List.cons_prefix_cons]
      exact and_congr_right fun _ =>
        ⟨prefix_of_prefix_append hd, fun hv => hv.trans (List.prefix_append h _)⟩
    rw [List.cons_append, replaceFrom, replaceFrom, hstart]
    split
    · next hp =>
      have hlength : v.length ≤ h.length := by
        rw [List.isPrefixOf_iff_prefix, List.cons_prefix_cons] at hp
        exact hp.2.length_le
      simp only [replaceFrom_append new hd t h v.length hlength, List.append_assoc]
    · rw [replaceFrom_append new hd t h 0 (Nat.zero_le _), List.cons_append]

theorem replaceAll_append {a d : Char} {v : List Char} (new : List Char) (hd : d ∉ v)
    (h t : List Char) :
    replaceAll (a :: v) new (h ++ d :: t) =
      replaceAll (a :: v) new h ++ replaceAll (a :: v) new (d :: t) :=
  replaceFrom_append new hd t h 0 (Nat.zero_le _)

/-- The text does not start here. -/
theorem replaceAll_cons_of_ne {a c : Char} (h : a ≠ c) (v new s : List Char) :
    replaceAll (a :: v) new (c :: s) = c :: replaceAll (a :: v) new s := by
  simp [replaceAll, replaceFrom, h]

/-- Where the text starts, what replaces it starts too. -/
theorem replaceAll_cons (a c b : Char) (v new s : List Char) :
    ∃ t, replaceAll (a :: v) (b :: new) (c :: s) = c :: t ∨
      c = a ∧ replaceAll (a :: v) (b :: new) (c :: s) = b :: t := by
  unfold replaceAll replaceFrom
  split
  · next h =>
    rw [List.isPrefixOf_iff_prefix, List.cons_prefix_cons] at h
    exact ⟨_, .inr ⟨h.1.symm, rfl⟩⟩
  · exact ⟨_, .inl rfl⟩

theorem replaceFrom_of_notMem {a : Char} {w : List Char} (ha : a ∈ w) (new : List Char) :
    ∀ {s : List Char}, a ∉ s → replaceFrom w new 0 s = s
  | [], _ => by
    cases w with
    | nil => simp at ha
    | cons c w => rfl
  | c :: s, hs => by
    have hstart : w.isPrefixOf (c :: s) = false := by
      rw [Bool.eq_false_iff, ne_eq, List.isPrefixOf_iff_prefix]
      exact fun h => hs (h.subset ha)
    unfold replaceFrom
    rw [hstart, if_neg (by simp),
      replaceFrom_of_notMem ha new fun h => hs (List.mem_cons_of_mem c h)]

/-- A text with a character that does not occur is not replaced. -/
theorem replaceAll_of_notMem {a : Char} {w s : List Char} (ha : a ∈ w) (hs : a ∉ s)
    (new : List Char) : replaceAll w new s = s :=
  replaceFrom_of_notMem ha new hs

theorem mem_replaceFrom {w new : List Char} {c : Char} : ∀ {skip : Nat} {s : List Char},
    c ∈ replaceFrom w new skip s → c ∈ s ∨ c ∈ new
  | _, [], h => by
    unfold replaceFrom at h
    split at h
    · exact .inr h
    · simp at h
  | skip + 1, d :: s, h => by
    have hskip : c ∈ replaceFrom w new skip s := h
    exact (mem_replaceFrom hskip).imp_left (List.mem_cons_of_mem d)
  | 0, d :: s, h => by
    have hrest : ∀ {skip}, c ∈ replaceFrom w new skip s → c ∈ d :: s ∨ c ∈ new := fun h =>
      (mem_replaceFrom h).imp_left (List.mem_cons_of_mem d)
    have hcons : ∀ {skip}, c ∈ d :: replaceFrom w new skip s → c ∈ d :: s ∨ c ∈ new := fun h =>
      (List.mem_cons.mp h).elim (fun h => .inl (h ▸ List.mem_cons_self)) hrest
    unfold replaceFrom at h
    split at h
    · cases w with
      | nil => exact (List.mem_append.mp h).elim .inr hcons
      | cons a v => exact (List.mem_append.mp h).elim .inr hrest
    · exact hcons h

theorem mem_replaceAll {w new s : List Char} {c : Char} (h : c ∈ replaceAll w new s) :
    c ∈ s ∨ c ∈ new :=
  mem_replaceFrom h

/-- A character that is replaced everywhere is gone. -/
theorem notMem_replaceAll_singleton {a : Char} {new : List Char} (ha : a ∉ new) :
    ∀ s : List Char, a ∉ replaceAll [a] new s
  | [] => by simp [replaceAll, replaceFrom]
  | c :: s => by
    have ih : a ∉ replaceFrom [a] new 0 s := notMem_replaceAll_singleton ha s
    unfold replaceAll replaceFrom
    split
    · simp [ha, ih]
    · next h =>
      have hc : a ≠ c := by simpa using h
      simp [hc, ih]

/-- The two sides of an occurrence. -/
theorem eq_append_of_splitAt? {w : List Char} : ∀ {s before after : List Char},
    splitAt? w s = some (before, after) → s = before ++ w ++ after
  | [], before, after, h => by
    unfold splitAt? at h
    split at h
    · next hw =>
      obtain ⟨rfl, rfl⟩ : [] = before ∧ [] = after := by simpa using h
      simpa using hw.symm
    · simp at h
  | c :: s, before, after, h => by
    unfold splitAt? at h
    split at h
    · next hw =>
      obtain ⟨rfl, rfl⟩ : [] = before ∧ (c :: s).drop w.length = after := by simpa using h
      obtain ⟨t, ht⟩ := List.isPrefixOf_iff_prefix.mp hw
      rw [← ht]
      simp
    · obtain ⟨r, hr, heq⟩ := Option.map_eq_some_iff.mp h
      obtain ⟨rfl, rfl⟩ : c :: r.1 = before ∧ r.2 = after := by simpa using heq
      rw [eq_append_of_splitAt? hr]
      simp

end Text

namespace Template

/-! ## Roots -/

/-- The name that a path without brackets starts from. -/
def root (p : List Char) : String := (splitPath p).1

theorem root_eq (p : List Char) : root p = String.ofList (p.takeWhile (· ≠ '.')) := by
  have hsplit := List.takeWhile_append_dropWhile (p := (· ≠ '.')) (l := p)
  unfold root splitPath
  split
  · next h =>
    rw [h, List.append_nil] at hsplit
    rw [hsplit]
  · rfl

/-- The front of a path, up to its first point or bracket. -/
def front (p : List Char) : List Char := p.takeWhile fun c => c ≠ '.' ∧ c ≠ '['

/-- A point or a bracket stands behind the front `h`. -/
def Forks (p h : List Char) : Prop := ∃ d t, p = h ++ d :: t ∧ (d = '.' ∨ d = '[')

theorem notMem_front (p : List Char) : '.' ∉ front p ∧ '[' ∉ front p := by
  constructor <;>
  · intro h
    have := List.mem_takeWhile_imp h
    simp at this

theorem forks_front {p : List Char} (h : '[' ∈ p) : Forks p (front p) := by
  have hsplit := List.takeWhile_append_dropWhile (p := fun c => decide (c ≠ '.' ∧ c ≠ '[')) (l := p)
  cases hd : p.dropWhile fun c => decide (c ≠ '.' ∧ c ≠ '[') with
  | nil =>
    rw [hd, List.append_nil] at hsplit
    have hfront : front p = p := hsplit
    exact absurd (hfront.symm ▸ h) (notMem_front p).2
  | cons d t =>
    refine ⟨d, t, by rw [← hd]; exact hsplit.symm, ?_⟩
    have hnot := List.head?_dropWhile_not (fun c => decide (c ≠ '.' ∧ c ≠ '[')) p
    rw [hd] at hnot
    simp only [List.head?_cons, decide_eq_false_iff_not, not_and_or, not_not] at hnot
    exact hnot

namespace Forks

variable {p h : List Char} (hp : Forks p h)
include hp

/-- An index is put behind the front. -/
theorem putIndex (hh : '[' ∉ h) (inner index : List Char) : Forks (putIndex p inner index) h := by
  obtain ⟨d, t, rfl, hd⟩ := hp
  unfold Template.putIndex
  split
  · next before after hsplit =>
    have happend := Text.eq_append_of_splitAt? hsplit
    rw [List.append_assoc] at happend
    rcases List.append_eq_append_iff.mp happend with ⟨u, rfl, hu⟩ | ⟨u, rfl, hu⟩
    · cases u with
      | nil => exact ⟨'.', index ++ after, by simp, .inl rfl⟩
      | cons c u =>
        obtain ⟨rfl, -⟩ := List.cons.inj hu
        exact ⟨d, u ++ ('.' :: index ++ after), by simp, hd⟩
    · cases u with
      | nil => exact ⟨'.', index ++ after, by simp, .inl rfl⟩
      | cons c u =>
        obtain ⟨rfl, -⟩ := List.cons.inj hu
        simp at hh
  · exact ⟨d, t ++ '.' :: index, by simp, hd⟩

omit hp in
/-- All of them are. -/
theorem putIndices (hh : '[' ∉ h) {read : List Char → Except Fault Value} {whole r : List Char} :
    ∀ {inners : List (List Char)} {p : List Char}, Forks p h →
      Scope.putIndices read whole inners p = .ok r → Forks r h
  | [], p, hp, hr => Except.ok.inj hr ▸ hp
  | inner :: inners, p, hp, hr => by
    unfold Scope.putIndices at hr
    split at hr
    · simp at hr
    · split at hr
      · simp at hr
      · exact putIndices hh (hp.putIndex hh inner _) hr

/-- The front and the rest are replaced by themselves, and a point stays a point. -/
theorem replaceAll {a b : Char} {v : List Char} (new : List Char) (hv : '.' ∉ v ∧ '[' ∉ v)
    (ha : a ≠ '.') (hnew : a = '[' → b = '.') :
    Forks (Text.replaceAll (a :: v) (b :: new) p) (Text.replaceAll (a :: v) (b :: new) h) := by
  obtain ⟨d, t, rfl, hd⟩ := hp
  have hdv : d ∉ v := by
    rcases hd with rfl | rfl
    · exact hv.1
    · exact hv.2
  rw [Text.replaceAll_append _ hdv]
  obtain ⟨u, hu | ⟨rfl, hu⟩⟩ := Text.replaceAll_cons a d b v new t
  · exact ⟨d, u, by rw [hu], hd⟩
  · exact ⟨b, u, by rw [hu], hd.elim (fun h => absurd h ha) fun h => .inl (hnew h)⟩

end Forks

/-- The front has no brackets that could turn into points. -/
theorem notMem_withoutBrackets {h : List Char} (hh : '.' ∉ h ∧ '[' ∉ h) :
    '.' ∉ withoutBrackets h := by
  have hkept : ∀ {c : Char} {w new s : List Char}, c ∉ s → c ∉ new →
      c ∉ Text.replaceAll w new s := fun hs hnew hc =>
    (Text.mem_replaceAll hc).elim hs hnew
  have hopen : '[' ∉ Text.replaceAll ['/'] ['~', '1'] h := hkept hh.2 (by decide)
  unfold withoutBrackets
  simp only
  rw [Text.replaceAll_of_notMem (a := '[') (w := ['[', '\x27']) (by decide) hopen,
    Text.replaceAll_of_notMem (a := '[') (w := ['[', '\x22']) (by decide) hopen,
    Text.replaceAll_of_notMem (a := '[') (w := ['[']) (by decide) hopen]
  exact hkept (hkept (hkept (hkept hh.1 (by decide)) (by decide)) (by decide)) (by decide)

/-- Without brackets there is a point behind the front. -/
theorem withoutBrackets_of_forks {p h : List Char} (hp : Forks p h) :
    ∃ t, withoutBrackets p = withoutBrackets h ++ '.' :: t := by
  have hslash := hp.replaceAll (a := '/') (b := '~') (v := []) ['1'] (by simp) (by decide)
    (by decide)
  have hsingle := hslash.replaceAll (a := '[') (b := '.') (v := ['\x27']) ['\x22'] (by decide)
    (by decide) fun _ => rfl
  have hdual := hsingle.replaceAll (a := '[') (b := '.') (v := ['\x22']) ['\x22'] (by decide)
    (by decide) fun _ => rfl
  have hopened := hdual.replaceAll (a := '[') (b := '.') (v := []) [] (by simp) (by decide)
    fun _ => rfl
  -- no bracket opens any more, so a point is what stands behind the front
  obtain ⟨d, t, hpoint, rfl | rfl⟩ := hopened
  · have hkept : ∀ {a : Char} {v : List Char} (new h t : List Char), a ≠ '.' → '.' ∉ v →
        Text.replaceAll (a :: v) new (h ++ '.' :: t) =
          Text.replaceAll (a :: v) new h ++ '.' :: Text.replaceAll (a :: v) new t :=
      fun new h t ha hv => by
        rw [Text.replaceAll_append new hv, Text.replaceAll_cons_of_ne ha]
    unfold withoutBrackets
    simp only
    rw [hpoint, hkept _ _ _ (by decide) (by decide), hkept _ _ _ (by decide) (by decide),
      hkept _ _ _ (by decide) (by decide)]
    exact ⟨_, rfl⟩
  · have hgone := Text.notMem_replaceAll_singleton (by decide : '[' ∉ ['.'])
      (Text.replaceAll ['[', '\x22'] ['.', '\x22'] (Text.replaceAll ['[', '\x27'] ['.', '\x22']
        (Text.replaceAll ['/'] ['~', '1'] p)))
    rw [hpoint] at hgone
    simp at hgone

/-- The front without its brackets is the root of the whole path without its brackets. -/
theorem root_withoutBrackets {p h : List Char} (hp : Forks p h) (hh : '.' ∉ h ∧ '[' ∉ h) :
    root (withoutBrackets p) = String.ofList (withoutBrackets h) := by
  obtain ⟨t, ht⟩ := withoutBrackets_of_forks hp
  have hne : ∀ c ∈ withoutBrackets h, decide (c ≠ '.') = true := fun c hc =>
    decide_eq_true fun hcp => notMem_withoutBrackets hh (hcp ▸ hc)
  rw [root_eq, ht, List.takeWhile_append_of_pos hne]
  simp

/-! ## Names -/

/-- The names that a path asks for, with brackets nested at most `fuel` deep. -/
def namesWithin : Nat → List Char → List String
  | 0, _ => []
  | fuel + 1, p =>
    if '[' ∈ p then
      String.ofList (withoutBrackets (front p)) :: (brackets p).flatMap (namesWithin fuel)
    else [root p]

/-- The names that a path asks for. -/
def pathNames (p : String) : List String := namesWithin (p.toList.length + 1) p.toList

namespace Scope

theorem putIndices_congr {read read' : List Char → Except Fault Value} (whole : List Char) :
    ∀ {inners : List (List Char)} (p : List Char), (∀ inner ∈ inners, read inner = read' inner) →
      putIndices read whole inners p = putIndices read' whole inners p
  | [], _, _ => rfl
  | inner :: inners, p, h => by
    obtain ⟨hinner, hrest⟩ := List.forall_mem_cons.mp h
    simp only [putIndices, hinner, putIndices_congr whole _ hrest]

/-- What is read at a path depends on what the names lead to that it asks for. -/
theorem readWithin_congr {a b : Scope} : ∀ (fuel : Nat) {p : List Char},
    (∀ q, root q ∈ namesWithin fuel p → a.find? q = b.find? q) →
      a.readWithin fuel p = b.readWithin fuel p
  | 0, _, _ => rfl
  | fuel + 1, p, h => by
    unfold readWithin
    unfold namesWithin at h
    split
    · next hp =>
      rw [if_pos hp] at h
      have hindices := putIndices_congr p p fun inner hinner =>
        readWithin_congr fuel fun q hq =>
          h q (List.mem_cons_of_mem _ (List.mem_flatMap.mpr ⟨inner, hinner, hq⟩))
      rw [hindices]
      cases hr : putIndices (b.readWithin fuel) p (brackets p) p with
      | error e => rfl
      | ok r =>
        have hroot := root_withoutBrackets
          ((forks_front hp).putIndices (notMem_front p).2 hr) (notMem_front p)
        have hfind := h (withoutBrackets r) (by rw [hroot]; exact List.mem_cons_self)
        simp only [bind, Except.bind, hfind]
    · next hp =>
      rw [if_neg hp] at h
      rw [h p List.mem_cons_self]

/-- Scopes in which the names lead to the same that a path asks for read the same at the path,
unless it stands for all bindings. -/
theorem read_congr {a b : Scope} {p : String} (hp : p ≠ wholeContext)
    (h : ∀ q, root q ∈ pathNames p → a.find? q = b.find? q) : a.read p = b.read p := by
  rw [read, read, if_neg hp, if_neg hp, readWithin_congr _ h]

end Scope

end Template

end UserConfigs
