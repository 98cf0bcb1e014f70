import Mathlib.Data.List.Dedup
import UserConfigs.Proofs.Filling
import UserConfigs.Proofs.Writes

/-!
# Documents at their sites

A `Site` is where a document can stand : a directory, and the user whose document it is. The text
at a site is fixed by the user, so putting a document at its site (`settle`) twice is putting it
there once, and documents at different sites can be put there in either order, unless one site
lies on the way to the other (`settle_comm`). Where all sites are open (`Site.Open`), none does :
the sites lead through directories, and no directory stands at any of them. So the files
after many documents depend on the sites alone, not on their order, nor on how often each of them
got its document (`settleAll_eq_of_mem_iff`).
-/

namespace UserConfigs

/-! ## Files put into directories -/

namespace Files.Node

/-- The later of two files put under one name stays. -/
theorem alter_insert_insert (x : String) (a b : Node) :
    ∀ (p : List String) (n : Node),
      alter (Fields.insert x a) p (alter (Fields.insert x b) p n) = alter (Fields.insert x a) p n
  | p, file text => by cases p <;> rfl
  | [], dir es => by simp only [alter, Fields.insert_insert]
  | y :: p, dir es => by
    cases h : Fields.get? y es with
    | none => simp only [alter, h]
    | some m =>
      simp only [alter, h, Fields.get?_insert, if_true, Fields.insert_insert,
        alter_insert_insert x a b p m]

/-- Files can be put under two names in either order, if neither name lies on the way to the
other. -/
theorem alter_insert_comm {x y : String} (a b : Node) :
    ∀ {p q : List String} (n : Node), p ++ [x] ≠ q ++ [y] → ¬p ++ [x] <+: q → ¬q ++ [y] <+: p →
      alter (Fields.insert x a) p (alter (Fields.insert y b) q n) =
        alter (Fields.insert y b) q (alter (Fields.insert x a) p n)
  | p, q, file text, _, _, _ => by cases p <;> cases q <;> rfl
  | [], [], dir es, hne, _, _ => by
    have hxy : x ≠ y := by simpa using hne
    simp only [alter, Fields.insert_comm hxy]
  | [], z :: q, dir es, _, hp, _ => by
    have hxz : x ≠ z := by simpa [List.cons_prefix_cons] using hp
    cases h : Fields.get? z es <;>
      simp [alter, h, Fields.get?_insert, hxz.symm, Fields.insert_comm hxz]
  | w :: p, [], dir es, _, _, hq => by
    have hyw : y ≠ w := by simpa [List.cons_prefix_cons] using hq
    cases h : Fields.get? w es <;>
      simp [alter, h, Fields.get?_insert, hyw.symm, Fields.insert_comm hyw]
  | w :: p, z :: q, dir es, hne, hp, hq => by
    by_cases hwz : w = z
    · subst hwz
      have ih : ∀ m, alter (Fields.insert x a) p (alter (Fields.insert y b) q m) =
          alter (Fields.insert y b) q (alter (Fields.insert x a) p m) := fun m =>
        alter_insert_comm a b m (by simpa using hne) (by simpa [List.cons_prefix_cons] using hp)
          (by simpa [List.cons_prefix_cons] using hq)
      cases h : Fields.get? w es <;>
        simp [alter, h, Fields.get?_insert, Fields.insert_insert, ih]
    · cases hw : Fields.get? w es <;> cases hz : Fields.get? z es <;>
        simp [alter, hw, hz, Fields.get?_insert, hwz, Ne.symm hwz, Fields.insert_comm hwz]

/-- On the way to a directory there are directories. -/
theorem look?_dir_of_append {n : Node} {p names : List String}
    (h : n.look? (p ++ names) = some .dir) : n.look? p = some .dir := by
  obtain ⟨es, hes⟩ := look?_eq_dir_iff.mp h
  rw [at?_append] at hes
  cases hp : n.at? p with
  | none => simp [hp] at hes
  | some m =>
    cases m with
    | dir sub => simp [look?, hp, entry]
    | file text =>
      cases names with
      | nil => simp [hp] at hes
      | cons x names => simp [hp, at?, entries, Fields.get?] at hes

end Files.Node

/-! ## Rows of steps -/

section Steps

variable {α β : Type} {step : β → α → β} {P : α → Prop}
  (htwice : ∀ b x, step (step b x) x = step b x)
  (hcomm : ∀ x y, P x → P y → ∀ b, step (step b x) y = step (step b y) x)

include htwice hcomm

/-- A step that the row has anyway can be left out before it. -/
theorem foldl_step_of_mem {x : α} (hx : P x) :
    ∀ {l : List α}, (∀ y ∈ l, P y) → x ∈ l → ∀ b, l.foldl step (step b x) = l.foldl step b
  | y :: l, hl, hmem, b => by
    obtain ⟨hy, hl⟩ := List.forall_mem_cons.mp hl
    by_cases hxy : x = y
    · rw [hxy, List.foldl_cons, List.foldl_cons, htwice]
    · have hmem : x ∈ l := (List.mem_cons.mp hmem).resolve_left hxy
      rw [List.foldl_cons, List.foldl_cons, hcomm x y hx hy, foldl_step_of_mem hx hl hmem]

theorem foldl_step_dedup [DecidableEq α] :
    ∀ {l : List α}, (∀ x ∈ l, P x) → ∀ b, l.dedup.foldl step b = l.foldl step b
  | [], _, _ => rfl
  | x :: l, hl, b => by
    obtain ⟨hx, hl⟩ := List.forall_mem_cons.mp hl
    by_cases hmem : x ∈ l
    · rw [List.dedup_cons_of_mem hmem, List.foldl_cons, foldl_step_dedup hl,
        foldl_step_of_mem htwice hcomm hx hl hmem]
    · rw [List.dedup_cons_of_notMem hmem, List.foldl_cons, List.foldl_cons, foldl_step_dedup hl]

/-- What steps lead to depends on which steps there are, not on their order or number. -/
theorem foldl_step_eq_of_mem_iff {l l' : List α} (hl : ∀ x ∈ l, P x)
    (hmem : ∀ x, x ∈ l' ↔ x ∈ l) (b : β) : l'.foldl step b = l.foldl step b := by
  classical
  have hl' : ∀ x ∈ l', P x := fun x hx => hl x ((hmem x).mp hx)
  have hperm : l'.dedup.Perm l.dedup := by
    refine (List.perm_ext_iff_of_nodup (List.nodup_dedup l') (List.nodup_dedup l)).mpr fun x => ?_
    rw [List.mem_dedup, List.mem_dedup, hmem]
  calc l'.foldl step b = l'.dedup.foldl step b := (foldl_step_dedup htwice hcomm hl' b).symm
    _ = l.dedup.foldl step b := by
      refine hperm.foldl_eq' (fun x hx y hy b => ?_) b
      exact hcomm x y (hl' x (List.mem_dedup.mp hx)) (hl' y (List.mem_dedup.mp hy)) b
    _ = l.foldl step b := foldl_step_dedup htwice hcomm hl b

end Steps

/-! ## Sites -/

namespace Emit

open Files (Put SameDirs)
open Document (fill fileName fileName_inj isName_fileName)

/-- Where a document can stand : in a directory, under the name for a user. -/
structure Site where
  folder : List String
  user : Uid
  deriving DecidableEq

namespace Site

/-- The names from the root to the document. -/
def place (s : Site) : List String := s.folder ++ [fileName s.user]

theorem place_inj {s t : Site} : s.place = t.place ↔ s = t := by
  refine ⟨fun h => ?_, congrArg place⟩
  obtain ⟨hfolder, hname⟩ := List.append_inj' h rfl
  obtain ⟨folder, user⟩ := s
  obtain ⟨folder', user'⟩ := t
  rw [Site.mk.injEq]
  exact ⟨hfolder, fileName_inj.mp (List.singleton_inj.mp hname)⟩

/-- The document can be put at the site. -/
structure Open (f : Files) (s : Site) : Prop where
  folder : f.root.look? s.folder = some .dir
  place : f.root.look? s.place ≠ some .dir

end Site

/-- The files with the document at its site. -/
def settle (f : Files) (s : Site) : Files :=
  f.alter s.folder (Fields.insert (fileName s.user) (.file (fill s.user.decimal)))

/-- The files with the documents at their sites, put there in turn. -/
def settleAll (f : Files) (sites : List Site) : Files := sites.foldl settle f

theorem settle_twice (f : Files) (s : Site) : settle (settle f s) s = settle f s := by
  simp only [settle, Files.alter, Files.Node.alter_insert_insert]

/-- An open site does not lie on the way to another one. -/
theorem Site.Open.not_prefix {f : Files} {s t : Site} (hs : s.Open f) (ht : t.Open f) :
    ¬s.place <+: t.folder := by
  rintro ⟨names, hnames⟩
  have hfolder := ht.folder
  rw [← hnames] at hfolder
  exact hs.place (Files.Node.look?_dir_of_append hfolder)

/-- Documents can be put at open sites in either order. -/
theorem settle_comm {f : Files} {s t : Site} (hs : s.Open f) (ht : t.Open f) (g : Files) :
    settle (settle g s) t = settle (settle g t) s := by
  by_cases hst : s = t
  · rw [hst]
  have hplace : t.place ≠ s.place := fun h => hst (Site.place_inj.mp h.symm)
  simp only [settle, Files.alter]
  rw [Files.Node.alter_insert_comm _ _ _ hplace (ht.not_prefix hs) (hs.not_prefix ht)]

/-- What documents at open sites lead to depends on which sites these are. -/
theorem settleAll_eq_of_mem_iff {f : Files} {sites sites' : List Site}
    (hopen : ∀ s ∈ sites, s.Open f) (hmem : ∀ s, s ∈ sites' ↔ s ∈ sites) (g : Files) :
    settleAll g sites' = settleAll g sites :=
  foldl_step_eq_of_mem_iff settle_twice (fun _ _ => settle_comm) hopen hmem g

theorem settleAll_append (f : Files) (sites sites' : List Site) :
    settleAll f (sites ++ sites') = settleAll (settleAll f sites) sites' :=
  List.foldl_append

/-- The working directory does not matter. -/
theorem settleAll_cwd (cwd : List String) : ∀ (sites : List Site) (f : Files),
    settleAll { f with cwd } sites = { settleAll f sites with cwd }
  | [], _ => rfl
  | s :: sites, f => settleAll_cwd cwd sites (settle f s)

/-- A document at an open site is the one entry that changes. -/
theorem Site.Open.put {f : Files} {s : Site} (hs : s.Open f) :
    f.Put s.place (fill s.user.decimal) (settle f s) := by
  obtain ⟨es, hes⟩ := Files.Node.look?_eq_dir_iff.mp hs.folder
  exact Files.put_alter _ hes hs.place

theorem Site.Open.of_sameDirs {f g : Files} (h : f.SameDirs g) {s : Site} (hs : s.Open f) :
    s.Open g :=
  ⟨(h.isDir_iff _).mpr hs.folder, mt (h.isDir_iff _).mp hs.place⟩

theorem sameDirs_settleAll {f : Files} : ∀ {sites : List Site}, (∀ s ∈ sites, s.Open f) →
    f.SameDirs (settleAll f sites)
  | [], _ => .refl f
  | s :: sites, hopen => by
    obtain ⟨hs, hopen⟩ := List.forall_mem_cons.mp hopen
    have hsame : f.SameDirs (settle f s) := hs.put.sameDirs
    exact hsame.trans (sameDirs_settleAll fun t ht => (hopen t ht).of_sameDirs hsame)

end Emit

end UserConfigs
