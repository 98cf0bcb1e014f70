import UserConfigs.Proofs.ManyRuns

/-!
# A second run after a failed one

A run that stops at a directory leaves documents behind. Once the directory is removed
(`Files.Removed`) a second run has the same outcome, and leaves the same entries, as a first run
would have after the removal (`recovered_as_fresh`). For the documents that were left behind are
written again : whatever could be written before the removal can be written after it
(`done_prefix_of_removed`), and so the second run overwrites all that the first one left.

The removal must not take away the directory of the run. A text of that directory may lead through
what is removed, and then the documents of the first run stay (`stale_of_removed_way`).
-/

namespace UserConfigs

open Files (Path SameDirs)
open Document (fill fileName isName_fileName)

/-! ## What a removal changes -/

namespace Files

/-- The same stands everywhere, and relative paths start at the same place. -/
structure SameEntries (f g : Files) : Prop where
  cwd : g.cwd = f.cwd
  look?_eq : ∀ names, g.root.look? names = f.root.look? names

/-- `g` is `f` without what stood at a place, or below it. -/
structure Removed (f : Files) (place : List String) (g : Files) : Prop where
  cwd : g.cwd = f.cwd
  entry : ∀ names, g.root.look? names =
    if place <+: names then none else f.root.look? names

namespace Node

/-- A name taken away from a directory leads nowhere, and all other names lead where they did. -/
theorem look?_alter_erase (name : String) :
    ∀ {loc : List String} {n : Node} {es : Fields Node}, n.at? loc = some (dir es) →
      ∀ names : List String, (n.alter (Fields.erase name) loc).look? names =
        if loc ++ [name] <+: names then none else n.look? names
  | [], n, es, h, [] => by
    obtain rfl : n = dir es := by simpa using h
    rfl
  | [], n, es, h, x :: names => by
    obtain rfl : n = dir es := by simpa using h
    simp only [alter, look?_cons, Node.entries, Fields.get?_erase, List.nil_append,
      List.cons_prefix_cons, List.nil_prefix, and_true, eq_comm (a := name)]
    by_cases hx : x = name
    · simp [hx]
    · simp [hx]
  | y :: loc, file text, es, h, names => by simp [at?, Node.entries, Fields.get?] at h
  | y :: loc, dir top, es, h, names => by
    cases hy : Fields.get? y top with
    | none => simp [at?, Node.entries, hy] at h
    | some m =>
      have hm : m.at? loc = some (dir es) := by simpa [at?, Node.entries, hy] using h
      simp only [alter, hy]
      cases names with
      | nil => simp [entry]
      | cons x names =>
        simp only [look?_cons, Node.entries, Fields.get?_insert, List.cons_append,
          List.cons_prefix_cons]
        by_cases hx : x = y
        · subst hx
          simp [look?_alter_erase name hm names, hy]
        · simp [hx, Ne.symm hx]

end Node

/-- Removals at one place lead from the same directories to the same directories. -/
theorem Removed.sameDirs {f g f' g' : Files} {place : List String} (hf : f.Removed place f')
    (hg : g.Removed place g') (h : f.SameDirs g) : f'.SameDirs g' := by
  refine ⟨hg.cwd.trans (h.cwd.trans hf.cwd.symm), fun names => ?_⟩
  rw [hf.entry, hg.entry]
  split
  · rfl
  · exact h.isDir_iff names

section

variable {f : Files} {dir name : String} {loc : List String} (hname : Path.IsName name)
include hname

/-- The removal of what has a name in a directory. -/
theorem removed_join (hf : f.folder dir = .ok loc)
    (hs : (Path.join dir name).utf8ByteSize ≤ Path.maxLength)
    (hthere : f.root.look? (loc ++ [name]) ≠ none) :
    ∃ g, f.remove (Path.join dir name) = (g, none) ∧ f.Removed (loc ++ [name]) g := by
  obtain ⟨es, hes, hslot⟩ := slot_join_of_folder hname hf hs
  have hshort : Path.tooLong name = false := hname.short
  refine ⟨f.alter loc (Fields.erase name), ?_, rfl, Node.look?_alter_erase name hes⟩
  rw [Node.look?_append_singleton hes] at hthere
  simp only [remove, hslot, find, hshort, Bool.false_eq_true, if_false]
  cases hg : Fields.get? name es with
  | none => simp [hg] at hthere
  | some m => cases m <;> rfl

end

/-! ## The way to a removed directory -/

theorem walk_append (root : Node) : ∀ (xs ys loc : List String),
    walk root loc (xs ++ ys) = (walk root loc xs).bind fun loc => walk root loc ys
  | [], ys, loc => rfl
  | x :: xs, ys, loc => by
    simp only [List.cons_append, walk]
    split_ifs
    · exact walk_append root xs ys loc
    · exact walk_append root xs ys loc.dropLast
    · rfl
    · split
      · rfl
      · rfl
      · exact walk_append root xs ys (loc ++ [x])

theorem walk_name {root : Node} {loc place : List String} {name : String}
    (hname : Path.IsName name) (h : walk root loc [name] = .ok place) :
    place = loc ++ [name] := by
  rw [walk, if_neg hname.notHere, if_neg hname.notAbove, hname.short] at h
  cases hat : root.at? (loc ++ [name]) with
  | none => simp [hat] at h
  | some m =>
    cases m with
    | file text => simp [hat] at h
    | dir es => simpa [hat, walk, eq_comm] using h

/-- A directory with a name is in a directory. -/
theorem folder_of_folder_join {f : Files} {dir name : String} (hname : Path.IsName name)
    {place : List String} (hp : f.folder (Path.join dir name) = .ok place) :
    (Path.join dir name).utf8ByteSize ≤ Path.maxLength ∧ f.root.look? place = some .dir ∧
      ∃ loc, f.folder dir = .ok loc ∧ place = loc ++ [name] := by
  obtain ⟨hnul, hsize, hwalk, hdir⟩ := folder_eq_ok_iff.mp hp
  obtain ⟨sep, hj, -⟩ := Path.toList_join dir name
  have hnul' : '\x00' ∉ dir.toList := fun h => hnul (by simp [hj, h])
  have hne : Path.join dir name ≠ "" := fun h => by simp [h, hname.nonempty] at hj
  have hparse := parse_eq_ok_iff.mpr ⟨hnul, hne, hsize, rfl⟩
  rw [Path.parse_join dir hname, if_neg hnul', if_neg (Nat.not_lt.mpr hsize)] at hparse
  have hhead : (Path.join dir name).toList.head? = some '/' ↔ dir.toList.head? = some '/' := by
    have := congrArg Path.absolute (Except.ok.inj hparse)
    simpa using this.symm
  have hstart : f.start (Path.join dir name) = f.start dir := by simp only [start, hhead]
  rw [Path.namesOf_join hname, walk_append, hstart] at hwalk
  refine ⟨hsize, hdir, ?_⟩
  cases hloc : walk f.root (f.start dir) (Path.namesOf dir.toList) with
  | error e => simp [hloc, Except.bind] at hwalk
  | ok loc =>
    have hlast : walk f.root loc [name] = .ok place := by simpa [hloc, Except.bind] using hwalk
    obtain rfl := walk_name hname hlast
    have hsize' := Path.size_le_size_join dir name
    have hin := Node.look?_dir_of_append hdir
    exact ⟨loc, folder_eq_ok_iff.mpr ⟨hnul', by omega, hloc, hin⟩, rfl⟩

end Files

namespace Emit

variable {f g : Files} {dir p : String} {loc place : List String} {fault : Files.Fault}

/-! ## The second run -/

/-- What could be written before a removal can be written after it. -/
theorem done_prefix_of_removed (h : f.Removed place g) (hf : f.folder dir = .ok loc)
    (hg : g.folder dir = .ok loc) :
    ∀ users : List Uid, (forecast f dir users).done <+: (forecast g dir users).done
  | [] => List.prefix_refl []
  | u :: users => by
    have hdir : g.root.look? (loc ++ [fileName u]) = some .dir →
        f.root.look? (loc ++ [fileName u]) = some .dir := fun hd => by
      rw [h.entry] at hd
      split at hd
      · simp at hd
      · exact hd
    rw [forecast_of_folder hf, forecast_of_folder hg]
    by_cases hs : Path.maxLength < (pathFor dir u).utf8ByteSize
    · simp [hs]
    by_cases hd : f.root.look? (loc ++ [fileName u]) = some .dir
    · simp [hs, hd]
    · simp only [hs, hd, mt hdir hd, if_false, List.cons_prefix_cons, true_and]
      exact done_prefix_of_removed h hf hg users

/-- A run after a removal overwrites whatever a run before it wrote. -/
theorem sameEntries_of_removed {before after : Files} (hf : f.folder dir = .ok loc)
    (hbefore : f.Removed place before) (hafter : (runOn f dir).2.Removed place after)
    (hdir : before.folder dir = .ok loc) :
    (runOn before dir).2.SameEntries (runOn after dir).2 := by
  have hsame : before.SameDirs after := hbefore.sameDirs hafter (sameDirs_runOn f dir)
  have hwas := wrote_runOn f dir
  have hb := wrote_runOn before dir
  have ha := wrote_runOn after dir
  have hplace : ∀ (u : Uid) (names : List String),
      f.place? (pathFor dir u) = some names ↔ before.place? (pathFor dir u) = some names := by
    simp [place?_pathFor_eq_some_iff, hf, hdir]
  have hplace' : ∀ u : Uid, after.place? (pathFor dir u) = before.place? (pathFor dir u) :=
    fun u => hsame.place?_join (isName_fileName u)
  rw [forecast_of_sameDirs hsame hdir] at ha
  refine ⟨ha.dirs.cwd.trans (hsame.cwd.trans hb.dirs.cwd.symm), fun names => ?_⟩
  by_cases hmem : ∃ u ∈ (forecast before dir uids).done,
      before.place? (pathFor dir u) = some names
  · obtain ⟨u, hu, hn⟩ := hmem
    obtain ⟨n₁, hn₁, hfile₁⟩ := hb.written u hu
    obtain ⟨n₂, hn₂, hfile₂⟩ := ha.written u hu
    obtain rfl : n₁ = names := by simpa [hn₁] using hn
    obtain rfl : n₂ = n₁ := by simpa [hplace', hn₁, eq_comm] using hn₂
    rw [hfile₁, hfile₂]
  · push Not at hmem
    have hout : (runOn f dir).2.root.look? names = f.root.look? names :=
      hwas.others names fun u hu => by
        rw [ne_eq, hplace]
        exact hmem u ((done_prefix_of_removed hbefore hf hdir uids).mem hu)
    rw [hb.others names hmem, ha.others names fun u hu => by rw [hplace']; exact hmem u hu,
      hbefore.entry, hafter.entry, hout]

/-- A run fails at a directory. Once the directory is removed, a second run has the outcome and
leaves the entries that a first run would have after the removal, provided that the removal does
not change which directory the run writes into. -/
theorem recovered_as_fresh (hfail : (runOn f dir).1.result = .error (.write p fault))
    (hdir : (runOn f dir).2.folder p = .ok place)
    (hsame : ((runOn f dir).2.remove p).1.folder dir = (runOn f dir).2.folder dir) :
    ∃ after before, (runOn f dir).2.remove p = (after, none) ∧ f.remove p = (before, none) ∧
      (runOn after dir).1 = (runOn before dir).1 ∧
      (runOn before dir).2.SameEntries (runOn after dir).2 := by
  obtain ⟨u, fault', -, herror⟩ := firstFailure_of_error hfail
  obtain ⟨rfl, -⟩ : p = pathFor dir u ∧ fault = fault' := by simpa using herror
  have hdirs := sameDirs_runOn f dir
  obtain ⟨hsize, hthere, loc, hloc, rfl⟩ := Files.folder_of_folder_join (isName_fileName u) hdir
  have hloc' : f.folder dir = .ok loc := hdirs.folder_eq_ok_iff.mp hloc
  have hthere' : f.root.look? (loc ++ [fileName u]) = some .dir := (hdirs.isDir_iff _).mp hthere
  obtain ⟨after, hafter, hremoved⟩ :=
    Files.removed_join (isName_fileName u) hloc hsize (by simp [hthere])
  obtain ⟨before, hbefore, hremoved'⟩ :=
    Files.removed_join (isName_fileName u) hloc' hsize (by simp [hthere'])
  have hagree : before.SameDirs after := hremoved'.sameDirs hremoved hdirs
  have hway : after.folder dir = .ok loc := by simpa [pathFor, hafter, hloc] using hsame
  have hway' : before.folder dir = .ok loc := hagree.folder_eq_ok_iff.mp hway
  refine ⟨after, before, hafter, hbefore, ?_, sameEntries_of_removed hloc' hremoved' hremoved hway'⟩
  rw [runOn_eq, runOn_eq, forecast_of_sameDirs hagree hway']

/-- Two directories have the names of documents. -/
def obstructed : Files :=
  ⟨.dir [(fileName 3, .dir [("old", .file "x")]), (fileName 5, .dir [])], []⟩

/-- The third document meets a directory. -/
theorem forecast_obstructed (hf : f.folder dir = .ok []) (hsize : dir.utf8ByteSize ≤ 20)
    (hfirst : f.root.look? [fileName 1] ≠ some .dir)
    (hsecond : f.root.look? [fileName 2] ≠ some .dir)
    (htaken : f.root.look? [fileName 3] = some .dir) :
    forecast f dir uids = ⟨[1, 2], some (3, .isDirectory)⟩ := by
  obtain ⟨users, husers⟩ : ∃ users, uids = 1 :: 2 :: 3 :: users := ⟨_, rfl⟩
  have hmax : Path.maxLength = 4095 := rfl
  have hshort : ∀ u : Uid, ¬Path.maxLength < (pathFor dir u).utf8ByteSize := fun u => by
    have hjoin := Path.size_join_le dir (fileName u)
    have hname := Document.utf8ByteSize_fileName_le u
    rw [pathFor]
    omega
  rw [husers]
  simp [forecast_of_folder hf, hshort, hfirst, hsecond, htaken]

theorem result_runOn_obstructed :
    (runOn obstructed ".").1.result = .error (.write (pathFor "." 3) .isDirectory) := by
  rw [runOn_eq, forecast_obstructed rfl (by decide) (by decide) (by decide) rfl]
  rfl

/-- The first directory is removed with what is in it, and the second one stops the second run. -/
theorem recovered_as_fresh_obstructed :
    ∃ after before, (runOn obstructed ".").2.remove (pathFor "." 3) = (after, none) ∧
      obstructed.remove (pathFor "." 3) = (before, none) ∧
      (runOn after ".").1 = (runOn before ".").1 ∧
      (runOn before ".").2.SameEntries (runOn after ".").2 := by
  have hdirs := sameDirs_runOn obstructed "."
  have hfolder : (runOn obstructed ".").2.folder "." = .ok [] :=
    hdirs.folder_eq_ok_iff.mpr rfl
  have hdir : (runOn obstructed ".").2.folder (pathFor "." 3) = .ok [fileName 3] :=
    hdirs.folder_eq_ok_iff.mpr rfl
  refine recovered_as_fresh result_runOn_obstructed hdir ?_
  obtain ⟨hsize, hthere, -⟩ := Files.folder_of_folder_join (isName_fileName 3) hdir
  obtain ⟨after, hafter, hremoved⟩ :=
    Files.removed_join (isName_fileName 3) hfolder hsize (by simp [hthere])
  have hcwd : after.start "." = [] := hremoved.cwd.trans hdirs.cwd
  have hroot : after.root.look? [] = some .dir := by
    rw [hremoved.entry, if_neg (by simp)]
    exact (hdirs.isDir_iff []).mpr rfl
  rw [pathFor, hafter, hfolder]
  refine Files.folder_eq_ok_iff.mpr ⟨by decide, by decide, ?_, hroot⟩
  rw [hcwd]
  rfl

/-- A directory has the name of a document, and the way into the directory above it leads through
that name. -/
def wayThrough : Files := ⟨.dir [(fileName 3, .dir [])], []⟩

theorem runOn_of_removed_way (h : f.Removed [fileName 3] g) (hcwd : f.cwd = []) :
    (runOn g "user_3.yml/..").2 = g := by
  cases hg : g.folder "user_3.yml/.." with
  | error e => exact (runOn_of_folder_error hg).2
  | ok loc =>
    exfalso
    have hname := isName_fileName 3
    have hgone : g.root.at? [fileName 3] = none := by
      have := h.entry [fileName 3]
      simpa [Files.Node.look?] using this
    have hnames : Path.namesOf "user_3.yml/..".toList = [fileName 3, ".."] := rfl
    have hstart : g.start "user_3.yml/.." = [] := h.cwd.trans hcwd
    obtain ⟨-, -, hwalk, -⟩ := Files.folder_eq_ok_iff.mp hg
    rw [hnames, hstart, Files.walk, if_neg hname.notHere, if_neg hname.notAbove,
      hname.short] at hwalk
    simp [hgone] at hwalk

/-- The removal may take away the directory of the run. Then the second run writes nothing, and the
documents of the first run stay. -/
theorem stale_of_removed_way : ∃ dir p fault after before,
    (runOn wayThrough dir).1.result = .error (.write p fault) ∧
      (runOn wayThrough dir).2.remove p = (after, none) ∧
      wayThrough.remove p = (before, none) ∧
      (runOn after dir).2.root.look? [fileName 1] = some (.file (fill (Uid.decimal 1))) ∧
      (runOn before dir).2.root.look? [fileName 1] = none := by
  have hfolder : wayThrough.folder "user_3.yml/.." = .ok [] := rfl
  have hforecast : forecast wayThrough "user_3.yml/.." uids = ⟨[1, 2], some (3, .isDirectory)⟩ :=
    forecast_obstructed hfolder (by decide) (by decide) (by decide) rfl
  have hdirs := sameDirs_runOn wayThrough "user_3.yml/.."
  have hfolder' := hdirs.folder_eq_ok_iff.mpr hfolder
  have hthere : wayThrough.root.look? [fileName 3] = some .dir := rfl
  have hthere' := (hdirs.isDir_iff _).mpr hthere
  obtain ⟨after, hafter, hremoved⟩ :=
    Files.removed_join (isName_fileName 3) hfolder' (by decide) (by simp [hthere'])
  obtain ⟨before, hbefore, hremoved'⟩ :=
    Files.removed_join (isName_fileName 3) hfolder (by decide) (by simp [hthere])
  refine ⟨_, _, .isDirectory, after, before, ?_, hafter, hbefore, ?_, ?_⟩
  · rw [runOn_eq, hforecast]
    rfl
  · obtain ⟨place, hplace, hfile⟩ := (wrote_runOn wayThrough "user_3.yml/..").written 1 (by
      simp [hforecast])
    obtain ⟨-, loc, hloc, rfl⟩ := place?_pathFor_eq_some_iff.mp hplace
    obtain rfl : [] = loc := by simpa [hfolder] using hloc
    rw [runOn_of_removed_way hremoved hdirs.cwd, hremoved.entry, if_neg (by decide)]
    exact hfile
  · rw [runOn_of_removed_way hremoved' rfl, hremoved'.entry, if_neg (by decide)]
    rfl

end Emit

end UserConfigs
