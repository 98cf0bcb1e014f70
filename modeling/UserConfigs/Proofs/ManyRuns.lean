import UserConfigs.Proofs.Forecast

/-!
# Many runs

Runs do not get in each other's way (`runEach_regardless_of_order`). No run makes or removes a
directory, so a run in the middle of others has the sites that it has by itself, and all runs
together put documents at the sites of all of them (`runEach_files`). Neither the order of the
runs nor a run that is repeated can be seen afterwards in the files.

The outcome of a run is the one that it has by itself, up to the fault of a write into a directory
that does not exist (`Outcome.Alike`). That fault can tell the order : where a path leads through
the name of a document, the system gives one fault before the document is there and another one
after (`fault_of_order`). A run right after the same run has the same outcome, fault included, and
changes nothing (`runOn_runOn`).
-/

namespace UserConfigs.Emit

open Files (Path SameDirs)
open Document (fill fileName isName_fileName)

variable {f g : Files}

/-! ## Outcomes up to a fault -/

/-- The outcomes differ in the fault of the write that fails at most. -/
inductive Outcome.Alike : Outcome → Outcome → Prop where
  | refl (o : Outcome) : Alike o o
  | fault (events : List Event) (path : String) (a b : Files.Fault) :
    Alike ⟨events ++ [.failed path a], .error (.write path a)⟩
      ⟨events ++ [.failed path b], .error (.write path b)⟩

/-- Runs in files with the same directories have the same outcome up to a fault. -/
theorem runOn_alike (h : f.SameDirs g) (dir : String) :
    (runOn g dir).1.Alike (runOn f dir).1 := by
  rw [runOn_eq, runOn_eq]
  cases hf : f.folder dir with
  | ok loc =>
    rw [forecast_of_sameDirs h hf]
    exact .refl _
  | error e =>
    cases hg : g.folder dir with
    | ok loc => simp [h.folder_eq_ok_iff.mp hg] at hf
    | error e' =>
      obtain ⟨users, husers⟩ : ∃ users, uids = firstUid :: users := ⟨_, rfl⟩
      obtain ⟨a, ha⟩ := forecast_of_folder_error hg firstUid users
      obtain ⟨b, hb⟩ := forecast_of_folder_error hf firstUid users
      rw [husers, ha, hb]
      exact .fault [.started dir] (pathFor dir firstUid) a b

/-! ## One run after another -/

theorem sameDirs_runOn (f : Files) (dir : String) : f.SameDirs (runOn f dir).2 := by
  rw [runOn_eq]
  exact sameDirs_settleAll fun _ => open_of_mem_sites

/-- A run right after the same run has the same outcome and changes nothing. -/
theorem runOn_runOn (f : Files) (dir : String) : runOn (runOn f dir).2 dir = runOn f dir := by
  have hfiles : (runOn f dir).2 = settleAll f (sites f dir uids) := by rw [runOn_eq]
  have hsame : f.SameDirs (runOn f dir).2 := sameDirs_runOn f dir
  have hsites : settleAll (settleAll f (sites f dir uids)) (sites f dir uids) =
      settleAll f (sites f dir uids) := by
    rw [← settleAll_append]
    refine settleAll_eq_of_mem_iff (f := f) (fun s => open_of_mem_sites) (fun s => ?_) f
    rw [List.mem_append, or_self]
  cases hf : f.folder dir with
  | ok loc =>
    rw [runOn_eq (runOn f dir).2, forecast_of_sameDirs hsame hf, sites_of_sameDirs hsame, hfiles,
      hsites, runOn_eq f]
  | error e =>
    have hnone : (runOn f dir).2 = f := by
      rw [hfiles, sites_of_folder_error hf]
      rfl
    rw [hnone]

/-! ## Runs in turn -/

/-- Runs into some directories in turn. -/
def runEach (f : Files) : List String → List Outcome × Files
  | [] => ([], f)
  | dir :: dirs =>
    ((runOn f dir).1 :: (runEach (runOn f dir).2 dirs).1, (runEach (runOn f dir).2 dirs).2)

/-- The sites of the runs, each by itself in the first files. -/
def sitesOfAll (f : Files) (dirs : List String) : List Site :=
  dirs.flatMap fun dir => sites f dir uids

theorem runEach_files (h : f.SameDirs g) (dirs : List String) :
    (runEach g dirs).2 = settleAll g (sitesOfAll f dirs) := by
  induction dirs generalizing g with
  | nil => rfl
  | cons dir dirs ih =>
    have hfiles : (runOn g dir).2 = settleAll g (sites f dir uids) := by
      rw [runOn_eq, sites_of_sameDirs h]
    have hrest : f.SameDirs (runOn g dir).2 := h.trans (sameDirs_runOn g dir)
    calc (runEach g (dir :: dirs)).2 = (runEach (runOn g dir).2 dirs).2 := by rw [runEach]
      _ = settleAll (settleAll g (sites f dir uids)) (sitesOfAll f dirs) := by rw [ih hrest, hfiles]
      _ = settleAll g (sitesOfAll f (dir :: dirs)) := by
        rw [← settleAll_append, sitesOfAll, sitesOfAll, List.flatMap_cons]

theorem runEach_outcomes (h : f.SameDirs g) (dirs : List String) :
    List.Forall₂ (fun dir o => Outcome.Alike o (runOn f dir).1) dirs (runEach g dirs).1 := by
  induction dirs generalizing g with
  | nil => exact .nil
  | cons dir dirs ih =>
    rw [runEach]
    exact .cons (runOn_alike h dir) (ih (h.trans (sameDirs_runOn g dir)))

/-- The files after runs in turn depend on the directories of the runs, not on their order or how
often each occurs. Every run has the outcome that it has by itself, up to a fault, and a run right
after the same run has the very same outcome and changes nothing. -/
theorem runEach_regardless_of_order (f : Files) (dirs : List String) :
    (∀ dirs' : List String, (∀ dir, dir ∈ dirs' ↔ dir ∈ dirs) →
        (runEach f dirs').2 = (runEach f dirs).2) ∧
      List.Forall₂ (fun dir o => Outcome.Alike o (runOn f dir).1) dirs (runEach f dirs).1 ∧
      ∀ dir, runOn (runOn f dir).2 dir = runOn f dir := by
  refine ⟨fun dirs' hdirs => ?_, runEach_outcomes (.refl f) dirs, runOn_runOn f⟩
  have hopen : ∀ s ∈ sitesOfAll f dirs, s.Open f := by
    intro s hs
    obtain ⟨dir, -, hs⟩ := List.mem_flatMap.mp hs
    exact open_of_mem_sites hs
  have hmem : ∀ s, s ∈ sitesOfAll f dirs' ↔ s ∈ sitesOfAll f dirs := by
    intro s
    simp only [sitesOfAll, List.mem_flatMap, hdirs]
  rw [runEach_files (.refl f), runEach_files (.refl f), settleAll_eq_of_mem_iff hopen hmem]

/-- Two runs, one of them through the name of a document that the other one writes. -/
theorem runEach_regardless_of_order_below :
    (runEach bare [".", "user_1.yml/..", "."]).2 = (runEach bare ["user_1.yml/..", "."]).2 := by
  obtain ⟨hfiles, -, -⟩ := runEach_regardless_of_order bare ["user_1.yml/..", "."]
  refine hfiles _ fun dir => ?_
  simp [or_comm]

/-! ## A fault that tells the order -/

/-- A run whose first document cannot be written. -/
theorem result_of_write_error {dir : String} {fault : Files.Fault}
    (h : f.write (pathFor dir firstUid) (fill firstUid.decimal) = .error fault) :
    (runOn f dir).1.result = .error (.write (pathFor dir firstUid) fault) := by
  obtain ⟨users, husers⟩ : ∃ users, uids = firstUid :: users := ⟨_, rfl⟩
  have hforecast : forecast f dir uids = ⟨[], some (firstUid, fault)⟩ := by
    rw [husers, forecast, h]
  rw [runOn_eq, hforecast]
  rfl

theorem look?_runOn_bare :
    (runOn bare ".").2.root.look? [fileName firstUid] = some (.file (fill firstUid.decimal)) := by
  obtain ⟨r, hr⟩ := (runOn_ok_iff bare ".").mpr fun u _ _ => succeedsAlone_bare u
  obtain ⟨n, hn, hwrote, -, ⟨rfl, -⟩ | ⟨u, fault, -, -, -, herror⟩⟩ := runOn_wrote bare "."
  · obtain ⟨place, hplace, hfile⟩ :=
      hwrote.written firstUid ((mem_take_uids hn firstUid).mpr (by decide))
    obtain ⟨-, loc, hloc, rfl⟩ := place?_pathFor_eq_some_iff.mp hplace
    obtain rfl : [] = loc := by simpa [folder_bare] using hloc
    exact hfile
  · simp [hr] at herror

/-- No path leads on from a file, not even to the directory that it is in. -/
theorem write_through_file (hcwd : f.cwd = []) {old : String}
    (hfile : f.root.look? [fileName firstUid] = some (.file old)) (text : String) :
    f.write (pathFor "user_1.yml/.." firstUid) text = .error .notDirectory := by
  have hparse : Path.parse (pathFor "user_1.yml/.." firstUid) =
      .ok ⟨false, [fileName firstUid, "..", fileName firstUid], false⟩ := rfl
  have hname := isName_fileName firstUid
  have hwalk : Files.walk f.root [] [fileName firstUid, ".."] = .error .notDirectory := by
    obtain ⟨m, hm, hentry⟩ := Option.map_eq_some_iff.mp hfile
    rw [Files.walk, if_neg hname.notHere, if_neg hname.notAbove, hname.short]
    cases m with
    | dir es => cases hentry
    | file old' => simp [hm]
  simp [Files.write, Files.slot, hparse, Files.origin, hcwd, hwalk, bind, Except.bind]

/-- A run through the name of a document has one fault before the document is there, and another
one after that. -/
theorem fault_of_order :
    (∃ path, (runOn bare "user_1.yml/..").1.result = .error (.write path .missing)) ∧
      ∃ path, (runOn (runOn bare ".").2 "user_1.yml/..").1.result =
        .error (.write path .notDirectory) := by
  refine ⟨⟨_, result_of_write_error rfl⟩, _, result_of_write_error ?_⟩
  exact write_through_file (sameDirs_runOn bare ".").cwd look?_runOn_bare _

end UserConfigs.Emit
