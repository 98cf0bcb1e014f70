import UserConfigs.Command
import UserConfigs.Proofs.Forecast

/-!
# One directory under several names

Many texts lead to one directory, and a program can also be started in it. A run is the same
for all of them (`result_of_spelling`) : the forecast depends on the directory, and on the text only
through the length of the paths, which does not matter as long as the longest of them is short
enough (`forecast_of_spelling`). The paths in the outcome keep the text that was given.

So the command leaves the files that a run into its working directory leaves, and fails where that
run fails. Neither its arguments nor the filter for its log matter for this (`start_as_runOn`).
-/

namespace UserConfigs

open Files (Path)
open Document (fileName isName_fileName)

namespace Emit

variable {f g : Files} {dir dir' : String} {loc : List String}

/-! ## Runs into one directory -/

/-- The last path of a run is the longest one. -/
theorem size_pathFor_le {u : Uid} (hu : u ∈ uids) (dir : String) :
    (pathFor dir u).utf8ByteSize ≤ (pathFor dir lastUid).utf8ByteSize := by
  refine Path.size_join_le_size_join dir (Document.utf8ByteSize_fileName_le_last ?_)
  have htake : uids.take 100 = uids := List.take_of_length_le (by rw [length_uids])
  rw [← htake] at hu
  exact ((mem_take_uids (Nat.le_refl 100) u).mp hu).2

section

variable (hroot : g.root = f.root)
  (hf : f.folder dir = .ok loc) (hsize : (pathFor dir lastUid).utf8ByteSize ≤ Path.maxLength)
  (hg : g.folder dir' = .ok loc) (hsize' : (pathFor dir' lastUid).utf8ByteSize ≤ Path.maxLength)

include hroot hf hsize hg hsize'

/-- Texts of one directory have the same forecast, also from different working directories. -/
theorem forecast_of_spelling : forecast g dir' uids = forecast f dir uids := by
  refine forecast_congr hf hg (fun names => by rw [hroot]) fun u hu => ?_
  have hle := size_pathFor_le hu dir
  have hle' := size_pathFor_le hu dir'
  omega

theorem root_of_spelling : (runOn g dir').2.root = (runOn f dir).2.root := by
  rw [runOn_eq, runOn_eq, sites_of_folder hf, sites_of_folder hg,
    forecast_of_spelling hroot hf hsize hg hsize']
  obtain ⟨root, cwd⟩ := g
  obtain rfl : root = f.root := hroot
  rw [settleAll_cwd]

theorem result_of_spelling :
    (runOn g dir').1.result = (forecast f dir uids).result dir' := by
  rw [runOn_eq, forecast_of_spelling hroot hf hsize hg hsize', Forecast.outcome]

end

/-- Under every name of the directory the forecast has the same result. -/
theorem result_forecast (f : Files) (dir : String) :
    (∀ dir', ∃ r, (forecast f dir uids).result dir' = .ok r) ∨
      ∃ (u : Uid) (fault : Files.Fault), 1 ≤ u.toNat ∧ u.toNat ≤ 100 ∧
        ∀ dir', (forecast f dir uids).result dir' = .error (.write (pathFor dir' u) fault) := by
  obtain ⟨n, -, -, ⟨-, hstop⟩ | ⟨hless, fault, hstop⟩⟩ := forecast_uids f dir
  · exact Or.inl fun dir' => ⟨_, by rw [Forecast.result, hstop]⟩
  · have hnumber := toNat_ofNat_of_le (n := n + 1) hless
    refine Or.inr ⟨UInt32.ofNat (n + 1), fault, by omega, by omega, fun dir' => ?_⟩
    rw [Forecast.result, hstop]

end Emit

/-! ## Starting in a directory -/

namespace Files

variable {f g : Files} {dir : String} {loc : List String}

/-- Files are known by their root and their working directory. -/
theorem eq_with_cwd {cwd : List String} (hroot : g.root = f.root) (hcwd : g.cwd = cwd) :
    g = { f with cwd } := by
  obtain ⟨root, cwd'⟩ := g
  obtain rfl : root = f.root := hroot
  obtain rfl : cwd' = cwd := hcwd
  rfl

theorem moveTo_of_folder (hdir : dir ≠ "") (hf : f.folder dir = .ok loc) :
    f.moveTo dir = .ok { f with cwd := loc } := by
  have hempty : dir.isEmpty = false := by simpa [String.isEmpty_iff] using hdir
  rw [folder, hempty] at hf
  cases hd : f.dir dir with
  | error e => simp [hd, Except.map] at hf
  | ok r =>
    obtain rfl : r.1 = loc := by simpa [hd, Except.map] using hf
    simp only [moveTo, hd, bind, Except.bind, pure, Except.pure]

/-- In the working directory, the text of a point leads to it. -/
theorem folder_here (h : f.root.look? loc = some .dir) :
    ({ f with cwd := loc } : Files).folder "." = .ok loc := by
  refine folder_eq_ok_iff.mpr ⟨by decide, by decide, ?_, h⟩
  have hnames : Path.namesOf ".".toList = ["."] := rfl
  have hstart : ({ f with cwd := loc } : Files).start "." = loc := rfl
  rw [hnames, hstart, walk, if_pos rfl, walk]

end Files

namespace Command

variable {f : Files} {dir dir' : String} {loc : List String}

theorem run_apply (act : StateM Files Emit.Outcome) (env : Option String) (f : Files) :
    (do return result env (← act) : StateM Files Result) f =
      (result env (act f).1, (act f).2) := rfl

theorem runOn_apply (f : Files) (env : Option String) :
    runOn f env =
      (result env (Emit.runOn f Emit.defaultDir).1, (Emit.runOn f Emit.defaultDir).2) := by
  unfold runOn run Emit.runOn
  exact run_apply _ env f

theorem runIn_of_moveTo {inner : Files} (hnul : ¬dir.toList.contains '\x00')
    (hmove : f.moveTo dir = .ok inner) (env : Option String) :
    runIn f dir env =
      .ok ((runOn inner env).1, { (runOn inner env).2 with cwd := f.cwd }) := by
  -- the run is left open here, as nothing needs to be known of it
  have hany : ∀ run, runOn = run →
      runIn f dir env =
        .ok ((run inner env).1, { (run inner env).2 with cwd := f.cwd }) := fun run hrun => by
    rw [runIn, if_neg hnul, hmove, hrun]
  exact hany runOn rfl

/-- The command runs into the directory where it is started. -/
theorem start_of_runOn {o : Emit.Outcome} {g : Files} (hdir : dir ≠ "")
    (hf : f.folder dir = .ok loc) (args : List String) {env : Option String}
    (hrun : runOn { f with cwd := loc } env = (result env o, g)) :
    start f dir args env = .ok ((result env o).exit, { g with cwd := f.cwd }) := by
  have hnul : ¬dir.toList.contains '\x00' := by
    simpa using (Files.folder_eq_ok_iff.mp hf).1
  rw [start, runIn_of_moveTo hnul (Files.moveTo_of_folder hdir hf), hrun]
  rfl

/-- What the command shows of a document that cannot be written comes last. -/
theorem stderr_of_error {o : Emit.Outcome} {path : String} {fault : Files.Fault}
    (h : o.result = .error (.write path fault)) (env : Option String) :
    (result env o).exit.code = 1 ∧
      ["Error: failed to write " ++ path, "", "Caused by:", "    " ++ fault.message] <:+
        (result env o).exit.stderr := by
  simp only [Result.exit, Result.lines, result, h]
  exact ⟨trivial, List.suffix_append _ _⟩

theorem pathFor_defaultDir (u : Uid) : Emit.pathFor Emit.defaultDir u = "./" ++ fileName u := by
  have hjoin : ∀ name, Path.join Emit.defaultDir name = "." ++ "/" ++ name := fun _ => rfl
  rw [Emit.pathFor, hjoin]
  rfl

theorem code_of_ok {o : Emit.Outcome} {r : Emit.Report} (h : o.result = .ok r)
    (env : Option String) : (result env o).exit.code = 0 := by
  simp only [Result.exit, result, h]

/-- The command started in a directory, and runs into this directory under two names, leave the
same files, and all of them get through or all stop at the same document with the same fault. -/
theorem start_as_runOn (f : Files) (args : List String) (env : Option String) {loc : List String}
    {dir dir' : String} (hdir : dir ≠ "")
    (hf : f.folder dir = .ok loc) (hf' : f.folder dir' = .ok loc)
    (hsize : (Path.join dir "user_100.yml").utf8ByteSize ≤ Path.maxLength)
    (hsize' : (Path.join dir' "user_100.yml").utf8ByteSize ≤ Path.maxLength) :
    ∃ exit g, start f dir args env = .ok (exit, g) ∧
      (Emit.runOn f dir).2 = g ∧ (Emit.runOn f dir').2 = g ∧ exit.stdout = [] ∧
      (exit.code = 0 ∧ (∃ r, (Emit.runOn f dir).1.result = .ok r) ∧
          (∃ r, (Emit.runOn f dir').1.result = .ok r) ∨
        exit.code = 1 ∧ ∃ (u : Uid) (fault : Files.Fault), 1 ≤ u.toNat ∧ u.toNat ≤ 100 ∧
          (Emit.runOn f dir).1.result = .error (.write (Path.join dir (fileName u)) fault) ∧
          (Emit.runOn f dir').1.result = .error (.write (Path.join dir' (fileName u)) fault) ∧
          ["Error: failed to write ./" ++ fileName u, "", "Caused by:", "    " ++ fault.message]
            <:+ exit.stderr) := by
  have hhere : ({ f with cwd := loc } : Files).folder Emit.defaultDir = .ok loc :=
    Files.folder_here (Files.folder_eq_ok_iff.mp hf).2.2.2
  have hsizeHere : (Emit.pathFor Emit.defaultDir Emit.lastUid).utf8ByteSize ≤ Path.maxLength := by
    decide
  have hinner : ({ f with cwd := loc } : Files).root = f.root := rfl
  have hresult := Emit.result_of_spelling rfl hf hsize hf hsize
  have hresult' := Emit.result_of_spelling rfl hf hsize hf' hsize'
  have hresultHere := Emit.result_of_spelling hinner hf hsize hhere hsizeHere
  have hroot' := Emit.root_of_spelling rfl hf hsize hf' hsize'
  have hrootHere := Emit.root_of_spelling hinner hf hsize hhere hsizeHere
  refine ⟨_, _, start_of_runOn hdir hf args (runOn_apply _ env), ?_, ?_, rfl, ?_⟩
  · exact Files.eq_with_cwd hrootHere.symm (Emit.wrote_runOn f dir).dirs.cwd
  · exact Files.eq_with_cwd (hroot'.trans hrootHere.symm) (Emit.wrote_runOn f dir').dirs.cwd
  rcases Emit.result_forecast f dir with hok | ⟨u, fault, hfirst, hlast, herror⟩
  · obtain ⟨r, hr⟩ := hok Emit.defaultDir
    refine Or.inl ⟨code_of_ok (hresultHere.trans hr) env, ?_, ?_⟩
    · rw [hresult]
      exact hok dir
    · rw [hresult']
      exact hok dir'
  · obtain ⟨hcode, hstderr⟩ := stderr_of_error (hresultHere.trans (herror Emit.defaultDir)) env
    rw [pathFor_defaultDir, ← String.append_assoc] at hstderr
    refine Or.inr ⟨hcode, u, fault, hfirst, hlast, hresult.trans (herror dir),
      hresult'.trans (herror dir'), hstderr⟩

/-- The command started in an empty directory, and a run into it under another name. -/
theorem start_as_runOn_bare :
    ∃ exit, start Emit.bare "." ["all"] (some "off") = .ok (exit, (Emit.runOn Emit.bare ".//").2) ∧
      exit.code = 0 := by
  have hslashes : Emit.bare.folder ".//" = .ok [] := rfl
  obtain ⟨exit, g, hstart, -, hfiles, -, hend⟩ :=
    start_as_runOn Emit.bare ["all"] (some "off") (by decide) Emit.folder_bare hslashes
      (by decide) (by decide)
  obtain ⟨r, hr⟩ := (Emit.runOn_ok_iff Emit.bare ".").mpr fun u _ _ => Emit.succeedsAlone_bare u
  rcases hend with ⟨hcode, -, -⟩ | ⟨-, u, fault, -, -, herror, -, -⟩
  · exact ⟨exit, by rw [hstart, hfiles], hcode⟩
  · simp [hr] at herror

end Command

end UserConfigs
