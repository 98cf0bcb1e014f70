import UserConfigs.Proofs.Runs
import UserConfigs.Proofs.Sites

/-!
# How a run will go

The files before a run tell how it will go. `forecast` tries to write every document into these
same files, each by itself, up to the first that cannot be written. A run then does what the
forecast says (`runOn_eq`) : it puts the documents of the users in the forecast at their sites, and
tells the events that follow from the forecast (`Forecast.outcome`).

A forecast looks at directories only. It stays as it is while they do, and two texts that lead to
the same directory have the same forecast unless the length of a path comes in between
(`forecast_congr`). Where the directory does not exist, the forecast stops at the first document
with a fault that other files may change (`forecast_of_folder_error`).
-/

namespace UserConfigs.Emit

open Files (Path Put SameDirs)
open Document (fill fileName isName_fileName)

variable {f g : Files} {dir dir' : String} {loc : List String}

/-! ## Forecasts -/

/-- What is known of a run before it starts. -/
structure Forecast where
  /-- The users whose documents will be written. -/
  done : List Uid
  /-- The user whose document cannot be written, with the fault. -/
  stop : Option (Uid × Files.Fault)

/-- Try to write the documents of some users, each by itself, up to the first that fails. -/
def forecast (f : Files) (dir : String) : List Uid → Forecast
  | [] => ⟨[], none⟩
  | u :: users =>
    match f.write (pathFor dir u) (fill u.decimal) with
    | .error fault => ⟨[], some (u, fault)⟩
    | .ok _ => ⟨u :: (forecast f dir users).done, (forecast f dir users).stop⟩

theorem forecast_of_folder (hf : f.folder dir = .ok loc) (u : Uid) (users : List Uid) :
    forecast f dir (u :: users) =
      if Path.maxLength < (pathFor dir u).utf8ByteSize then ⟨[], some (u, .nameTooLong)⟩
      else if f.root.look? (loc ++ [fileName u]) = some .dir then ⟨[], some (u, .isDirectory)⟩
      else ⟨u :: (forecast f dir users).done, (forecast f dir users).stop⟩ := by
  rw [forecast, pathFor, Files.write_join_eq (isName_fileName u) hf]
  split_ifs <;> rfl

/-- Where the directory does not exist, the first document already fails. -/
theorem forecast_of_folder_error {e : Files.Fault} (hf : f.folder dir = .error e) (u : Uid)
    (users : List Uid) : ∃ fault, forecast f dir (u :: users) = ⟨[], some (u, fault)⟩ := by
  obtain ⟨fault, hw⟩ := Files.write_join_of_folder_error (isName_fileName u) hf (fill u.decimal)
  exact ⟨fault, by simp only [forecast, pathFor, hw]⟩

/-- The forecast depends on the directory, on the directories in it, and on how long the paths
are. -/
theorem forecast_congr (hf : f.folder dir = .ok loc) (hg : g.folder dir' = .ok loc)
    (hdirs : ∀ names, g.root.look? names = some .dir ↔ f.root.look? names = some .dir) :
    ∀ {users : List Uid}, (∀ u ∈ users, Path.maxLength < (pathFor dir' u).utf8ByteSize ↔
      Path.maxLength < (pathFor dir u).utf8ByteSize) → forecast g dir' users = forecast f dir users
  | [], _ => rfl
  | u :: users, hsize => by
    obtain ⟨hu, hsize⟩ := List.forall_mem_cons.mp hsize
    rw [forecast_of_folder hf, forecast_of_folder hg, forecast_congr hf hg hdirs hsize]
    simp only [hu, hdirs]

theorem forecast_of_sameDirs (h : f.SameDirs g) (hf : f.folder dir = .ok loc) (users : List Uid) :
    forecast g dir users = forecast f dir users :=
  forecast_congr hf (h.folder_eq_ok_iff.mpr hf) h.isDir_iff fun _ _ => Iff.rfl

/-- The users in the forecast are the first ones. -/
theorem forecast_split (f : Files) (dir : String) : ∀ users : List Uid,
    ∃ rest, users = (forecast f dir users).done ++ rest ∧
      (rest = [] ∧ (forecast f dir users).stop = none ∨
        ∃ u later fault, rest = u :: later ∧ (forecast f dir users).stop = some (u, fault))
  | [] => ⟨[], rfl, Or.inl ⟨rfl, rfl⟩⟩
  | u :: users => by
    cases hw : f.write (pathFor dir u) (fill u.decimal) with
    | error fault =>
      refine ⟨u :: users, by simp [forecast, hw], Or.inr ⟨u, users, fault, rfl, ?_⟩⟩
      simp [forecast, hw]
    | ok g =>
      obtain ⟨rest, husers, hend⟩ := forecast_split f dir users
      refine ⟨rest, ?_, by simpa only [forecast, hw] using hend⟩
      simp only [forecast, hw, List.cons_append]
      rw [← husers]

/-- Of all users, those in the forecast are the ones up to a number, and the one that stops is the
next. -/
theorem forecast_uids (f : Files) (dir : String) : ∃ n ≤ 100,
    (forecast f dir uids).done = uids.take n ∧
      (n = 100 ∧ (forecast f dir uids).stop = none ∨
        n < 100 ∧ ∃ fault, (forecast f dir uids).stop = some (UInt32.ofNat (n + 1), fault)) := by
  obtain ⟨rest, huids, hend⟩ := forecast_split f dir uids
  generalize forecast f dir uids = p at huids hend ⊢
  have hlength : p.done.length + rest.length = 100 := by
    rw [← List.length_append, ← huids, length_uids]
  refine ⟨p.done.length, by omega, by rw [huids, List.take_left], ?_⟩
  rcases hend with ⟨rfl, hstop⟩ | ⟨u, later, fault, rfl, hstop⟩
  · exact Or.inl ⟨by simpa using hlength, hstop⟩
  · rw [List.length_cons] at hlength
    have hu : uids[p.done.length]? = some u := by simp [huids]
    rw [getElem?_uids (by omega), Option.some.injEq] at hu
    exact Or.inr ⟨by omega, fault, by rw [hstop, hu]⟩

/-- Each document in the forecast can be written by itself. -/
theorem succeedsAlone_of_mem_done {u : Uid} : ∀ {users : List Uid},
    u ∈ (forecast f dir users).done → SucceedsAlone f dir u
  | [], hu => by simp [forecast] at hu
  | w :: users, hu => by
    cases hw : f.write (pathFor dir w) (fill w.decimal) with
    | error fault => simp [forecast, hw] at hu
    | ok g =>
      simp only [forecast, hw, List.mem_cons] at hu
      rcases hu with rfl | hu
      · exact ⟨fill u.decimal, g, Document.render_eq u, hw⟩
      · exact succeedsAlone_of_mem_done hu

/-! ## The sites of a forecast -/

/-- Where the documents in the forecast will stand. -/
def sites (f : Files) (dir : String) (users : List Uid) : List Site :=
  match f.folder dir with
  | .ok loc => (forecast f dir users).done.map (Site.mk loc)
  | .error _ => []

theorem sites_of_folder (hf : f.folder dir = .ok loc) (users : List Uid) :
    sites f dir users = (forecast f dir users).done.map (Site.mk loc) := by
  simp only [sites, hf]

theorem sites_of_folder_error {e : Files.Fault} (hf : f.folder dir = .error e)
    (users : List Uid) : sites f dir users = [] := by
  simp only [sites, hf]

theorem sites_of_sameDirs (h : f.SameDirs g) (users : List Uid) :
    sites g dir users = sites f dir users := by
  cases hf : f.folder dir with
  | ok loc =>
    rw [sites_of_folder hf, sites_of_folder (h.folder_eq_ok_iff.mpr hf), forecast_of_sameDirs h hf]
  | error e =>
    cases hg : g.folder dir with
    | ok loc => simp [h.folder_eq_ok_iff.mp hg] at hf
    | error e' => rw [sites_of_folder_error hf, sites_of_folder_error hg]

/-- The sites of a forecast are open. -/
theorem open_of_mem_sites {users : List Uid} {s : Site} (hs : s ∈ sites f dir users) :
    s.Open f := by
  cases hf : f.folder dir with
  | error e => simp [sites_of_folder_error hf] at hs
  | ok loc =>
    rw [sites_of_folder hf] at hs
    obtain ⟨u, hu, rfl⟩ := List.mem_map.mp hs
    obtain ⟨-, loc', hloc', hn⟩ := (succeedsAlone_iff u).mp (succeedsAlone_of_mem_done hu)
    obtain rfl : loc = loc' := by simpa [hf] using hloc'
    exact ⟨(Files.folder_eq_ok_iff.mp hf).2.2.2, hn⟩

/-! ## Runs by their forecast -/

namespace Forecast

variable (p : Forecast) (dir : String)

/-- What comes of the run. -/
def result : Except Error Report :=
  match p.stop with
  | none => .ok ⟨p.done.map (pathFor dir)⟩
  | some (u, fault) => .error (.write (pathFor dir u) fault)

/-- The events about documents that are written. -/
def wrote : List Event := p.done.map fun u => .wrote u (pathFor dir u)

/-- The event about the document that is not written. -/
def failed : List Event :=
  match p.stop with
  | none => []
  | some (u, fault) => [.failed (pathFor dir u) fault]

/-- The event at the end of the run. -/
def last : Event :=
  match p.stop with
  | none => .finished p.done.length dir
  | some (u, fault) => .failed (pathFor dir u) fault

/-- The run with its events. -/
def outcome : Outcome where
  events := .started dir :: (p.wrote dir ++ [p.last dir])
  result := p.result dir

end Forecast

/-- Writing some documents goes as the forecast says. -/
theorem writeOn_eq (dir : String) : ∀ (users : List Uid) (f : Files),
    writeOn dir users f =
      (⟨(forecast f dir users).wrote dir ++ (forecast f dir users).failed dir,
        (forecast f dir users).result dir⟩, settleAll f (sites f dir users))
  | [], f => by
    have hsites : sites f dir [] = [] := by
      cases hf : f.folder dir with
      | ok loc => rw [sites_of_folder hf]; rfl
      | error e => exact sites_of_folder_error hf []
    rw [hsites]
    rfl
  | u :: users, f => by
    rw [writeOn_cons]
    cases hf : f.folder dir with
    | error e =>
      obtain ⟨fault, hw⟩ :=
        Files.write_join_of_folder_error (isName_fileName u) hf (fill u.decimal)
      simp only [pathFor, hw, forecast, sites_of_folder_error hf]
      rfl
    | ok loc =>
      cases hw : f.write (pathFor dir u) (fill u.decimal) with
      | error fault =>
        simp only [sites_of_folder hf, forecast, hw]
        rfl
      | ok g =>
        have hmem : ⟨loc, u⟩ ∈ sites f dir [u] := by
          simp [sites_of_folder hf, forecast, hw]
        have hopen : Site.Open f ⟨loc, u⟩ := open_of_mem_sites hmem
        obtain rfl : g = settle f ⟨loc, u⟩ := by
          have hn : f.root.look? (loc ++ [fileName u]) ≠ some .dir := hopen.place
          obtain ⟨hs, -⟩ := Files.put_of_write_join (isName_fileName u) hw
          rw [pathFor, Files.write_join_eq (isName_fileName u) hf, if_neg (Nat.not_lt.mpr hs),
            if_neg hn, Except.ok.injEq] at hw
          exact hw.symm
        have hsame := hopen.put.sameDirs
        simp only [writeOn_eq dir users, forecast_of_sameDirs hsame hf, sites_of_sameDirs hsame,
          sites_of_folder hf, forecast, hw, Outcome.wrote, Forecast.wrote, Forecast.failed,
          Forecast.result, List.map_cons]
        cases (forecast f dir users).stop <;> rfl

theorem wrote_forecast (dir : String) : ∀ (users : List Uid) (f : Files),
    Wrote f dir (forecast f dir users).done (writeOn dir users f).2
  | [], f => .nil f dir
  | u :: users, f => by
    rw [writeOn_cons]
    cases hw : f.write (pathFor dir u) (fill u.decimal) with
    | error fault =>
      simp only [forecast, hw]
      exact .nil f dir
    | ok g =>
      obtain ⟨hs, loc, hf, hput⟩ := Files.put_of_write_join (isName_fileName u) hw
      have hplace : f.place? (pathFor dir u) = some (loc ++ [fileName u]) :=
        place?_pathFor_eq_some_iff.mpr ⟨hs, loc, hf, rfl⟩
      have hrest : Wrote g dir (forecast f dir users).done (writeOn dir users g).2 := by
        rw [← forecast_of_sameDirs hput.sameDirs hf]
        exact wrote_forecast dir users g
      simp only [forecast, hw]
      exact .cons hplace hput hrest

/-- A run goes as the forecast says. -/
theorem runOn_eq (f : Files) (dir : String) :
    runOn f dir = ((forecast f dir uids).outcome dir, settleAll f (sites f dir uids)) := by
  rw [runOn_eq_writeOn, writeOn_eq]
  cases h : (forecast f dir uids).stop <;>
    simp [Outcome.finish, Outcome.prepend, Forecast.outcome, Forecast.failed, Forecast.last,
      Forecast.result, Forecast.wrote, Report.size, h]

/-- A run writes the documents of the users in the forecast. -/
theorem wrote_runOn (f : Files) (dir : String) :
    Wrote f dir (forecast f dir uids).done (runOn f dir).2 := by
  rw [runOn_files]
  exact wrote_forecast dir uids f

end UserConfigs.Emit
