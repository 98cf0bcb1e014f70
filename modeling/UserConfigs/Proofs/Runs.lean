import UserConfigs.Proofs.Filling

/-!
# What a run does

A run writes the documents of some first users and leaves everything else as it was
(`Emit.Wrote`) : different users have different places (`Document.fileName_inj`), and the places
stay where they are, since a write neither makes nor removes a directory. A run that does not get
through stops at a write that fails in the files as they are then (`writeOn_wrote`). What was
written before does not matter for that write, except that it shows that the directory exists, so
the write fails in the first files too (`runOn_decided_alone`).
-/

namespace UserConfigs.Emit

open Files (Path Put SameDirs)
open Document (fill fileName fileName_inj isName_fileName render_eq)

variable {f g h : Files} {dir : String}

/-! ## A user's document by itself -/

/-- The document of a user can be written. -/
def SucceedsAlone (f : Files) (dir : String) (u : Uid) : Prop :=
  ∃ text g, Document.render u = .ok text ∧ f.write (pathFor dir u) text = .ok g

/-- The document of a user cannot be written. -/
def FailsAlone (f : Files) (dir : String) (u : Uid) (fault : Files.Fault) : Prop :=
  ∃ text, Document.render u = .ok text ∧ f.write (pathFor dir u) text = .error fault

theorem succeedsAlone_iff (u : Uid) :
    SucceedsAlone f dir u ↔ (pathFor dir u).utf8ByteSize ≤ Path.maxLength ∧
      ∃ loc, f.folder dir = .ok loc ∧ f.root.look? (loc ++ [fileName u]) ≠ some .dir := by
  rw [pathFor, ← Files.write_join_ok_iff (isName_fileName u) (fill u.decimal)]
  simp [SucceedsAlone, render_eq, pathFor]

theorem failsAlone_iff (u : Uid) (fault : Files.Fault) :
    FailsAlone f dir u fault ↔ f.write (pathFor dir u) (fill u.decimal) = .error fault := by
  simp [FailsAlone, render_eq]

theorem not_succeedsAlone {u : Uid} {fault : Files.Fault} (hu : FailsAlone f dir u fault) :
    ¬SucceedsAlone f dir u := by
  rintro ⟨text, g, htext, hg⟩
  obtain ⟨text', htext', hfault⟩ := hu
  rw [htext, Except.ok.injEq] at htext'
  rw [← htext', hg] at hfault
  cases hfault

theorem place?_pathFor_eq_some_iff {u : Uid} {place : List String} :
    f.place? (pathFor dir u) = some place ↔ (pathFor dir u).utf8ByteSize ≤ Path.maxLength ∧
      ∃ loc, f.folder dir = .ok loc ∧ place = loc ++ [fileName u] :=
  Files.place?_join_eq_some_iff (isName_fileName u)

/-- Different users have different places. -/
theorem place?_pathFor_inj {u w : Uid} {place : List String}
    (hu : f.place? (pathFor dir u) = some place) (hw : f.place? (pathFor dir w) = some place) :
    u = w := by
  obtain ⟨-, loc, -, hu⟩ := place?_pathFor_eq_some_iff.mp hu
  obtain ⟨-, loc', -, hw⟩ := place?_pathFor_eq_some_iff.mp hw
  rw [hu, ← List.concat_eq_append, ← List.concat_eq_append, List.concat_inj] at hw
  exact fileName_inj.mp hw.2

/-- Files with nothing in them. -/
def bare : Files := ⟨.empty, []⟩

theorem folder_bare : bare.folder "." = .ok [] := rfl

theorem succeedsAlone_bare (u : Uid) : SucceedsAlone bare "." u := by
  have hjoin := Path.size_join_le "." (fileName u)
  have hname := Document.utf8ByteSize_fileName_le u
  have hdot : ".".utf8ByteSize = 1 := by decide
  have hmax : Path.maxLength = 4095 := rfl
  refine (succeedsAlone_iff u).mpr ⟨?_, [], folder_bare, ?_⟩
  · rw [pathFor]
    omega
  · simp [bare, Files.Node.empty, Files.Node.look?_cons, Files.Node.entries, Fields.get?]

/-! ## The documents written -/

/-- `g` is `f` with the documents of some users written. -/
structure Wrote (f : Files) (dir : String) (users : List Uid) (g : Files) : Prop where
  dirs : f.SameDirs g
  written : ∀ u ∈ users, ∃ place, f.place? (pathFor dir u) = some place ∧
    g.root.look? place = some (.file (fill u.decimal))
  others : ∀ names, (∀ u ∈ users, f.place? (pathFor dir u) ≠ some names) →
    g.root.look? names = f.root.look? names

theorem Wrote.nil (f : Files) (dir : String) : Wrote f dir [] f :=
  ⟨.refl f, by simp, fun _ _ => rfl⟩

/-- One more document, written before the others. -/
theorem Wrote.cons {u : Uid} {users : List Uid} {place : List String}
    (hplace : f.place? (pathFor dir u) = some place) (hput : f.Put place (fill u.decimal) g)
    (hrest : Wrote g dir users h) : Wrote f dir (u :: users) h := by
  have hsame : ∀ w, g.place? (pathFor dir w) = f.place? (pathFor dir w) := fun w =>
    hput.sameDirs.place?_join (isName_fileName w)
  refine ⟨hput.sameDirs.trans hrest.dirs, fun w hw => ?_, fun names hnames => ?_⟩
  · -- the document may be written again after this, by the same user only
    by_cases hmem : w ∈ users
    · obtain ⟨p, hp, hfile⟩ := hrest.written w hmem
      exact ⟨p, by rw [← hsame, hp], hfile⟩
    · obtain rfl : w = u := (List.mem_cons.mp hw).resolve_right hmem
      refine ⟨place, hplace, ?_⟩
      rw [hrest.others, hput.entry, if_pos rfl]
      intro v hv hp
      rw [hsame] at hp
      exact hmem (place?_pathFor_inj hplace hp ▸ hv)
  · have hne : names ≠ place := by
      rintro rfl
      exact hnames u List.mem_cons_self hplace
    rw [hrest.others, hput.entry, if_neg hne]
    intro w hw
    rw [hsame]
    exact hnames w (List.mem_cons_of_mem u hw)

theorem Wrote.succeedsAlone {users : List Uid} (hg : Wrote f dir users g) {u : Uid}
    (hu : u ∈ users) : SucceedsAlone f dir u := by
  obtain ⟨place, hplace, hfile⟩ := hg.written u hu
  obtain ⟨hs, loc, hf, rfl⟩ := place?_pathFor_eq_some_iff.mp hplace
  refine (succeedsAlone_iff u).mpr ⟨hs, loc, hf, fun hn => ?_⟩
  rw [(hg.dirs.isDir_iff _).mpr hn] at hfile
  cases hfile

/-- A write that fails after other documents were written fails before that too. -/
theorem Wrote.failsAlone {users : List Uid} (hg : Wrote f dir users g) (hnil : users = [] → g = f)
    {u : Uid} {fault : Files.Fault} (hu : FailsAlone g dir u fault) : FailsAlone f dir u fault := by
  rcases users with _ | ⟨w, ws⟩
  · rwa [hnil rfl] at hu
  obtain ⟨-, loc, hf, -⟩ := (succeedsAlone_iff w).mp (hg.succeedsAlone List.mem_cons_self)
  rw [failsAlone_iff] at hu ⊢
  exact (hg.dirs.write_join_error_iff (isName_fileName u) hf _ _).mp hu

/-! ## Runs -/

/-- Write the documents of some users, up to the first that cannot be written. -/
def writeOn (dir : String) (users : List Uid) (f : Files) : Outcome × Files :=
  writeAll Document.render put dir users f

theorem writeOn_nil (dir : String) (f : Files) : writeOn dir [] f = (⟨[], .ok .empty⟩, f) := rfl

theorem writeOn_cons (dir : String) (u : Uid) (users : List Uid) (f : Files) :
    writeOn dir (u :: users) f =
      match f.write (pathFor dir u) (fill u.decimal) with
      | .ok g => ((writeOn dir users g).1.wrote u (pathFor dir u), (writeOn dir users g).2)
      | .error fault =>
        (⟨[.failed (pathFor dir u) fault], .error (.write (pathFor dir u) fault)⟩, f) := by
  have hput : put (pathFor dir u) (fill u.decimal) f =
      match f.write (pathFor dir u) (fill u.decimal) with
      | .ok f => (none, f)
      | .error fault => (some fault, f) := rfl
  rw [writeOn, writeAll, render_eq]
  simp only [bind, StateT.bind, hput]
  cases f.write (pathFor dir u) (fill u.decimal) with
  | ok g => rfl
  | error fault => rfl

/-- Some first documents are written, and either these are all of them or the next one cannot be
written. -/
theorem writeOn_wrote (dir : String) : ∀ (users : List Uid) (f : Files),
    ∃ done rest, users = done ++ rest ∧ Wrote f dir done (writeOn dir users f).2 ∧
      (done = [] → (writeOn dir users f).2 = f) ∧
      (rest = [] ∧ (writeOn dir users f).1.result = .ok ⟨done.map (pathFor dir)⟩ ∨
        ∃ u later fault, rest = u :: later ∧ FailsAlone (writeOn dir users f).2 dir u fault ∧
          (writeOn dir users f).1.result = .error (.write (pathFor dir u) fault))
  | [], f => ⟨[], [], rfl, .nil f dir, fun _ => rfl, Or.inl ⟨rfl, rfl⟩⟩
  | u :: users, f => by
    rw [writeOn_cons]
    cases hw : f.write (pathFor dir u) (fill u.decimal) with
    | error fault =>
      exact ⟨[], u :: users, rfl, .nil f dir, fun _ => rfl,
        Or.inr ⟨u, users, fault, rfl, (failsAlone_iff u fault).mpr hw, rfl⟩⟩
    | ok g =>
      obtain ⟨done, rest, rfl, hwrote, -, hend⟩ := writeOn_wrote dir users g
      obtain ⟨hs, loc, hf, hput⟩ := Files.put_of_write_join (isName_fileName u) hw
      have hplace : f.place? (pathFor dir u) = some (loc ++ [fileName u]) :=
        place?_pathFor_eq_some_iff.mpr ⟨hs, loc, hf, rfl⟩
      refine ⟨u :: done, rest, rfl, .cons hplace hput hwrote, by simp, ?_⟩
      rcases hend with ⟨hrest, hr⟩ | ⟨w, later, fault, hrest, hfails, hr⟩
      · exact Or.inl ⟨hrest, by simp [Outcome.wrote, hr, Except.map]⟩
      · exact Or.inr ⟨w, later, fault, hrest, hfails, by simp [Outcome.wrote, hr, Except.map]⟩

section

variable (act : StateM Files Outcome) (dir : String) (f : Files)

theorem finish_apply :
    (do return ((← act).finish dir).prepend (.started dir) : StateM Files Outcome) f =
      (((act f).1.finish dir).prepend (.started dir), (act f).2) := rfl

theorem finish_files :
    ((do return ((← act).finish dir).prepend (.started dir) : StateM Files Outcome) f).2 =
      (act f).2 := rfl

theorem finish_result :
    ((do return ((← act).finish dir).prepend (.started dir) : StateM Files Outcome) f).1.result =
      (act f).1.result := rfl

end

/-- A run is a row of writes with an event before it and, if all succeed, one after it. -/
theorem runOn_eq_writeOn (f : Files) (dir : String) :
    runOn f dir =
      (((writeOn dir uids f).1.finish dir).prepend (.started dir), (writeOn dir uids f).2) := by
  unfold runOn run writeOn
  exact finish_apply _ dir f

theorem runOn_files (f : Files) (dir : String) :
    (runOn f dir).2 = (writeOn dir uids f).2 := by
  unfold runOn run writeOn
  exact finish_files _ dir f

theorem runOn_result (f : Files) (dir : String) :
    (runOn f dir).1.result = (writeOn dir uids f).1.result := by
  unfold runOn run writeOn
  exact finish_result _ dir f

/-- A run as a row of writes that breaks off at the first one that fails. -/
theorem runOn_wrote (f : Files) (dir : String) : ∃ n ≤ 100,
    Wrote f dir (uids.take n) (runOn f dir).2 ∧
      (uids.take n = [] → (runOn f dir).2 = f) ∧
      (n = 100 ∧ (runOn f dir).1.result = .ok ⟨uids.map (pathFor dir)⟩ ∨
        ∃ u fault, n < 100 ∧ u.toNat = n + 1 ∧ FailsAlone (runOn f dir).2 dir u fault ∧
          (runOn f dir).1.result = .error (.write (pathFor dir u) fault)) := by
  obtain ⟨done, rest, huids, hwrote, hnil, hend⟩ := writeOn_wrote dir uids f
  rw [runOn_files, runOn_result]
  have hlength : done.length + rest.length = 100 := by
    rw [← length_uids, huids, List.length_append]
  have htake : uids.take done.length = done := by rw [huids, List.take_left']; rfl
  refine ⟨done.length, by omega, by rwa [htake], by rwa [htake], ?_⟩
  rcases hend with ⟨rfl, hr⟩ | ⟨u, later, fault, rfl, hfails, hr⟩
  · rw [List.append_nil] at huids
    exact Or.inl ⟨by simpa using hlength, by rw [hr, huids]⟩
  · rw [List.length_cons] at hlength
    have hu : uids[done.length]? = some u := by simp [huids]
    rw [getElem?_uids (by omega), Option.some.injEq] at hu
    refine Or.inr ⟨u, fault, by omega, ?_, hfails, hr⟩
    rw [← hu, UInt32.toNat_ofNat']
    omega

/-- A run gets through if every document can be written by itself. -/
theorem runOn_ok_iff (f : Files) (dir : String) :
    (∃ r, (runOn f dir).1.result = .ok r) ↔
      ∀ u : Uid, 1 ≤ u.toNat → u.toNat ≤ 100 → SucceedsAlone f dir u := by
  obtain ⟨n, hn, hwrote, hnil, hend⟩ := runOn_wrote f dir
  rcases hend with ⟨rfl, hr⟩ | ⟨u, fault, hless, hu, hfails, hr⟩
  · refine ⟨fun _ u h h' => ?_, fun _ => ⟨_, hr⟩⟩
    exact hwrote.succeedsAlone ((mem_take_uids hn u).mpr ⟨h, h'⟩)
  · refine ⟨fun ⟨r, hok⟩ => by simp [hr] at hok, fun hall => ?_⟩
    exact absurd (hall u (by omega) (by omega)) (not_succeedsAlone (hwrote.failsAlone hnil hfails))

/-! ## What a run leaves behind -/

/-- A run puts the documents of the first users into their places and leaves every other entry as
it was. It stops at the first document that cannot be written. -/
theorem runOn_writes_first (f : Files) (dir : String) : ∃ n ≤ 100,
    (runOn f dir).2.cwd = f.cwd ∧
      (∀ u : Uid, 1 ≤ u.toNat → u.toNat ≤ n → ∃ place text,
        f.place? (pathFor dir u) = some place ∧
          (runOn f dir).2.place? (pathFor dir u) = some place ∧
          Document.render u = .ok text ∧
          (runOn f dir).2.root.look? place = some (.file text)) ∧
      (∀ names, (∀ u : Uid, 1 ≤ u.toNat → u.toNat ≤ n → f.place? (pathFor dir u) ≠ some names) →
        (runOn f dir).2.root.look? names = f.root.look? names) ∧
      (∀ (u : Uid) (place : List String), u.toNat = 0 ∨ n < u.toNat →
        f.place? (pathFor dir u) = some place →
          (runOn f dir).2.root.look? place = f.root.look? place) ∧
      (n = 100 ∧ (∃ r, (runOn f dir).1.result = .ok r ∧
          r.written = (List.range' 1 100).map (fun j => pathFor dir (UInt32.ofNat j)) ∧
          r.size = 100 ∧ r.isEmpty = false) ∨
        n < 100 ∧ ∃ (u : Uid) (fault : Files.Fault), u.toNat = n + 1 ∧
          (runOn f dir).1.result = .error (.write (pathFor dir u) fault)) ∧
      ∀ e, (runOn f dir).1.result ≠ .error (.template e) := by
  obtain ⟨n, hn, hwrote, -, hend⟩ := runOn_wrote f dir
  have hothers : ∀ names, (∀ u : Uid, 1 ≤ u.toNat → u.toNat ≤ n →
      f.place? (pathFor dir u) ≠ some names) →
      (runOn f dir).2.root.look? names = f.root.look? names := fun names h =>
    hwrote.others names fun u hu =>
      h u ((mem_take_uids hn u).mp hu).1 ((mem_take_uids hn u).mp hu).2
  refine ⟨n, hn, hwrote.dirs.cwd, fun u h h' => ?_, hothers, fun u place hu hplace => ?_, ?_, ?_⟩
  · obtain ⟨place, hplace, hfile⟩ := hwrote.written u ((mem_take_uids hn u).mpr ⟨h, h'⟩)
    exact ⟨place, fill u.decimal, hplace,
      (hwrote.dirs.place?_join (isName_fileName u)).trans hplace, render_eq u, hfile⟩
  · refine hothers place fun w h h' hw => ?_
    rw [place?_pathFor_inj hw hplace] at h h'
    omega
  · rcases hend with ⟨hall, hr⟩ | ⟨u, fault, hless, hu, -, hr⟩
    · refine Or.inl ⟨hall, _, hr, ?_, ?_, ?_⟩
      · exact List.map_map
      · rw [Report.size, List.length_map, length_uids]
      · rfl
    · exact Or.inr ⟨hless, u, fault, hu, hr⟩
  · intro e he
    rcases hend with ⟨-, hr⟩ | ⟨u, fault, -, -, -, hr⟩
    · rw [hr] at he
      cases he
    · rw [hr] at he
      cases he

/-- In an empty directory all documents are written, and nothing for the user after the last. -/
theorem runOn_writes_first_bare :
    (∃ text, Document.render 100 = .ok text ∧
        (runOn bare ".").2.root.look? ["user_100.yml"] = some (.file text)) ∧
      (runOn bare ".").2.root.look? ["user_101.yml"] = none := by
  obtain ⟨n, hn, -, hwritten, -, hlater, hend, -⟩ := runOn_writes_first bare "."
  obtain ⟨r, hr⟩ := (runOn_ok_iff bare ".").mpr fun u _ _ => succeedsAlone_bare u
  have hplace : ∀ u, bare.place? (pathFor "." u) = some [fileName u] := fun u => by
    obtain ⟨hs, -⟩ := (succeedsAlone_iff u).mp (succeedsAlone_bare u)
    exact place?_pathFor_eq_some_iff.mpr ⟨hs, [], folder_bare, rfl⟩
  rcases hend with ⟨rfl, -⟩ | ⟨-, u, fault, -, herror⟩
  · obtain ⟨place, text, hp, -, htext, hfile⟩ := hwritten 100 (by decide) (by decide)
    rw [hplace, Option.some.injEq] at hp
    exact ⟨⟨text, htext, hp ▸ hfile⟩, hlater 101 _ (Or.inr (by decide)) (hplace 101)⟩
  · simp [hr] at herror

/-! ## What the first files decide -/

/-- The first user of a run whose document cannot be written, with the fault. -/
structure FirstFailure (f : Files) (dir : String) (u : Uid) (fault : Files.Fault) : Prop where
  user : 1 ≤ u.toNat ∧ u.toNat ≤ 100
  before : ∀ w : Uid, 1 ≤ w.toNat → w.toNat < u.toNat → SucceedsAlone f dir w
  fails : FailsAlone f dir u fault

/-- A run that fails has the fault of its first user whose document cannot be written. -/
theorem firstFailure_of_error {e : Error} (he : (runOn f dir).1.result = .error e) :
    ∃ u fault, FirstFailure f dir u fault ∧ e = .write (pathFor dir u) fault := by
  obtain ⟨n, hn, hwrote, hnil, hend⟩ := runOn_wrote f dir
  rcases hend with ⟨-, hr⟩ | ⟨u, fault, hless, hu, hfails, hr⟩
  · simp [hr] at he
  rw [hr, Except.error.injEq] at he
  refine ⟨u, fault, ⟨by omega, fun w h h' => ?_, hwrote.failsAlone hnil hfails⟩, he.symm⟩
  exact hwrote.succeedsAlone ((mem_take_uids hn w).mpr ⟨h, by omega⟩)

/-- Where the directory does not exist, the first document already fails. -/
theorem runOn_of_folder_error {fault : Files.Fault} (hf : f.folder dir = .error fault) :
    (∃ fault', (runOn f dir).1.result = .error (.write (pathFor dir 1) fault')) ∧
      (runOn f dir).2 = f := by
  have hnone : ∀ u, ¬SucceedsAlone f dir u := fun u h => by
    obtain ⟨-, loc, hloc, -⟩ := (succeedsAlone_iff u).mp h
    simp [hf] at hloc
  obtain ⟨n, hn, hwrote, hnil, hend⟩ := runOn_wrote f dir
  obtain rfl : n = 0 := by
    by_contra hpos
    have hfirst := (mem_take_uids hn 1).mpr ⟨by decide, Nat.pos_of_ne_zero hpos⟩
    exact hnone 1 (hwrote.succeedsAlone hfirst)
  rcases hend with ⟨h, -⟩ | ⟨u, fault', -, hu, -, hr⟩
  · simp at h
  · obtain rfl : u = 1 := UInt32.toNat_inj.mp (by rw [hu]; rfl)
    exact ⟨⟨fault', hr⟩, hnil rfl⟩

/-- How a run ends depends on the writes that could be made in the files before it, each by
itself. -/
theorem runOn_decided_alone (f : Files) (dir : String) :
    ((∃ r, (runOn f dir).1.result = .ok r) ↔
        ∀ u : Uid, 1 ≤ u.toNat → u.toNat ≤ 100 → SucceedsAlone f dir u) ∧
      (∀ e, (runOn f dir).1.result = .error e →
        ∃ u fault, FirstFailure f dir u fault ∧ e = .write (pathFor dir u) fault ∧
          e.causes = [fault.message]) ∧
      ((∀ u : Uid, 1 ≤ u.toNat → u.toNat ≤ 100 →
          (pathFor dir u).utf8ByteSize ≤ Path.maxLength) →
        ((∃ r, (runOn f dir).1.result = .ok r) ↔
          ∃ loc, f.folder dir = .ok loc ∧ ∀ u : Uid, 1 ≤ u.toNat → u.toNat ≤ 100 →
            f.root.look? (loc ++ [fileName u]) ≠ some .dir)) ∧
      ∀ fault, f.folder dir = .error fault →
        (∃ fault', (runOn f dir).1.result = .error (.write (pathFor dir 1) fault')) ∧
          (runOn f dir).2 = f := by
  refine ⟨runOn_ok_iff f dir, fun e he => ?_, fun hsize => ?_, fun _ => runOn_of_folder_error⟩
  · obtain ⟨u, fault, hfirst, rfl⟩ := firstFailure_of_error he
    exact ⟨u, fault, hfirst, rfl, rfl⟩
  · rw [runOn_ok_iff]
    constructor
    · intro hall
      obtain ⟨-, loc, hloc, -⟩ := (succeedsAlone_iff 1).mp (hall 1 (by decide) (by decide))
      refine ⟨loc, hloc, fun u h h' => ?_⟩
      obtain ⟨-, loc', hloc', hn⟩ := (succeedsAlone_iff u).mp (hall u h h')
      rw [hloc, Except.ok.injEq] at hloc'
      rwa [hloc']
    · rintro ⟨loc, hloc, hn⟩ u h h'
      exact (succeedsAlone_iff u).mpr ⟨hsize u h h', loc, hloc, hn u h h'⟩

/-- A run into an empty directory, and one into a directory that does not exist. -/
theorem runOn_decided_alone_bare :
    (∃ r, (runOn bare ".").1.result = .ok r) ∧ (runOn bare "users").2 = bare ∧
      ∃ u fault, FirstFailure bare "users" u fault := by
  obtain ⟨-, -, hok, -⟩ := runOn_decided_alone bare "."
  obtain ⟨-, herror, -, hmissing⟩ := runOn_decided_alone bare "users"
  obtain ⟨⟨fault, hr⟩, hsame⟩ := hmissing .missing rfl
  obtain ⟨u, fault', hfirst, -⟩ := herror _ hr
  refine ⟨(hok fun u _ _ => ?_).mpr ⟨[], folder_bare, fun u _ _ => ?_⟩, hsame, u, fault', hfirst⟩
  · exact ((succeedsAlone_iff u).mp (succeedsAlone_bare u)).1
  · obtain ⟨-, loc, hloc, hn⟩ := (succeedsAlone_iff u).mp (succeedsAlone_bare u)
    obtain rfl : [] = loc := by simpa [folder_bare] using hloc
    exact hn

end UserConfigs.Emit
