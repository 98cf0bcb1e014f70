import Mathlib.Data.List.Flatten
import UserConfigs.Emit.Logged
import UserConfigs.Proofs.Forecast

/-!
# What a run tells

The events of a run tell what it did (`runOn_tells`) : after the start every document that was
written, in order, and then either that the run is done or the write that failed. They say it in
full, since runs with the same records show the same result (`shown_of_records`).

A run that hands out its events while it goes on leaves the same files and has the same result,
and its log has the lines of these events that the limit lets through (`loggedRun_eq`). The
induction is over the users that are left, with any paths written and any log before them
(`tellingAll_eq`).
-/

namespace UserConfigs

/-! ## Lines under a limit -/

namespace Log

theorem linesWithin_append (limit : Level) (rs rs' : List Record) :
    linesWithin limit (rs ++ rs') = linesWithin limit rs ++ linesWithin limit rs' := by
  simp only [linesWithin, List.filter_append, List.flatMap_append]

/-- A looser limit leaves out less. -/
theorem linesWithin_sublist {strict loose : Level} (h : strict.within loose) (rs : List Record) :
    (linesWithin strict rs).Sublist (linesWithin loose rs) := by
  refine List.Sublist.flatMap (List.monotone_filter_right rs fun r hr => ?_) Record.lines
  exact Level.within_trans hr h

end Log

namespace Emit

open Document (fill fileName isName_fileName)

variable {f g : Files} {dir dir' : String}

theorem linesUnder_nil (limit : Log.Limit) : linesUnder limit [] = [] := by
  cases limit <;> rfl

theorem linesUnder_append (limit : Log.Limit) (rs rs' : List Log.Record) :
    linesUnder limit (rs ++ rs') = linesUnder limit rs ++ linesUnder limit rs' := by
  cases limit with
  | none => rfl
  | some level => exact Log.linesWithin_append level rs rs'

/-! ## Runs that tell their events -/

theorem tellingWrite_apply (limit : Log.Limit) (path text : String) (f : Files)
    (lines : List String) :
    tellingWrite (note limit) putBeside path text ⟨f, lines⟩ =
      match f.write path text with
      | .ok g => (none, ⟨g, lines⟩)
      | .error fault =>
        (some fault, ⟨f, lines ++ linesUnder limit [(Event.failed path fault).record]⟩) := by
  have hput : put path text f =
      match f.write path text with
      | .ok g => (none, g)
      | .error fault => (some fault, f) := rfl
  simp only [tellingWrite, putBeside, bind, StateT.bind, hput]
  cases f.write path text with
  | ok g => rfl
  | error fault => rfl

theorem tellingAll_cons (limit : Log.Limit) (dir : String) (written : List String) (u : Uid)
    (users : List Uid) (f : Files) (lines : List String) :
    tellingAll (note limit) Document.render putBeside dir written (u :: users) ⟨f, lines⟩ =
      match f.write (pathFor dir u) (fill u.decimal) with
      | .ok g =>
        tellingAll (note limit) Document.render putBeside dir (written ++ [pathFor dir u]) users
          ⟨g, lines ++ linesUnder limit [(Event.wrote u (pathFor dir u)).record]⟩
      | .error fault =>
        (.error (.write (pathFor dir u) fault),
          ⟨f, lines ++ linesUnder limit [(Event.failed (pathFor dir u) fault).record]⟩) := by
  rw [tellingAll, Document.render_eq]
  simp only [bind, StateT.bind, tellingWrite_apply]
  cases f.write (pathFor dir u) (fill u.decimal) with
  | ok g => rfl
  | error fault => rfl

/-- Writing some documents and telling it ends as writing them does. -/
theorem tellingAll_eq (limit : Log.Limit) (dir : String) :
    ∀ (users : List Uid) (written : List String) (f : Files) (lines : List String),
      tellingAll (note limit) Document.render putBeside dir written users ⟨f, lines⟩ =
        ((writeOn dir users f).1.result.map fun r => ⟨written ++ r.written⟩,
          ⟨(writeOn dir users f).2, lines ++ linesUnder limit (writeOn dir users f).1.records⟩)
  | [], written, f, lines => by
    have hnone : tellingAll (note limit) Document.render putBeside dir written [] ⟨f, lines⟩ =
        (.ok ⟨written⟩, ⟨f, lines⟩) := rfl
    simp only [hnone, writeOn_nil, Outcome.records, List.map_nil, Except.map, Report.empty,
      List.append_nil, linesUnder_nil]
  | u :: users, written, f, lines => by
    rw [tellingAll_cons, writeOn_cons]
    cases f.write (pathFor dir u) (fill u.decimal) with
    | error fault => rfl
    | ok g =>
      have hrecords : ((writeOn dir users g).1.wrote u (pathFor dir u)).records =
          [(Event.wrote u (pathFor dir u)).record] ++ (writeOn dir users g).1.records := rfl
      have hresult : ((writeOn dir users g).1.wrote u (pathFor dir u)).result =
          (writeOn dir users g).1.result.map fun r => ⟨pathFor dir u :: r.written⟩ := rfl
      simp only [tellingAll_eq limit dir users, hrecords, hresult, linesUnder_append,
        List.append_assoc]
      cases (writeOn dir users g).1.result <;> rfl

/-- What comes before and after the writes of a run is told too. -/
theorem tellingAround_eq (act : StateM Journal (Except Error Report)) (limit : Log.Limit)
    (o : Outcome)
    (hact : act ⟨f, linesUnder limit [(Event.started dir).record]⟩ =
      (o.result,
        ⟨g, linesUnder limit [(Event.started dir).record] ++ linesUnder limit o.records⟩)) :
    tellingAround (note limit) dir act ⟨f, []⟩ =
      (((o.finish dir).prepend (.started dir)).result,
        ⟨g, linesUnder limit ((o.finish dir).prepend (.started dir)).records⟩) := by
  have hstart : note limit (.started dir) ⟨f, []⟩ =
      ((), ⟨f, linesUnder limit [(Event.started dir).record]⟩) := rfl
  have hresult : ((o.finish dir).prepend (.started dir)).result = o.result := rfl
  simp only [tellingAround, bind, StateT.bind, hstart, hact, hresult]
  cases h : o.result with
  | ok r =>
    have hrecords : ((o.finish dir).prepend (.started dir)).records =
        [(Event.started dir).record] ++ o.records ++ [(Event.finished r.size dir).record] := by
      simp [Outcome.records, Outcome.prepend, Outcome.finish, h]
    rw [hrecords, linesUnder_append, linesUnder_append]
    rfl
  | error e =>
    have hrecords : ((o.finish dir).prepend (.started dir)).records =
        [(Event.started dir).record] ++ o.records := by
      simp [Outcome.records, Outcome.prepend, Outcome.finish, h]
    rw [hrecords, linesUnder_append]
    rfl

theorem loggedRun_of_tellingAll {limit : Log.Limit} {x : Outcome × Files}
    (hrun : runOn f dir = ((x.1.finish dir).prepend (.started dir), x.2))
    (hall : tellingAll (note limit) Document.render putBeside dir Report.empty.written uids
        ⟨f, linesUnder limit [(Event.started dir).record]⟩ =
      (x.1.result,
        ⟨x.2, linesUnder limit [(Event.started dir).record] ++ linesUnder limit x.1.records⟩)) :
    loggedRun f dir limit =
      ((runOn f dir).1.result, ⟨(runOn f dir).2, linesUnder limit (runOn f dir).1.records⟩) := by
  rw [hrun, loggedRun, tellingRun]
  exact tellingAround_eq _ limit x.1 hall

/-- A run with a log ends as the run without it, and logs its records. -/
theorem loggedRun_eq (f : Files) (dir : String) (limit : Log.Limit) :
    loggedRun f dir limit =
      ((runOn f dir).1.result, ⟨(runOn f dir).2, linesUnder limit (runOn f dir).1.records⟩) := by
  have hempty : ∀ r : Except Error Report,
      (r.map fun r => ⟨Report.empty.written ++ r.written⟩) = r := by
    rintro (e | r) <;> rfl
  refine loggedRun_of_tellingAll (runOn_eq_writeOn f dir) ?_
  rw [tellingAll_eq, hempty]

/-! ## The records of a run -/

/-- What is shown of the result of a run : the paths written, or the messages of the error. -/
def shown (result : Except Error Report) : Except (String × List String) Report :=
  result.mapError fun e => (e.message, e.causes)

namespace Forecast

variable {p q : Forecast}

theorem records_outcome (p : Forecast) (dir : String) :
    (p.outcome dir).records =
      (Event.started dir).record :: ((p.wrote dir).map Event.record ++ [(p.last dir).record]) := by
  simp only [Outcome.records, outcome, List.map_cons, List.map_append, List.map_nil]

/-- The records of the documents are about the users in order. -/
theorem records_wrote {n : Nat} (hn : n ≤ 100) (hdone : p.done = uids.take n) (dir : String) :
    (p.wrote dir).map Event.record = (List.range' 1 n).map fun j =>
      ⟨.debug, Event.target, "wrote config",
        [("uid", Nat.repr j), ("path", pathFor dir (UInt32.ofNat j))]⟩ := by
  rw [wrote, hdone, take_uids hn, List.map_map, List.map_map]
  refine List.map_congr_left fun j hj => ?_
  have hless : j < 1 + n := (List.mem_range'_1.mp hj).2
  rw [Function.comp_apply, Function.comp_apply, Event.record, Uid.decimal,
    toNat_ofNat_of_le (by omega)]

/-- The last record goes with the result. -/
theorem record_last {n : Nat} (hn : n ≤ 100) (hdone : p.done = uids.take n)
    (hend : n = 100 ∧ p.stop = none ∨
      n < 100 ∧ ∃ fault, p.stop = some (UInt32.ofNat (n + 1), fault)) (dir : String) :
    n = 100 ∧
        (∃ r, p.result dir = .ok r ∧ r.size = n ∧
          r.written = (List.range' 1 n).map fun j => pathFor dir (UInt32.ofNat j)) ∧
        (p.last dir).record = ⟨.info, Event.target, "user configs written",
          [("count", Nat.repr n), ("dir", dir)]⟩ ∨
      n < 100 ∧ ∃ path fault, path = pathFor dir (UInt32.ofNat (n + 1)) ∧
        p.result dir = .error (.write path fault) ∧
        (p.last dir).record = ⟨.error, Event.target, "failed to write config",
          [("path", path), ("source", fault.message)]⟩ := by
  have hpaths : p.done.map (pathFor dir) =
      (List.range' 1 n).map fun j => pathFor dir (UInt32.ofNat j) := by
    rw [hdone, take_uids hn, List.map_map]
    rfl
  have hlength : p.done.length = n := by
    rw [hdone, take_uids hn, List.length_map, List.length_range']
  rcases hend with ⟨hall, hstop⟩ | ⟨hless, fault, hstop⟩
  · refine Or.inl ⟨hall, ⟨⟨p.done.map (pathFor dir)⟩, ?_, ?_, hpaths⟩, ?_⟩
    · rw [result, hstop]
    · rw [Report.size, List.length_map, hlength]
    · rw [last, hstop, hlength]
      rfl
  · refine Or.inr ⟨hless, pathFor dir (UInt32.ofNat (n + 1)), fault, rfl, ?_, ?_⟩
    · rw [result, hstop]
    · rw [last, hstop]
      rfl

/-- The records of the documents tell the users. -/
theorem done_eq_of_records
    (h : (q.wrote dir).map Event.record = (p.wrote dir).map Event.record) : q.done = p.done := by
  simp only [wrote, List.map_map] at h
  refine (List.map_injective_iff.mpr fun u w huw => ?_) h
  simp only [Function.comp_apply, Event.record, Log.Record.mk.injEq, List.cons.injEq,
    Prod.mk.injEq] at huw
  exact Uid.decimal_inj.mp huw.2.2.2.1.2

/-- The last record tells the result, if the documents written are known. -/
theorem shown_eq_of_records (hdone : q.done = p.done)
    (h : (q.last dir).record = (p.last dir).record) :
    shown (q.result dir) = shown (p.result dir) := by
  obtain ⟨done, stop⟩ := p
  obtain ⟨done', stop'⟩ := q
  obtain rfl : done' = done := hdone
  rcases stop with _ | ⟨u, fault⟩ <;> rcases stop' with _ | ⟨u', fault'⟩
  · rfl
  · simp [last, Event.record] at h
  · simp [last, Event.record] at h
  · simp only [last, Event.record, Log.Record.mk.injEq, List.cons.injEq, Prod.mk.injEq] at h
    obtain ⟨-, -, -, ⟨-, hpath⟩, ⟨-, hfault⟩, -⟩ := h
    calc shown (.error (.write (pathFor dir u') fault'))
      _ = .error ("failed to write " ++ pathFor dir u', [fault'.message]) := rfl
      _ = .error ("failed to write " ++ pathFor dir u, [fault.message]) := by rw [hpath, hfault]
      _ = shown (.error (.write (pathFor dir u) fault)) := rfl

theorem shown_of_records (h : (q.outcome dir').records = (p.outcome dir).records) :
    dir' = dir ∧ shown (q.outcome dir').result = shown (p.outcome dir).result := by
  rw [records_outcome, records_outcome] at h
  obtain ⟨hstart, hrest⟩ := List.cons.inj h
  obtain rfl : dir' = dir := by simpa [Event.record] using hstart
  obtain ⟨hwrote, hlast⟩ := List.append_inj' hrest rfl
  refine ⟨rfl, ?_⟩
  exact shown_eq_of_records (done_eq_of_records hwrote) (List.singleton_inj.mp hlast)

end Forecast

theorem outcome_runOn (f : Files) (dir : String) :
    (runOn f dir).1 = (forecast f dir uids).outcome dir := by
  rw [runOn_eq]

/-- Runs with the same records are into the same directory and show the same result. -/
theorem shown_of_records (h : (runOn g dir').1.records = (runOn f dir).1.records) :
    dir' = dir ∧ shown (runOn g dir').1.result = shown (runOn f dir).1.result := by
  rw [outcome_runOn, outcome_runOn] at h ⊢
  exact Forecast.shown_of_records h

/-- The records of a run are its start, the documents that it has written, and its end, and they
agree with the files, the result and the paths in it. Runs with the same records are into the same
directory and show the same result. A log has the lines of the records up to its limit, more of
them under a looser limit, and neither the result nor the files change with it. -/
theorem runOn_tells (f : Files) (dir : String) :
    (∃ n ≤ 100, ∃ last : Log.Record,
      (runOn f dir).1.records =
        ⟨.info, Event.target, "emitting user configs",
            [("dir", dir), ("first", "1"), ("last", "100")]⟩ ::
          ((List.range' 1 n).map fun j => ⟨.debug, Event.target, "wrote config",
            [("uid", Nat.repr j), ("path", pathFor dir (UInt32.ofNat j))]⟩) ++ [last] ∧
      (∀ u : Uid, 1 ≤ u.toNat → u.toNat ≤ n → ∃ place text,
        f.place? (pathFor dir u) = some place ∧ Document.render u = .ok text ∧
          (runOn f dir).2.root.look? place = some (.file text)) ∧
      (∀ names, (∀ u : Uid, 1 ≤ u.toNat → u.toNat ≤ n → f.place? (pathFor dir u) ≠ some names) →
        (runOn f dir).2.root.look? names = f.root.look? names) ∧
      (n = 100 ∧
          (∃ r, (runOn f dir).1.result = .ok r ∧ r.size = n ∧
            r.written = (List.range' 1 n).map fun j => pathFor dir (UInt32.ofNat j)) ∧
          last = ⟨.info, Event.target, "user configs written",
            [("count", Nat.repr n), ("dir", dir)]⟩ ∨
        n < 100 ∧ ∃ path fault, path = pathFor dir (UInt32.ofNat (n + 1)) ∧
          (runOn f dir).1.result = .error (.write path fault) ∧
          last = ⟨.error, Event.target, "failed to write config",
            [("path", path), ("source", fault.message)]⟩)) ∧
    (∀ g dir', (runOn g dir').1.records = (runOn f dir).1.records →
      dir' = dir ∧ shown (runOn g dir').1.result = shown (runOn f dir).1.result) ∧
    (∀ limit : Log.Level, loggedRun f dir (some limit) =
      ((runOn f dir).1.result, ⟨(runOn f dir).2, ((runOn f dir).1.records.filter fun r =>
        r.level.rank ≤ limit.rank).flatMap Log.Record.lines⟩)) ∧
    loggedRun f dir none = ((runOn f dir).1.result, ⟨(runOn f dir).2, []⟩) ∧
    ∀ strict loose : Log.Level, strict.rank ≤ loose.rank →
      (loggedRun f dir (some strict)).2.lines.Sublist (loggedRun f dir (some loose)).2.lines := by
  obtain ⟨n, hn, hdone, hend⟩ := forecast_uids f dir
  have hwrote : Wrote f dir (uids.take n) (runOn f dir).2 := hdone ▸ wrote_runOn f dir
  refine ⟨⟨n, hn, ((forecast f dir uids).last dir).record, ?_, fun u h h' => ?_, fun names h => ?_,
    ?_⟩, fun g dir' => shown_of_records, fun limit => loggedRun_eq f dir (some limit),
    loggedRun_eq f dir none, fun strict loose h => ?_⟩
  · rw [outcome_runOn, Forecast.records_outcome, Forecast.records_wrote hn hdone]
    rfl
  · obtain ⟨place, hplace, hfile⟩ := hwrote.written u ((mem_take_uids hn u).mpr ⟨h, h'⟩)
    exact ⟨place, fill u.decimal, hplace, Document.render_eq u, hfile⟩
  · refine hwrote.others names fun u hu => ?_
    obtain ⟨hfirst, hlast⟩ := (mem_take_uids hn u).mp hu
    exact h u hfirst hlast
  · rw [outcome_runOn]
    exact Forecast.record_last hn hdone hend dir
  · simp only [loggedRun_eq, linesUnder]
    exact Log.linesWithin_sublist (by simpa [Log.Level.within] using h) _

/-- In an empty directory the stricter log tells the start and the end, and the looser one tells
every document too. -/
theorem runOn_tells_bare :
    (loggedRun bare "." (some .info)).2.lines =
        ["INFO config_emitter::emitter: emitting user configs dir=. first=1 last=100",
          "INFO config_emitter::emitter: user configs written count=100 dir=."] ∧
      (loggedRun bare "." (some .info)).2.lines.Sublist
        (loggedRun bare "." (some .debug)).2.lines := by
  obtain ⟨⟨n, -, last, hrecords, -, -, hend⟩, -, hlines, -, hlooser⟩ := runOn_tells bare "."
  obtain ⟨r, hr⟩ := (runOn_ok_iff bare ".").mpr fun u _ _ => succeedsAlone_bare u
  refine ⟨?_, hlooser .info .debug (by decide)⟩
  rcases hend with ⟨rfl, -, rfl⟩ | ⟨-, path, fault, -, herror, -⟩
  · have hdebug : ((List.range' 1 100).map fun j => (⟨.debug, Event.target, "wrote config",
        [("uid", Nat.repr j), ("path", pathFor "." (UInt32.ofNat j))]⟩ : Log.Record)).filter
          (fun r => r.level.rank ≤ Log.Level.info.rank) = [] := by
      rw [List.filter_map, List.map_eq_nil_iff]
      exact List.filter_eq_nil_iff.mpr fun j _ => by simp [Log.Level.rank]
    rw [hlines, hrecords, List.filter_append, List.filter_cons_of_pos (by decide), hdebug]
    rfl
  · simp [hr] at herror

end Emit

end UserConfigs
