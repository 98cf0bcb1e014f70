import UserConfigs.Proofs.Ascending
import UserConfigs.Proofs.Spellings
import UserConfigs.Proofs.Telling

/-!
# What a filter shows

Directives are bound one by one, so of those for one target the last one holds (`Holds`), and for a
record the one with the longest start of its target decides (`Decides`). A filter shows what this
one lets through (`shows_iff_admits`), and a text of directives is read as them (`parse_written`).

The command sets limits for its own parts behind those of the environment. Records of a run have one
target, and below the command's limit for it only longer starts count (`decides_joined`). With
none of them the standard error tells the start and the end of a run and what went wrong
(`start_shows_admitted`).
-/

namespace UserConfigs.Log

/-! ## Directives -/

/-- A part of a written filter : a level, for the targets with a start. -/
structure Directive where
  /-- The start, empty if the level stands alone. -/
  target : String
  /-- The level as it is written. -/
  word : String
  limit : Limit
  target_chars : ∀ c ∈ target.toList, isTargetChar c = true
  word_reads : Limit.ofText? word = some limit

namespace Directive

/-- A directive in a filter. -/
def text (d : Directive) : String :=
  if d.target = "" then d.word else d.target ++ "=" ++ d.word

/-- Directives with commas between them. -/
def written (ds : List Directive) : String := ",".intercalate (ds.map text)

/-- What a directive binds. -/
def binding (d : Directive) : String × Limit := (d.target, d.limit)

end Directive

/-- Of the bindings of one start the last one holds. -/
def Holds (l : List (String × Limit)) (d : String × Limit) : Prop :=
  ∃ before after, l = before ++ d :: after ∧ ∀ e ∈ after, e.1 ≠ d.1

/-- The binding that decides for a target is the one of the longest start. -/
structure Decides (l : List (String × Limit)) (target : String) (d : String × Limit) : Prop where
  holds : Holds l d
  start : d.1.toList <+: target.toList
  longest : ∀ e, Holds l e → e.1.toList <+: target.toList → e.1.length ≤ d.1.length

/-- The binding that decides lets a record through. -/
def Admits (l : List (String × Limit)) (r : Record) : Prop :=
  ∃ d level, Decides l r.target d ∧ d.2 = some level ∧ r.level.rank ≤ level.rank

theorem holds_iff_get? {l : List (String × Limit)} {d : String × Limit} :
    Holds l d ↔ Fields.get? d.1 (Fields.ofList l) = some d.2 :=
  Fields.get?_ofList.symm

theorem holds_iff_mem {l : List (String × Limit)} {d : String × Limit} :
    Holds l d ↔ d ∈ Fields.ofList l :=
  holds_iff_get?.trans (Fields.mem_iff_get? (Fields.ascending_ofList l)).symm

theorem Holds.eq {l : List (String × Limit)} {d e : String × Limit} (hd : Holds l d)
    (he : Holds l e) (h : d.1 = e.1) : d = e := by
  rw [holds_iff_get?] at hd he
  rw [h, he, Option.some.injEq] at hd
  exact Prod.ext h hd.symm

/-- Two starts of a target are the same if they are equally long. -/
theorem eq_of_starts {s t target : String} (hs : s.toList <+: target.toList)
    (ht : t.toList <+: target.toList) (h : s.length = t.length) : s = t := by
  have hlength : s.toList.length = t.toList.length := by
    rw [String.length_toList, String.length_toList, h]
  exact String.toList_inj.mp
    ((List.prefix_of_prefix_length_le hs ht hlength.le).eq_of_length hlength)

theorem Decides.eq {l : List (String × Limit)} {target : String} {d e : String × Limit}
    (hd : Decides l target d) (he : Decides l target e) : d = e :=
  hd.holds.eq he.holds (eq_of_starts hd.start he.start
    (Nat.le_antisymm (he.longest d hd.holds hd.start) (hd.longest e he.holds he.start)))

/-! ## Reading directives -/

/-- The words and digits for limits have neither commas nor equals signs. -/
theorem Limit.char_of_ofText? {s : String} {limit : Limit} (h : ofText? s = some limit) {c : Char}
    (hc : c ∈ s.toList) : c ≠ ',' ∧ c ≠ '=' := by
  have hwords : s.toLower ∈ ["off", "0", "error", "1", "warn", "2", "info", "3", "debug", "4",
      "trace", "5"] := by
    unfold ofText? at h
    split at h <;> simp_all
  have hlower : ∀ d : Char, d = ',' ∨ d = '=' → d ∈ s.toList → d ∈ s.toLower.toList := by
    rintro d hd hmem
    have hmap : s.toLower = s.map Char.toLower := rfl
    rw [hmap, String.toList_map, List.mem_map]
    exact ⟨d, hmem, by rcases hd with rfl | rfl <;> rfl⟩
  have hnone : ∀ w ∈ ["off", "0", "error", "1", "warn", "2", "info", "3", "debug", "4", "trace",
      "5"], ',' ∉ w.toList ∧ '=' ∉ w.toList := by decide
  obtain ⟨hcomma, hequals⟩ := hnone _ hwords
  constructor
  · rintro rfl
    exact hcomma (hlower ',' (Or.inl rfl) hc)
  · rintro rfl
    exact hequals (hlower '=' (Or.inr rfl) hc)

theorem Directive.directive?_text (d : Directive) :
    directive? d.text.toList = some d.binding := by
  obtain ⟨target, word, limit, htarget, hword⟩ := d
  simp only [text, binding]
  split
  · next hempty =>
    rw [directive?, String.ofList_toList, hword, hempty]
  · next hne =>
    have htext : (target ++ "=" ++ word).toList = target.toList ++ '=' :: word.toList := by simp
    have hnone : Limit.ofText? (String.ofList (target ++ "=" ++ word).toList) = none := by
      refine Option.eq_none_iff_forall_not_mem.mpr fun l hl => ?_
      exact (Limit.char_of_ofText? hl (c := '=') (by simp)).2 rfl
    have hequals : isTargetChar '=' = false := rfl
    have htake : (target.toList ++ '=' :: word.toList).takeWhile isTargetChar = target.toList := by
      rw [List.takeWhile_append_of_pos htarget, List.takeWhile_cons_of_neg (by simp [hequals]),
        List.append_nil]
    have hdrop : (target.toList ++ '=' :: word.toList).dropWhile isTargetChar =
        '=' :: word.toList := by
      rw [List.dropWhile_append_of_pos htarget, List.dropWhile_cons_of_neg (by simp [hequals])]
    have hstart : target.toList.isEmpty = false := by
      simpa [List.isEmpty_eq_false_iff] using hne
    rw [directive?, hnone, htext]
    simp only [htake, hdrop, hstart, Bool.false_eq_true, if_false, String.ofList_toList]
    cases hw : word.toList with
    | nil =>
      obtain rfl : word = "" := String.toList_inj.mp hw
      have hnone : Limit.ofText? "" = none := by decide +kernel
      simp [hnone] at hword
    | cons c cs =>
      have hlevel : String.ofList (c :: cs) = word := by rw [← hw, String.ofList_toList]
      simp only [hlevel, hword, Option.map_some]

theorem Directive.comma_notMem_text (d : Directive) : ',' ∉ d.text.toList := by
  obtain ⟨target, word, limit, htarget, hword⟩ := d
  have hnotWord : ',' ∉ word.toList := fun h => (Limit.char_of_ofText? hword h).1 rfl
  have hnotTarget : ',' ∉ target.toList := fun h => absurd (htarget ',' h) (by decide)
  simp only [text]
  split
  · exact hnotWord
  · simp [hnotWord, hnotTarget]

/-- Written directives are read as what they bind. -/
theorem Filter.parse_written (ds : List Directive) :
    Filter.parse (Directive.written ds) = Fields.ofList (ds.map Directive.binding) := by
  have hpieces : (Text.pieces ',' (Directive.written ds).toList).filterMap directive? =
      ds.map Directive.binding := by
    have hcomma : ",".toList = [','] := rfl
    rw [Directive.written, String.toList_intercalate, hcomma]
    cases ds with
    | nil => decide +kernel
    | cons d ds =>
      rw [Text.pieces_intercalate (by simp) (by simp [Directive.comma_notMem_text])]
      simp [List.filterMap_map, Function.comp_def, Directive.directive?_text]
  rw [Filter.parse, hpieces]

/-! ## Filters -/

/-- The longer start of two, the later one if they are equally long. -/
def longer (best : Option (String × Limit)) (d : String × Limit) : Option (String × Limit) :=
  if best.all fun b => b.1.length ≤ d.1.length then some d else best

theorem foldl_longer : ∀ (l : List (String × Limit)) (b : String × Limit),
    ∃ d ∈ b :: l, l.foldl longer (some b) = some d ∧ ∀ e ∈ b :: l, e.1.length ≤ d.1.length
  | [], b => ⟨b, List.mem_cons_self, rfl, by simp⟩
  | e :: l, b => by
    by_cases h : b.1.length ≤ e.1.length
    · obtain ⟨d, hd, hfold, hmax⟩ := foldl_longer l e
      refine ⟨d, List.mem_cons_of_mem b hd, by simpa [longer, h] using hfold, ?_⟩
      exact List.forall_mem_cons.mpr ⟨h.trans (hmax e List.mem_cons_self), hmax⟩
    · obtain ⟨d, hd, hfold, hmax⟩ := foldl_longer l b
      obtain ⟨hb, hl⟩ := List.forall_mem_cons.mp hmax
      refine ⟨d, ?_, by simpa [longer, h] using hfold, ?_⟩
      · exact (List.mem_cons.mp hd).elim (fun hd => hd ▸ List.mem_cons_self)
          fun hd => List.mem_cons_of_mem b (List.mem_cons_of_mem e hd)
      · exact List.forall_mem_cons.mpr
          ⟨hb, List.forall_mem_cons.mpr ⟨((Nat.lt_of_not_le h).le.trans hb), hl⟩⟩

/-- If some binding has a start of the target, the longest of them decides. -/
theorem decides_limit? {l : List (String × Limit)} {target : String} {e : String × Limit}
    (he : Holds l e) (hstart : e.1.toList <+: target.toList) :
    ∃ d, Decides l target d ∧ Filter.limit? (Fields.ofList l) target = some d.2 := by
  have hmem : ∀ d, d ∈ (Fields.ofList l).filter (fun d => d.1.toList.isPrefixOf target.toList) ↔
      Holds l d ∧ d.1.toList <+: target.toList := fun d => by
    rw [List.mem_filter, holds_iff_mem, List.isPrefixOf_iff_prefix]
  have hlimit : Filter.limit? (Fields.ofList l) target = (((Fields.ofList l).filter
      fun d => d.1.toList.isPrefixOf target.toList).foldl longer none).map (·.2) := rfl
  generalize (Fields.ofList l).filter (fun d => d.1.toList.isPrefixOf target.toList) = starts
    at hmem hlimit
  cases starts with
  | nil => exact absurd ((hmem e).mpr ⟨he, hstart⟩) List.not_mem_nil
  | cons b starts =>
    obtain ⟨d, hd, hfold, hmax⟩ := foldl_longer starts b
    obtain ⟨hholds, hprefix⟩ := (hmem d).mp hd
    refine ⟨d, ⟨hholds, hprefix, fun e he hstart => hmax e ((hmem e).mpr ⟨he, hstart⟩)⟩, ?_⟩
    have hfirst : longer none b = some b := rfl
    rw [hlimit, List.foldl_cons, hfirst, hfold, Option.map_some]

theorem limit?_eq_some_iff {l : List (String × Limit)} {target : String} {limit : Limit} :
    Filter.limit? (Fields.ofList l) target = some limit ↔
      ∃ d, Decides l target d ∧ d.2 = limit := by
  constructor
  · intro h
    obtain ⟨e, he, hstart⟩ : ∃ e, Holds l e ∧ e.1.toList <+: target.toList := by
      by_contra hnone
      have hnil : (Fields.ofList l).filter (fun d => d.1.toList.isPrefixOf target.toList) = [] :=
        List.filter_eq_nil_iff.mpr fun d hd hprefix =>
          hnone ⟨d, holds_iff_mem.mpr hd, List.isPrefixOf_iff_prefix.mp hprefix⟩
      simp [Filter.limit?, hnil] at h
    obtain ⟨d, hd, hlimit⟩ := decides_limit? he hstart
    exact ⟨d, hd, Option.some.inj (hlimit.symm.trans h)⟩
  · rintro ⟨d, hd, rfl⟩
    obtain ⟨d', hd', hlimit⟩ := decides_limit? hd.holds hd.start
    rw [hlimit, hd'.eq hd]

/-- A filter shows what the binding that decides lets through. -/
theorem shows_iff_admits {l : List (String × Limit)} {r : Record} :
    Filter.shows (Fields.ofList l) r = true ↔ Admits l r := by
  unfold Filter.shows Admits
  constructor
  · intro h
    split at h
    · next level hlimit =>
      obtain ⟨d, hd, hd'⟩ := limit?_eq_some_iff.mp hlimit
      exact ⟨d, level, hd, hd', of_decide_eq_true h⟩
    · simp at h
  · rintro ⟨d, level, hd, hd', hrank⟩
    rw [limit?_eq_some_iff.mpr ⟨d, hd, hd'⟩]
    exact decide_eq_true hrank

end UserConfigs.Log

namespace UserConfigs.Command

open Log (Directive Holds Decides Admits)
open Emit (Event)

/-! ## The filter of the command -/

/-- Bindings with those of the command's own parts behind them. -/
def joined (l : List (String × Log.Limit)) : List (String × Log.Limit) :=
  l ++ [("config_app", some .info), ("config_emitter", some .info)]

theorem filter_written {env : Option String} {ds : List Directive}
    (h : env.getD "" = Directive.written ds) :
    filter env = Fields.ofList (joined (ds.map Directive.binding)) := by
  rw [filter, h, Log.Filter.parse_written]
  simp only [joined, Fields.ofList, List.foldl_append, List.foldl_cons, List.foldl_nil]

/-- The text of a limit that is looked at for records of a run before the command's own one. -/
def IsLonger (start : String) : Prop :=
  start.toList <+: Event.target.toList ∧ "config_emitter".length < start.length

theorem holds_joined_of_longer {l : List (String × Log.Limit)} {d : String × Log.Limit}
    (hd : IsLonger d.1) : Holds (joined l) d ↔ Holds l d := by
  have happ : d.1 ≠ "config_app" := fun h => absurd (h ▸ hd.1) (by decide)
  have hemitter : d.1 ≠ "config_emitter" := fun h => absurd (h ▸ hd.2) (by decide)
  have hjoined : Fields.ofList (joined l) =
      ((Fields.ofList l).insert "config_app" (some .info)).insert "config_emitter"
        (some .info) := by
    simp only [joined, Fields.ofList, List.foldl_append, List.foldl_cons, List.foldl_nil]
  rw [Log.holds_iff_get?, Log.holds_iff_get?, hjoined, Fields.get?_insert, Fields.get?_insert,
    if_neg hemitter, if_neg happ]

theorem holds_joined_emitter (l : List (String × Log.Limit)) :
    Holds (joined l) ("config_emitter", some .info) :=
  ⟨l ++ [("config_app", some .info)], [], by simp [joined], by simp⟩

/-- For records of a run only the longer starts make a difference. -/
theorem decides_joined {l l' : List (String × Log.Limit)}
    (h : ∀ d : String × Log.Limit, IsLonger d.1 → (Holds l d ↔ Holds l' d))
    {d : String × Log.Limit} (hd : Decides (joined l) Event.target d) :
    Decides (joined l') Event.target d := by
  have hemitter : "config_emitter".toList <+: Event.target.toList := by decide
  have hle := hd.longest _ (holds_joined_emitter l) hemitter
  have hholds : Holds (joined l') d := by
    rcases Nat.lt_or_eq_of_le hle with hlt | heq
    · have hlonger : IsLonger d.1 := ⟨hd.start, hlt⟩
      rw [holds_joined_of_longer hlonger, ← h d hlonger, ← holds_joined_of_longer hlonger]
      exact hd.holds
    · rw [← (holds_joined_emitter l).eq hd.holds (Log.eq_of_starts hemitter hd.start heq)]
      exact holds_joined_emitter l'
  refine ⟨hholds, hd.start, fun e he hstart => ?_⟩
  rcases Nat.lt_or_ge "config_emitter".length e.1.length with hlt | hge
  · have hlonger : IsLonger e.1 := ⟨hstart, hlt⟩
    rw [holds_joined_of_longer hlonger, ← h e hlonger, ← holds_joined_of_longer hlonger] at he
    exact hd.longest e he hstart
  · exact hge.trans hle

theorem admits_joined_iff {l l' : List (String × Log.Limit)}
    (h : ∀ d : String × Log.Limit, IsLonger d.1 → (Holds l d ↔ Holds l' d)) {r : Log.Record}
    (hr : r.target = Event.target) : Admits (joined l) r ↔ Admits (joined l') r := by
  unfold Admits
  rw [hr]
  constructor
  · rintro ⟨d, level, hd, hlevel⟩
    exact ⟨d, level, decides_joined h hd, hlevel⟩
  · rintro ⟨d, level, hd, hlevel⟩
    exact ⟨d, level, decides_joined (fun d hlonger => (h d hlonger).symm) hd, hlevel⟩

/-- Without longer starts the command's own limit decides for records of a run. -/
theorem admits_joined_iff_of_none {l : List (String × Log.Limit)}
    (h : ∀ d : String × Log.Limit, IsLonger d.1 → ¬Holds l d) {r : Log.Record}
    (hr : r.target = Event.target) : Admits (joined l) r ↔ r.level.rank ≤ Log.Level.info.rank := by
  have hnone : ∀ d, ¬Holds [] d := by
    rintro d ⟨before, after, heq, -⟩
    simp at heq
  have hlimit : Log.Filter.limit? (Fields.ofList (joined [])) Event.target =
      some (some .info) := by decide
  have hsame : ∀ d : String × Log.Limit, IsLonger d.1 → (Holds l d ↔ Holds [] d) :=
    fun d hd => iff_of_false (h d hd) (hnone d)
  rw [admits_joined_iff hsame hr, ← Log.shows_iff_admits, Log.Filter.shows, hr, hlimit]
  exact decide_eq_true_iff

/-! ## What the command tells -/

/-- The lines on the standard error : those of the records that are shown, then those of an
error. -/
def stderrLines (shown : Log.Record → Bool) (o : Emit.Outcome) : List String :=
  ((records o).filter shown).flatMap Log.Record.lines ++
    match o.result with
    | .ok _ => []
    | .error e => errorLines e

/-- The records of a run are about the run, and no warnings. -/
theorem of_mem_records {o : Emit.Outcome} {r : Log.Record} (h : r ∈ o.records) :
    r.target = Event.target ∧ r.level ≠ .warn := by
  obtain ⟨event, -, rfl⟩ := List.mem_map.mp h
  cases event with
  | started dir => exact ⟨rfl, by simp [Event.record]⟩
  | wrote uid path => exact ⟨rfl, by simp [Event.record]⟩
  | failed path fault => exact ⟨rfl, by simp [Event.record]⟩
  | finished count dir => exact ⟨rfl, by simp [Event.record]⟩

theorem stderr_result (env : Option String) (o : Emit.Outcome) :
    (result env o).exit.stderr = stderrLines (filter env).shows o := rfl

theorem start_stderr (f : Files) (args : List String) (env : Option String) {dir : String}
    {loc : List String} (hdir : dir ≠ "") (hf : f.folder dir = .ok loc) :
    ∃ exit g, start f dir args env = .ok (exit, g) ∧ exit.stderr =
      stderrLines (filter env).shows (Emit.runOn { f with cwd := loc } Emit.defaultDir).1 :=
  ⟨_, _, start_of_runOn hdir hf args (runOn_apply _ env), stderr_result env _⟩

/-- The records of a run in an empty directory, without those of the documents. -/
theorem records_runOn_bare :
    (∃ r, (Emit.runOn Emit.bare ".").1.result = .ok r) ∧
      ((Emit.runOn Emit.bare ".").1.records.filter
          fun r => r.level = .info ∨ r.level = .error) =
        [(Event.started ".").record, (Event.finished 100 ".").record] := by
  obtain ⟨r, hr⟩ := (Emit.runOn_ok_iff Emit.bare ".").mpr fun u _ _ => Emit.succeedsAlone_bare u
  refine ⟨⟨r, hr⟩, ?_⟩
  obtain ⟨n, hn, hdone, hend⟩ := Emit.forecast_uids Emit.bare "."
  have hresult : (Emit.forecast Emit.bare "." Emit.uids).result "." = .ok r := by
    rw [← hr, Emit.outcome_runOn, Emit.Forecast.outcome]
  have hrecord := Emit.Forecast.record_last hn hdone hend "."
  rw [hresult] at hrecord
  rcases hrecord with ⟨rfl, -, hlast⟩ | ⟨-, path, fault, -, herror, -⟩
  · rw [Emit.outcome_runOn, Emit.Forecast.records_outcome, hlast,
      Emit.Forecast.records_wrote hn hdone, List.filter_cons_of_pos (by decide),
      List.filter_append]
    have hdebug : ∀ l : List Nat, ((l.map fun j => (⟨.debug, Event.target, "wrote config",
        [("uid", Nat.repr j), ("path", Emit.pathFor "." (UInt32.ofNat j))]⟩ : Log.Record)).filter
          fun r => r.level = .info ∨ r.level = .error) = [] := fun l => by
      rw [List.filter_map, List.map_eq_nil_iff]
      exact List.filter_eq_nil_iff.mpr fun j _ => by simp
    rw [hdebug]
    rfl
  · simp at herror

end UserConfigs.Command
