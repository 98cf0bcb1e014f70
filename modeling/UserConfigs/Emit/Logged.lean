import UserConfigs.Emit
import UserConfigs.Log.Filter

/-!
# Runs with a log

`run` keeps its events for its outcome. `tellingRun` keeps nothing but the paths that it has
written, and hands every event to `tell` at the time when it happens : a write that fails is told
before the run breaks off, and a document after it was written and before its path is noted.
`loggedRun` does so on files with a log beside them (`Journal`), to which every event adds the
lines that a limit lets through.
-/

namespace UserConfigs.Emit

/-! ## Events told in turn -/

section

variable {m : Type → Type} [Monad m] (tell : Event → m Unit)
  (render : Uid → Except Template.Error String)
  (write : String → String → m (Option Files.Fault))

/-- Put a text into the file at a path, and tell the fault if it fails. -/
def tellingWrite (path text : String) : m (Option Files.Fault) := do
  match ← write path text with
  | some fault =>
    tell (.failed path fault)
    return some fault
  | none => return none

/-- Write the documents of some users. `written` are the paths written before. -/
def tellingAll (dir : String) : List String → List Uid → m (Except Error Report)
  | written, [] => return .ok ⟨written⟩
  | written, uid :: rest =>
    match render uid with
    | .error e => return .error (.template e)
    | .ok text => do
      match ← tellingWrite tell write (pathFor dir uid) text with
      | some fault => return .error (.write (pathFor dir uid) fault)
      | none =>
        tell (.wrote uid (pathFor dir uid))
        tellingAll dir (written ++ [pathFor dir uid]) rest

/-- Write documents, and tell what comes before and after. -/
def tellingAround (dir : String) (writes : m (Except Error Report)) :
    m (Except Error Report) := do
  tell (.started dir)
  match ← writes with
  | .error e => return .error e
  | .ok r =>
    tell (.finished r.size dir)
    return .ok r

/-- Write the documents of all users. -/
def tellingRun (dir : String) : m (Except Error Report) :=
  tellingAround tell dir (tellingAll tell Document.render write dir Report.empty.written uids)

end

/-! ## Files with a log -/

/-- Files with the log of what is done in them. -/
structure Journal where
  files : Files
  /-- The lines of the log. -/
  lines : List String

/-- The lines that records make under a limit. -/
def linesUnder (limit : Log.Limit) (records : List Log.Record) : List String :=
  match limit with
  | some level => Log.linesWithin level records
  | none => []

/-- An event at the end of the log. -/
def note (limit : Log.Limit) (event : Event) : StateM Journal Unit :=
  modify fun j => { j with lines := j.lines ++ linesUnder limit [event.record] }

/-- Put a text into a file, with the log as it is. -/
def putBeside (path text : String) : StateM Journal (Option Files.Fault) := fun j =>
  ((put path text j.files).1, { j with files := (put path text j.files).2 })

/-- Write the documents of all users and log it. -/
def loggedRun (f : Files) (dir : String) (limit : Log.Limit) : Except Error Report × Journal :=
  tellingRun (note limit) putBeside dir ⟨f, []⟩

end UserConfigs.Emit
