import UserConfigs.Document
import UserConfigs.Files
import UserConfigs.Log.Record

/-!
# Writing all config documents

A run writes the config documents of the users from `firstUid` to `lastUid` into a directory,
in ascending order, and stops at the first document that cannot be written; what it wrote
before that stays. `run` leaves open how a file is written, and `runOn` writes into a value of
`Files`; `writeAll` also leaves open how a document is rendered. Besides its result a run gives
its events, which tell step by step what it did.
-/

namespace UserConfigs.Emit

/-! ## Users and paths -/

/-- The first user. -/
def firstUid : Uid := 1

/-- The last user. -/
def lastUid : Uid := 100

/-- The users in order. -/
def uids : List Uid :=
  (List.range' firstUid.toNat (lastUid.toNat + 1 - firstUid.toNat)).map UInt32.ofNat

/-- The directory for the documents, if no other is given. -/
def defaultDir : String := "."

/-- The path of the document of a user. -/
def pathFor (dir : String) (uid : Uid) : String := Files.Path.join dir (Document.fileName uid)

/-! ## Results and events -/

/-- What a run that succeeds did. -/
structure Report where
  /-- The paths written, in order. -/
  written : List String
  deriving Repr, DecidableEq

namespace Report

/-- A report without a path. -/
def empty : Report := ⟨[]⟩

/-- How many files were written. -/
def size (r : Report) : Nat := r.written.length

/-- Nothing was written. -/
def isEmpty (r : Report) : Bool := r.written.isEmpty

end Report

/-- Why a run stops. -/
inductive Error where
  /-- A document cannot be rendered. -/
  | template (e : Template.Error)
  /-- A document cannot be written. -/
  | write (path : String) (fault : Files.Fault)

namespace Error

/-- The message of an error. -/
def message : Error → String
  | template e => "failed to render config: " ++ e.message
  | write path _ => "failed to write " ++ path

/-- The messages below the error's own, outermost first. -/
def causes : Error → List String
  | template e => e.message :: e.causes
  | write _ fault => [fault.message]

end Error

/-- A step of a run. -/
inductive Event where
  | started (dir : String)
  | wrote (uid : Uid) (path : String)
  | failed (path : String) (fault : Files.Fault)
  | finished (count : Nat) (dir : String)
  deriving Repr, DecidableEq

namespace Event

/-- The part of the program that events come from. -/
def target : String := "config_emitter::emitter"

/-- An event in a log. -/
def record : Event → Log.Record
  | started dir =>
    ⟨.info, target, "emitting user configs",
      [("dir", dir), ("first", firstUid.decimal), ("last", lastUid.decimal)]⟩
  | wrote uid path => ⟨.debug, target, "wrote config", [("uid", uid.decimal), ("path", path)]⟩
  | failed path fault =>
    ⟨.error, target, "failed to write config", [("path", path), ("source", fault.message)]⟩
  | finished count dir =>
    ⟨.info, target, "user configs written", [("count", Nat.repr count), ("dir", dir)]⟩

end Event

/-- What came of a run. -/
structure Outcome where
  events : List Event
  result : Except Error Report

namespace Outcome

/-- An event before the others. -/
def prepend (event : Event) (o : Outcome) : Outcome := { o with events := event :: o.events }

/-- A written path before the others. -/
def wrote (uid : Uid) (path : String) (o : Outcome) : Outcome where
  events := .wrote uid path :: o.events
  result := o.result.map fun r => ⟨path :: r.written⟩

/-- The event for the end of a run that succeeded. -/
def finish (dir : String) (o : Outcome) : Outcome where
  events := o.events ++
    match o.result with
    | .ok r => [.finished r.size dir]
    | .error _ => []
  result := o.result

/-- The log of a run. -/
def records (o : Outcome) : List Log.Record := o.events.map Event.record

end Outcome

/-! ## Runs -/

section

variable {m : Type → Type} [Monad m] (render : Uid → Except Template.Error String)
  (write : String → String → m (Option Files.Fault))

/-- Write the documents of some users. `render` gives the document of a user, and `write` puts a
text into the file at a path and gives the fault if it fails. -/
def writeAll (dir : String) : List Uid → m Outcome
  | [] => pure ⟨[], .ok .empty⟩
  | uid :: rest =>
    match render uid with
    | .error e => pure ⟨[], .error (.template e)⟩
    | .ok text => do
      match ← write (pathFor dir uid) text with
      | some fault =>
        pure ⟨[.failed (pathFor dir uid) fault], .error (.write (pathFor dir uid) fault)⟩
      | none => return (← writeAll dir rest).wrote uid (pathFor dir uid)

/-- Write the documents of all users. -/
def run (dir : String) : m Outcome := do
  return ((← writeAll Document.render write dir uids).finish dir).prepend (.started dir)

end

/-- Put a text into a file; a fault changes nothing. -/
def put (path text : String) : StateM Files (Option Files.Fault) := fun f =>
  match f.write path text with
  | .ok f => (none, f)
  | .error fault => (some fault, f)

/-- Write the documents of all users, and give the files afterwards too. -/
def runOn (f : Files) (dir : String) : Outcome × Files := run put dir f

end UserConfigs.Emit
