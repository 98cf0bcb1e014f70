import UserConfigs.Emit
import UserConfigs.Log.Filter

/-!
# The command line

The command writes the config documents of all users into the working directory. It takes no
arguments. Its log goes by a filter that the environment may give (`filter`), with limits for
the command's own parts on top of it. A failed run is told after the log, with its causes.
-/

namespace UserConfigs.Command

/-- The name of the command, which is the target of its own records. -/
def name : String := "mkconfig"

/-- The filter for the log, from the text that the environment gives, if any. -/
def filter (env : Option String) : Log.Filter :=
  ((Log.Filter.parse (env.getD "")).insert "config_app" (some .info)).insert "config_emitter"
    (some .info)

/-- The record for the end of a run that succeeded. -/
def done (r : Emit.Report) : Log.Record := ⟨.info, name, "done", [("count", Nat.repr r.size)]⟩

/-- The records of the command for a run, shown or not. -/
def records (o : Emit.Outcome) : List Log.Record :=
  o.records ++
    match o.result with
    | .ok r => [done r]
    | .error _ => []

/-- The lines that tell causes. Several causes are numbered. -/
def causeLines : List String → List String
  | [] => []
  | [cause] => ["", "Caused by:", "    " ++ cause]
  | causes =>
    ["", "Caused by:"] ++ (causes.zipIdx).map fun c =>
      String.ofList (List.replicate (5 - (Nat.repr c.2).length) ' ') ++ Nat.repr c.2 ++ ": " ++ c.1

/-- The lines that tell why a run failed. -/
def errorLines (e : Emit.Error) : List String :=
  ("Error: " ++ e.message) :: causeLines e.causes

/-- What the command shows and its exit code. -/
structure Result where
  code : UInt32
  /-- The records shown. -/
  log : List Log.Record
  /-- The lines after the log. -/
  message : List String
  deriving Repr

/-- The lines shown. -/
def Result.lines (r : Result) : List String := r.log.flatMap Log.Record.lines ++ r.message

/-- What is shown of a run. -/
def result (env : Option String) (o : Emit.Outcome) : Result where
  code := match o.result with
    | .ok _ => 0
    | .error _ => 1
  log := (records o).filter (filter env).shows
  message := match o.result with
    | .ok _ => []
    | .error e => errorLines e

/-- Run the command. `write` puts a text into the file at a path. -/
def run {m : Type → Type} [Monad m] (write : String → String → m (Option Files.Fault))
    (env : Option String) : m Result := do
  return result env (← Emit.run write Emit.defaultDir)

/-- Run the command on files, and give the files afterwards too. -/
def runOn (f : Files) (env : Option String) : Result × Files := run Emit.put env f

/-- Start the command in another working directory. The files afterwards have their own
working directory again. -/
def runIn (f : Files) (dir : String) (env : Option String) : Except Files.Fault (Result × Files) :=
  if dir.toList.contains '\x00' then .error (.other "nul byte found in provided data")
  else
    match f.moveTo dir with
    | .error fault => .error fault
    | .ok inner =>
      let (r, after) := runOn inner env
      .ok (r, { after with cwd := f.cwd })

/-- What is known of the command after it has ended. -/
structure Exit where
  code : UInt32
  /-- The lines on the standard output. -/
  stdout : List String
  /-- The lines on the standard error, without the times of the log. -/
  stderr : List String
  deriving Repr

/-- The end of the command. The log and the error both go to the standard error. -/
def Result.exit (r : Result) : Exit := ⟨r.code, [], r.lines⟩

/-- Start the command in another working directory with some arguments, of which it uses none. -/
def start (f : Files) (dir : String) (_args : List String) (env : Option String) :
    Except Files.Fault (Exit × Files) :=
  (runIn f dir env).map fun (r, after) => (r.exit, after)

end UserConfigs.Command
