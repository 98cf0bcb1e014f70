import Std.Time
import UserConfigs.Command

/-!
# The program

`main` runs the command on the files of the system. Every line of the log starts with the
time, in UTC.
-/

namespace UserConfigs.Main

/-- What the system says of an error, with its number. -/
def systemText (number : UInt32) (text : String) : Files.Fault :=
  .other (text ++ " (os error " ++ toString number ++ ")")

/-- The fault for an error of the system. -/
def fault : IO.Error → Files.Fault
  | .noFileOrDirectory _ n text | .inappropriateType _ n text | .permissionDenied _ n text
  | .resourceExhausted _ n text | .alreadyExists _ n text | .invalidArgument _ n text
  | .noSuchThing _ n text | .interrupted _ n text | .resourceBusy n text
  | .resourceVanished n text | .hardwareFault n text | .otherError n text
  | .unsupportedOperation n text | .unsatisfiedConstraints n text
  | .illegalOperation n text | .protocolError n text | .timeExpired n text => systemText n text
  | .unexpectedEof => .other "unexpected end of file"
  | .userError text => .other text

/-- Put a text into a file. -/
def write (path text : String) : IO (Option Files.Fault) := do
  try
    IO.FS.writeFile path text
    return none
  catch e => return some (fault e)

/-- The time, to the microsecond. -/
def now : IO String := do
  let t ← Std.Time.Timestamp.now
  return (Std.Time.DateTime.ofTimestampWithZone t .UTC).format
    "uuuu-MM-dd'T'HH:mm:ss.SSSSSS'Z'"

/-- The word for a level, on the right of five columns. -/
def column (level : Log.Level) : String :=
  String.ofList (List.replicate (5 - level.word.length) ' ')

end UserConfigs.Main

open UserConfigs in
/-- Write the config documents into the working directory. -/
def main : IO UInt32 := do
  let r ← Command.run Main.write (← IO.getEnv "RUST_LOG")
  for record in r.log do
    IO.eprintln ((← Main.now) ++ " " ++ Main.column record.level ++ record.text)
  for line in r.message do
    IO.eprintln line
  return r.code
