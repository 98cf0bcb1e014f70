import UserConfigs.Files.Fault
import UserConfigs.Text.Search

/-!
# Paths

A path is a text in which slashes separate names. `Path.join` puts a name behind the text of
a directory and changes nothing else; `Path.parse` takes a text apart. Slashes in a row count
as one. The system refuses the empty text and too long a text (`maxLength`).
-/

namespace UserConfigs.Files

/-- A path taken apart. -/
structure Path where
  /-- It starts with a slash, at the root of all files. -/
  absolute : Bool
  /-- The names in order, with `.` for the directory itself and `..` for the one above. -/
  names : List String
  /-- It ends with a slash, so it can only mean a directory. -/
  slashed : Bool
  deriving Repr, DecidableEq

namespace Path

/-- The path of a name in a directory. The directory of the empty text is the working
directory. -/
def join (dir name : String) : String :=
  if dir.isEmpty || dir.toList.getLast? = some '/' then dir ++ name else dir ++ "/" ++ name

/-- The octets that a path may have at most. -/
def maxLength : Nat := 4095

/-- The octets that a name may have at most. -/
def maxNameLength : Nat := 255

/-- A name is too long for the system. -/
def tooLong (name : String) : Bool := maxNameLength < name.utf8ByteSize

/-- Take a path apart. -/
def parse (s : String) : Except Fault Path :=
  if s.toList.contains '\x00' then .error .nulInPath
  else if s.isEmpty then .error .missing
  else if maxLength < s.utf8ByteSize then .error .nameTooLong
  else
    .ok {
      absolute := s.toList.head? = some '/'
      names := (Text.pieces '/' s.toList).filterMap fun p =>
        if p.isEmpty then none else some (String.ofList p)
      slashed := s.toList.getLast? = some '/' }

end Path

end UserConfigs.Files
