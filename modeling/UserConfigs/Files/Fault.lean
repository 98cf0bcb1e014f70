/-!
# Why an access to files fails

A `Fault` is the reason that the system gives for refusing an access to its files.
-/

namespace UserConfigs.Files

/-- The reason why an access fails. -/
inductive Fault where
  /-- The path contains the character that ends paths for the system. -/
  | nulInPath
  | missing
  | busy
  /-- Something stands there already. -/
  | taken
  | notDirectory
  | isDirectory
  | invalid
  | nameTooLong
  | notEmpty
  /-- Another reason, in the words of the system. -/
  | other (text : String)
  deriving Repr, DecidableEq

/-- The message of a fault, with the number that the system has for it. -/
def Fault.message : Fault → String
  | nulInPath => "file name contained an unexpected NUL byte"
  | missing => "No such file or directory (os error 2)"
  | busy => "Device or resource busy (os error 16)"
  | taken => "File exists (os error 17)"
  | notDirectory => "Not a directory (os error 20)"
  | isDirectory => "Is a directory (os error 21)"
  | invalid => "Invalid argument (os error 22)"
  | nameTooLong => "File name too long (os error 36)"
  | notEmpty => "Directory not empty (os error 39)"
  | other text => text

end UserConfigs.Files
