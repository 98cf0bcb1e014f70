import UserConfigs.Config
import UserConfigs.Yaml.Document
import UserConfigs.Yaml.Word

/-!
# Why a text is no config

A text is no config if it is no YAML, has several documents, or says something that a config
cannot say (`Fault`). A fault is told with the path to it and its place.
-/

namespace UserConfigs.Config

/-- What is wanted where something else stands. -/
inductive Wanted where
  | config
  | fieldName
  | text
  | labels
  deriving Repr, DecidableEq

/-- What is wanted, in messages. -/
def Wanted.describe : Wanted → String
  | config => "struct UserConfig"
  | fieldName => "field identifier"
  | text => "a string"
  | labels => "a map"

/-- What stands where something else is wanted. -/
inductive Found where
  | scalar (tag : Option (List Char)) (text : List Char) (style : Yaml.Style)
  | sequence
  | mapping
  deriving Repr, DecidableEq

/-- What a document says that a config cannot say. -/
inductive Fault where
  | unfit (found : Found) (wanted : Wanted)
  | duplicate (field : Field)
  | missing (field : Field)
  deriving Repr, DecidableEq

/-- The message of a fault. A scalar that is not what its own tag says is told as that. -/
def Fault.text : Fault → String
  | unfit (.scalar tag text style) wanted =>
    match Yaml.Word.ofScalar tag text style with
    | .ok w => "invalid type: " ++ w.describe ++ ", expected " ++ wanted.describe
    | .error kind =>
      "invalid value: " ++ (Yaml.Word.text text).describe ++ ", expected " ++ kind.name
  | unfit .sequence wanted => "invalid type: sequence, expected " ++ wanted.describe
  | unfit .mapping wanted => "invalid type: map, expected " ++ wanted.describe
  | duplicate field => "duplicate field \x60" ++ field.name ++ "\x60"
  | missing field => "missing field \x60" ++ field.name ++ "\x60"

/-- Why a text is no config. -/
inductive Error where
  /-- A fault, the keys that lead to it, and its place. A key that is no scalar has no
  name. -/
  | fault (fault : Fault) (path : List (Option String)) (mark : Yaml.Mark)
  | broken (failure : Yaml.Failure)
  | severalDocuments
  deriving Repr, DecidableEq

/-- A path in messages. -/
def pathText (path : List (Option String)) : String :=
  ".".intercalate (path.map (·.getD "?"))

/-- The message of an error. -/
def Error.message : Error → String
  | fault f path mark =>
    (if path.isEmpty then "" else pathText path ++ ": ") ++ f.text ++ mark.place
  | broken failure => failure.message
  | severalDocuments =>
    "deserializing from YAML containing more than one document is not supported"

end UserConfigs.Config
