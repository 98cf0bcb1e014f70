import UserConfigs.Template.Node
import UserConfigs.Template.Scope

/-!
# What a rendering takes from outside

A template can ask for more than the names that it is filled in with : for a variable of the
environment, the clock, chance, and for what the template language offers beyond the filters and
tests that are defined here. It can call macros, and insert itself. All this is a `World`. It is an
instance parameter, so that renderings refer to it without naming it, and what is proved of them
holds in any world.

The world answers the same to the same question. For the clock and for chance that is not so between
two calls, so what is said of several renderings, or of several rounds, is said of templates without
such calls.

`World.bare` is a world to run in. It has no variables, knows no regular expressions, and does not
say what the rest does.
-/

namespace UserConfigs.Template

/-- What a rendering takes from outside. -/
class World where
  /-- The value of a variable of the environment. -/
  environment : String → Option String
  /-- The time, by the arguments of `now`. -/
  now : Fields Value → Except Fault Value
  /-- A number by chance, by the arguments of `get_random`. -/
  random : Fields Value → Except Fault Value
  /-- The filters that are not defined here, by name. -/
  filter : String → Option (Value → Fields Value → Except Fault Value)
  /-- Which texts a regular expression matches. -/
  pattern : String → Except Fault (String → Bool)
  /-- What a reader takes for the single characters of a text that is not plain ASCII. -/
  clusters : List Char → Except Fault (List String)
  /-- What a macro gives, by the context, the name of its template, its own name and the arguments.
  Macros do not see what is bound where they are called. -/
  invoke : Context → String → String → Fields Value → Except Fault Value
  /-- What a tag gives that defines or loads macros. -/
  shared : Node → Except Fault String
  /-- What the template gives where it is inserted in itself. -/
  itself : Scope → Except Fault (Scope × String)

namespace World

/-- The filters of the template language that are not defined here. -/
def otherFilters : List String :=
  ["abs", "addslashes", "as_str", "capitalize", "concat", "date", "escape_xml", "filesizeformat",
    "filter", "float", "get", "group_by", "indent", "int", "linebreaksbr", "map", "nth",
    "pluralize", "round", "slice", "slugify", "sort", "spaceless", "split", "striptags", "title",
    "trim_end_matches", "trim_start_matches", "truncate", "unique", "urlencode",
    "urlencode_strict", "wordcount"]

/-- A world to run in. -/
instance bare : World where
  environment _ := none
  now _ := .error (.unsaid "now")
  random _ := .error (.unsaid "get_random")
  filter name := if name ∈ otherFilters then some fun _ _ => .error (.unsaid name) else none
  pattern _ := .error (.unsaid "regular expressions")
  clusters _ := .error (.unsaid "clusters of characters")
  invoke _ _ name _ := .error (.unsaid name)
  shared _ := .error (.unsaid "shared parts of templates")
  itself _ := .error (.unsaid "a template in itself")

end World

end UserConfigs.Template
