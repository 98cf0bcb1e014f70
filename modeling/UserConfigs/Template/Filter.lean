import UserConfigs.Template.World
import UserConfigs.Text.Blank
import UserConfigs.Text.Case
import UserConfigs.Text.Search

/-!
# Filters

A filter turns a value into another, with named arguments. `Filter.named?` finds a filter by
its name and `Filter.apply` applies it. Each filter wants a value of one kind, a text or an
array, and faults on others. The filters of the template language that are not among these are left
to the world (`filterOf`).
-/

namespace UserConfigs.Template

/-- A filter. -/
inductive Filter where
  | upper
  | lower
  | trim
  | trimStart
  | trimEnd
  | replace
  | escape
  | first
  | last
  | join
  | length
  | reverse
  | jsonEncode
  deriving Repr, DecidableEq

namespace Filter

/-- The filters by name. -/
def names : List (String × Filter) :=
  [("upper", upper), ("lower", lower), ("trim", trim), ("trim_start", trimStart),
   ("trim_end", trimEnd), ("replace", replace), ("escape", escape), ("first", first),
   ("last", last), ("join", join), ("length", length), ("reverse", reverse),
   ("json_encode", jsonEncode)]

/-- The filter of a name. -/
def named? (name : String) : Option Filter := names.lookup name

/-- The name a filter goes by in messages. -/
def title : Filter → String
  | upper => "upper"
  | lower => "lower"
  | trim => "trim"
  | trimStart => "trim_start"
  | trimEnd => "trim_end"
  | replace => "replace"
  | escape => "escape_html"
  | first => "first"
  | last => "last"
  | join => "join"
  | length => "length"
  | reverse => "reverse"
  | jsonEncode => "json_encode"

/-- The text a filter works on. -/
def textOf (f : Filter) : Value → Except Fault (List Char)
  | .text s => .ok s.toList
  | v => .error (.filterSubject f.title v "String")

/-- The array a filter works on. -/
def itemsOf (f : Filter) : Value → Except Fault (List Value)
  | .array xs => .ok xs
  | v => .error (.filterSubject f.title v "Vec<Value>")

/-- A text argument that must be there. -/
def textArgument (args : Fields Value) (name : String) : Except Fault (List Char) :=
  match args.get? name with
  | some (.text s) => .ok s.toList
  | some v => .error (.filterArgument "replace" name v "a String")
  | none => .error (.filterMissing "replace" name)

/-- The separator of `join`, with the escapes for a line break and a tab read. -/
def separator (args : Fields Value) : Except Fault (List Char) :=
  match args.get? "sep" with
  | some (.text s) =>
    .ok (Text.replaceAll ['\x5c', 't'] ['\t'] (Text.replaceAll ['\x5c', 'n'] ['\n'] s.toList))
  | some v => .error (.filterArgument "truncate" "sep" v "a String")
  | none => .ok []

/-- A character as it may stand in a web page. -/
def escaped (c : Char) : List Char :=
  if c = '&' then "&amp;".toList
  else if c = '<' then "&lt;".toList
  else if c = '>' then "&gt;".toList
  else if c = '\x22' then "&quot;".toList
  else if c = '\x27' then "&#x27;".toList
  else if c = '/' then "&#x2F;".toList
  else [c]

/-- A text as a value. -/
def ofChars (s : List Char) : Value := .text (String.ofList s)

/-- Map the text a filter works on. -/
def mapText (f : Filter) (v : Value) (map : List Char → List Char) : Except Fault Value := do
  pure (ofChars (map (← f.textOf v)))

/-- The result of a filter. -/
def apply (f : Filter) (v : Value) (args : Fields Value) : Except Fault Value :=
  match f with
  | upper => f.mapText v Text.upper
  | lower => f.mapText v Text.lower
  | trim => f.mapText v Text.trim
  | trimStart => f.mapText v Text.trimStart
  | trimEnd => f.mapText v Text.trimEnd
  | escape => f.mapText v (List.flatMap escaped)
  | replace => do
    let s ← f.textOf v
    let old ← textArgument args "from"
    let new ← textArgument args "to"
    pure (ofChars (Text.replaceAll old new s))
  | first => do pure ((← f.itemsOf v).head?.getD (.text ""))
  | last => do pure ((← f.itemsOf v).getLast?.getD (.text ""))
  | join => do
    let xs ← f.itemsOf v
    let sep ← separator args
    pure (.text ((String.ofList sep).intercalate (xs.map Value.render)))
  | length =>
    match v with
    | .text s => .ok (.number (.whole s.length))
    | .array xs => .ok (.number (.whole xs.length))
    | .object fields => .ok (.number (.whole fields.length))
    | _ => .error .lengthSubject
  | reverse =>
    match v with
    | .text s => .ok (ofChars s.toList.reverse)
    | .array xs => .ok (.array xs.reverse)
    | v => .error (.filterArgument "reverse" "value" v "Array|String")
  | jsonEncode =>
    match args.get? "pretty" with
    | some (.bool true) => .ok (.text v.inLines)
    | _ => .ok (.text v.json)

end Filter

/-- What the filter of a name does, if there is one. -/
def filterOf [World] (name : String) : Option (Value → Fields Value → Except Fault Value) :=
  (Filter.named? name).map Filter.apply <|> World.filter name

end UserConfigs.Template
