import UserConfigs.Text.Quoted
import UserConfigs.Value

/-!
# Values as JSON, and as messages show them

`Value.json` writes a value without blanks, `Value.jsonLines` with one item on a line,
indented by two blanks a level. `Value.inspect` is the form in messages, where each value
names its kind.
-/

namespace UserConfigs.Value

mutual

/-- JSON without blanks. -/
def json : Value → String
  | .null => "null"
  | .bool b => if b then "true" else "false"
  | .number n => n.write .json
  | .text s => Text.jsonQuoted s
  | .array xs => "[" ++ jsonItems xs ++ "]"
  | .object fs => "\x7b" ++ jsonFields fs ++ "\x7d"

/-- The items of an array. -/
def jsonItems : List Value → String
  | [] => ""
  | [x] => json x
  | x :: y :: xs => json x ++ "," ++ jsonItems (y :: xs)

/-- The fields of an object. -/
def jsonFields : List (String × Value) → String
  | [] => ""
  | [(k, x)] => Text.jsonQuoted k ++ ":" ++ json x
  | (k, x) :: f :: fs => Text.jsonQuoted k ++ ":" ++ json x ++ "," ++ jsonFields (f :: fs)

end

/-- A new line, indented to a level. -/
def newLine (level : Nat) : String := "\n" ++ String.ofList (List.replicate (2 * level) ' ')

mutual

/-- JSON with an item or a field on a line, at a level of indentation. -/
def jsonLines (level : Nat) : Value → String
  | .array [] => "[]"
  | .array xs => "[" ++ jsonLinesItems (level + 1) xs ++ newLine level ++ "]"
  | .object [] => "\x7b\x7d"
  | .object fs => "\x7b" ++ jsonLinesFields (level + 1) fs ++ newLine level ++ "\x7d"
  | v => json v

/-- The items of an array, each on its line. -/
def jsonLinesItems (level : Nat) : List Value → String
  | [] => ""
  | [x] => newLine level ++ jsonLines level x
  | x :: y :: xs =>
    newLine level ++ jsonLines level x ++ "," ++ jsonLinesItems level (y :: xs)

/-- The fields of an object, each on its line. -/
def jsonLinesFields (level : Nat) : List (String × Value) → String
  | [] => ""
  | [(k, x)] => newLine level ++ Text.jsonQuoted k ++ ": " ++ jsonLines level x
  | (k, x) :: f :: fs =>
    newLine level ++ Text.jsonQuoted k ++ ": " ++ jsonLines level x ++ "," ++
      jsonLinesFields level (f :: fs)

end

/-- JSON with an item or a field on a line. -/
def inLines (v : Value) : String := v.jsonLines 0

mutual

/-- A value with the name of its kind. -/
def inspect : Value → String
  | .null => "Null"
  | .bool b => "Bool(" ++ (if b then "true" else "false") ++ ")"
  | .number n => "Number(" ++ n.write .json ++ ")"
  | .text s => "String(" ++ Text.quoted s ++ ")"
  | .array xs => "Array [" ++ inspectItems xs ++ "]"
  | .object fs => "Object \x7b" ++ inspectFields fs ++ "\x7d"

/-- The items of an array. -/
def inspectItems : List Value → String
  | [] => ""
  | [x] => inspect x
  | x :: y :: xs => inspect x ++ ", " ++ inspectItems (y :: xs)

/-- The fields of an object. -/
def inspectFields : List (String × Value) → String
  | [] => ""
  | [(k, x)] => Text.quoted k ++ ": " ++ inspect x
  | (k, x) :: f :: fs => Text.quoted k ++ ": " ++ inspect x ++ ", " ++ inspectFields (f :: fs)

end

end UserConfigs.Value
