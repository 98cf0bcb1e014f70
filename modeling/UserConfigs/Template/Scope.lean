import UserConfigs.Template.Fault
import UserConfigs.Template.Reader
import UserConfigs.Text.Search

/-!
# What names stand for

A `Scope` is the context a template is rendered in together with what the rendering has
bound : names that were set, and the loops it is inside of, the innermost first. A name
means what the innermost loop says : a name set in the round, the position in the loop, the
item or its key; then the loops around it; then the names set outside loops; then the
context (`Scope.find?`).

A path leads from a name into its value. Its brackets are resolved first : a path in
brackets is replaced by its value, which must be a text or a number (`Scope.read`). One name stands
for all bindings together, as the text of an object (`wholeContext`).
-/

namespace UserConfigs.Template

/-- Values for the variables of a template. -/
abbrev Context := Fields Value

/-- A loop in progress. -/
structure LoopFrame where
  /-- The name of the item. -/
  item : String
  /-- The name of the key, in a loop over an object. -/
  key : Option String
  /-- How many rounds came before this one. -/
  index : Nat
  /-- How many rounds there are. -/
  count : Nat
  currentKey : String
  current : Value
  /-- Names set in this round. -/
  names : Fields Value

/-- What names stand for at a point of a rendering. -/
structure Scope where
  /-- The loops around the point, innermost first. -/
  loops : List LoopFrame
  /-- Names set outside loops. -/
  names : Fields Value
  context : Context

/-! ## Paths into a value -/

/-- The steps of a path : points separate them, quotes enclose them. `dual` and `single` tell
whether such a quote is open, `escaped` whether a backslash came just before. -/
def stepsFrom (dual single escaped : Bool) (current : List Char) : List Char → List (List Char)
  | [] => if current.isEmpty then [] else [current]
  | c :: s =>
    if c = '\x22' ∧ !escaped then
      (if current.isEmpty then [] else [current]) ++ stepsFrom (!dual) single false [] s
    else if c = '\x27' ∧ !escaped then
      (if current.isEmpty then [] else [current]) ++ stepsFrom dual (!single) false [] s
    else if c = '.' ∧ !escaped ∧ !single ∧ !dual then
      (if current.isEmpty then [] else [current]) ++ stepsFrom dual single false [] s
    else stepsFrom dual single (c = '\x5c' : Bool) (current ++ [c]) s

/-- A step as the name it stands for : `~1` is a slash and `~0` a tilde. -/
def stepName (s : List Char) : String :=
  String.ofList (Text.replaceAll ['~', '0'] ['~'] (Text.replaceAll ['~', '1'] ['/'] s))

/-- The steps of a path. -/
def steps (s : List Char) : List String := (stepsFrom false false false [] s).map stepName

/-- A position in an array, without sign or leading zeros. -/
def position? (s : String) : Option Nat :=
  if s.toList.all Char.isDigit ∧ !s.isEmpty ∧ (s.length = 1 ∨ s.toList.head? ≠ some '0') then
    some (Reader.valueOf s.toList)
  else none

/-- Go into a value step by step. -/
def follow? : Value → List String → Option Value
  | v, [] => some v
  | .object fields, k :: rest => Fields.get? k fields >>= (follow? · rest)
  | .array items, k :: rest => position? k >>= (items[·]?) >>= (follow? · rest)
  | _, _ :: _ => none

/-- A path as its first name and, if there is a point, what comes after it. -/
def splitPath (p : List Char) : String × Option (List Char) :=
  match p.dropWhile (· ≠ '.') with
  | [] => (String.ofList p, none)
  | _ :: rest => (String.ofList (p.takeWhile (· ≠ '.')), some rest)

/-- What a path leads to from given names. -/
def findIn? (names : Fields Value) (p : List Char) : Option Value :=
  match splitPath p with
  | (root, none) => names.get? root
  | (root, some rest) => names.get? root >>= (follow? · (steps rest))

/-! ## Finding a path -/

namespace LoopFrame

/-- The position in a loop, by the name it goes by. -/
def position? (f : LoopFrame) (p : String) : Option Value :=
  if p = "loop.index" then some (.number (.whole (f.index + 1)))
  else if p = "loop.index0" then some (.number (.whole f.index))
  else if p = "loop.first" then some (.bool (f.index = 0))
  else if p = "loop.last" then some (.bool (f.index + 1 = f.count))
  else none

/-- What a path leads to through the item or the key of a loop. -/
def item? (f : LoopFrame) (p : List Char) : Option Value :=
  match splitPath p with
  | (root, none) =>
    if root = f.item then some f.current
    else if some root = f.key then some (.text f.currentKey)
    else none
  | (root, some rest) => if root = f.item then follow? f.current (steps rest) else none

/-- What a path leads to in one loop. -/
def find? (f : LoopFrame) (p : List Char) : Option Value :=
  findIn? f.names p <|> f.position? (String.ofList p) <|> f.item? p

/-- Fields and the names that a loop binds, those set in the round, the item and its key, each in
place of an earlier one. -/
def bindings (f : LoopFrame) (fields : Fields Value) : Fields Value :=
  let bound := Fields.insert f.item f.current (Fields.insertAll f.names fields)
  match f.key with
  | some key => Fields.insert key (.text f.currentKey) bound
  | none => bound

end LoopFrame

namespace Scope

/-- What a path without brackets leads to. -/
def find? (sc : Scope) (p : List Char) : Option Value :=
  sc.loops.findSome? (·.find? p) <|> findIn? sc.names p <|> findIn? sc.context p

end Scope

/-- The name that stands for all bindings. -/
def wholeContext : String := "__tera_context"

/-! ## Resolving brackets -/

/-- Where a scan for brackets stands. -/
inductive BracketState where
  | outside
  | opened
  | inside (depth : Nat) (text : List Char)

/-- A whole number that fits in 64 bits. -/
def isIndex (s : List Char) : Bool :=
  !s.isEmpty && s.all Char.isDigit && Reader.valueOf s < Number.unsignedEnd

/-- The texts in the outer brackets of a path, those with a number or a quoted text left
out. -/
def bracketsFrom : BracketState → List Char → List (List Char)
  | _, [] => []
  | .outside, c :: s => bracketsFrom (if c = '[' then .opened else .outside) s
  | .opened, c :: s =>
    bracketsFrom (if c = '\x22' ∨ c = '\x27' then .outside else .inside 0 [c]) s
  | .inside depth text, c :: s =>
    if c = ']' then
      match depth with
      | 0 => (if isIndex text then [] else [text]) ++ bracketsFrom .outside s
      | d + 1 => bracketsFrom (.inside d (text ++ [c])) s
    else bracketsFrom (.inside (if c = '[' then depth + 1 else depth) (text ++ [c])) s

/-- The path texts in the outer brackets of a path. -/
def brackets (p : List Char) : List (List Char) := bracketsFrom .outside p

/-- Put the text of an index in place of the brackets around `inner`. -/
def putIndex (p inner index : List Char) : List Char :=
  match Text.splitAt? ('[' :: inner ++ [']']) p with
  | some (before, after) => before ++ '.' :: index ++ after
  | none => p ++ '.' :: index

/-- Turn the remaining brackets of a path into points and quotes. -/
def withoutBrackets (p : List Char) : List Char :=
  let p := Text.replaceAll ['/'] ['~', '1'] p
  let p := Text.replaceAll ['[', '\x27'] ['.', '\x22'] p
  let p := Text.replaceAll ['[', '\x22'] ['.', '\x22'] p
  let p := Text.replaceAll ['['] ['.'] p
  let p := Text.replaceAll ['\x27', ']'] ['\x22'] p
  let p := Text.replaceAll ['\x22', ']'] ['\x22'] p
  Text.replaceAll [']'] [] p

/-- A value as an index in a path : a text in quotes or a number. -/
def indexText? : Value → Option (List Char)
  | .text s => some ('\x22' :: s.toList ++ ['\x22'])
  | .number n => some (n.write .json).toList
  | _ => none

namespace Scope

/-- Put the values of the brackets `inners` in their places, reading each with `read`. -/
def putIndices (read : List Char → Except Fault Value) (whole : List Char) :
    List (List Char) → List Char → Except Fault (List Char)
  | [], p => .ok p
  | inner :: rest, p =>
    match read inner with
    | .error e => .error (.index (String.ofList whole) e)
    | .ok v =>
      match indexText? v with
      | none => .error (.indexKind (String.ofList inner) (String.ofList whole))
      | some index => putIndices read whole rest (putIndex p inner index)

/-- The value at a path with brackets nested at most `fuel` deep. -/
def readWithin (sc : Scope) : Nat → List Char → Except Fault Value
  | 0, p => .error (.unbound (String.ofList p))
  | fuel + 1, p =>
    if '[' ∈ p then do
      let resolved := withoutBrackets (← putIndices (readWithin sc fuel) p (brackets p) p)
      match sc.find? resolved with
      | some v => .ok v
      | none => .error (.unboundIndex (String.ofList p) (String.ofList resolved))
    else
      match sc.find? p with
      | some v => .ok v
      | none => .error (.unbound (String.ofList p))

/-- All bindings in one object. The names of the context give way to those of loops and to names
that were set, and in the order of the loops the outermost one has the last word. -/
def bindings (sc : Scope) : Fields Value :=
  Fields.insertAll sc.names <|
    sc.loops.foldl (fun fields f => f.bindings fields) (Fields.insertAll sc.context [])

/-- The value at a path, or all bindings as a text. -/
def read (sc : Scope) (p : String) : Except Fault Value :=
  if p = wholeContext then .ok (.text (Value.object sc.bindings).inLines)
  else sc.readWithin (p.toList.length + 1) p.toList

/-! ## Binding names -/

/-- Bind a name where the rendering stands : in the round of the innermost loop, or outside
loops. -/
def assign (sc : Scope) (name : String) (v : Value) : Scope :=
  match sc.loops with
  | [] => { sc with names := Fields.insert name v sc.names }
  | f :: rest => { sc with loops := { f with names := Fields.insert name v f.names } :: rest }

/-- Bind a name outside all loops. -/
def assignGlobal (sc : Scope) (name : String) (v : Value) : Scope :=
  { sc with names := Fields.insert name v sc.names }

/-- Enter a round of a loop. -/
def enter (sc : Scope) (f : LoopFrame) : Scope := { sc with loops := f :: sc.loops }

/-- Leave the innermost loop, with what the round bound in it. -/
def leave (sc : Scope) : Scope := { sc with loops := sc.loops.tail }

/-- The point is inside a loop. -/
def inLoop (sc : Scope) : Bool := !sc.loops.isEmpty

end Scope

end UserConfigs.Template
