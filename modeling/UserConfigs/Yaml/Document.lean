import UserConfigs.Yaml.Event

/-!
# Documents

`Document.read` reads the first document of a text : its events, with every alias leading to
the value that it stands for, and whether more documents follow. If the text is wrong the
events before the wrong place are kept, with the failure after them : what can be said of
the events comes before what is wrong with the rest.
-/

namespace UserConfigs.Yaml

/-- Why a document breaks off. -/
inductive Failure where
  | problem (p : Problem)
  /-- An alias has a name that no value before it has. -/
  | unknownAnchor (m : Mark)
  /-- The text ends too soon. -/
  | unfinished
  deriving Repr, DecidableEq

/-- A mark as the end of a message, nothing for the start of the text. -/
def Mark.place (m : Mark) : String := if m.isOrigin then "" else " at " ++ m.text

/-- The message of a failure. -/
def Failure.message : Failure → String
  | problem p => p.message
  | unknownAnchor m => "unknown anchor" ++ m.place
  | unfinished => "EOF while parsing a value"

/-- The first document of a text. -/
structure Document where
  items : List (Item Nat)
  failure : Option Failure
  /-- There are more documents. -/
  more : Bool
  deriving Repr

/-! ## Aliases -/

/-- The names of values read so far, each with a number, and where the numbers lead. The
number of a name is how many different names there were when it was given, so a name that is
given again may take the number of another one, and the last value with a number has it. -/
structure Anchors where
  numbers : List (List Char × Nat)
  places : List (Nat × Nat)

namespace Anchors

/-- Give a name to the item at `place`. -/
def add (a : Anchors) (name : List Char) (place : Nat) : Anchors where
  numbers := (name, a.numbers.length) :: a.numbers.filter (·.1 ≠ name)
  places := (a.numbers.length, place) :: a.places

/-- The names after an item. -/
def after (a : Anchors) (item : Item (List Char)) (place : Nat) : Anchors :=
  match item.anchor with
  | some name => a.add name place
  | none => a

end Anchors

/-- An event with its alias taken from `f`. -/
def Event.mapAlias {α β : Type} (f : α → Option β) : Event α → Option (Event β)
  | void => some void
  | aliasOf target => (f target).map .aliasOf
  | scalar tag text style => some (scalar tag text style)
  | sequenceStart => some sequenceStart
  | sequenceEnd => some sequenceEnd
  | mappingStart => some mappingStart
  | mappingEnd => some mappingEnd

/-- The items from the one at `place` on, with numbers for aliases, up to the first alias
without a value, whose mark comes with them. -/
def numberAliases (a : Anchors) (place : Nat) :
    List (Item (List Char)) → List (Item Nat) × Option Mark × Anchors
  | [] => ([], none, a)
  | item :: rest =>
    match item.event.mapAlias (a.numbers.lookup ·) with
    | none => ([], some item.mark, a)
    | some event =>
      let (items, stop, a) := numberAliases (a.after item place) (place + 1) rest
      (⟨event, item.anchor, item.mark⟩ :: items, stop, a)

/-- An item with its alias leading to a place. -/
def Item.locate (a : Anchors) (item : Item Nat) : Item Nat :=
  ⟨(item.event.mapAlias (a.places.lookup ·)).getD item.event, item.anchor, item.mark⟩

/-! ## Reading -/

namespace Document

/-- Whether the text goes on. -/
def goesOn : List Token → Bool
  | [] => true
  | t :: _ => t.sign != .streamEnd

/-- Whether more follows a document, given the tokens after it. If there are none left, that
is not known. -/
def more? (tokens : List Token) : Option Bool :=
  if tokens.isEmpty then none
  else some (goesOn (tokens.dropWhile (·.sign == .documentEnd)))

/-- Read the first document of a text that was cut into tokens, up to a problem. -/
def ofTokens (tokens : List Token) (problem : Option Problem) : Document :=
  let r := Reading.ofTokens tokens
  let (items, unknown, anchors) := numberAliases ⟨[], []⟩ 0 r.items
  let items := items.map (·.locate anchors)
  let out := (problem.map Failure.problem).getD .unfinished
  match unknown, r.halt with
  | some m, _ => ⟨items, some (.unknownAnchor m), true⟩
  | none, some (some p) => ⟨items, some (.problem p), true⟩
  | none, some none => ⟨items, some out, true⟩
  | none, none =>
    match more? r.rest with
    | none => ⟨items, some out, true⟩
    | some more => ⟨items, none, more⟩

/-- Read the first document of a text. -/
def read (s : List Char) : Document :=
  let (tokens, problem) := Token.scan s
  ofTokens tokens problem

end Document

end UserConfigs.Yaml
