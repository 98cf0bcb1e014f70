import UserConfigs.Text.Blank
import UserConfigs.Text.Search

/-!
# Log records

A `Record` is something worth a line in a log : how severe it is, the part of the program
that it comes from, a message, and named values. `Record.lines` is its text; a value with
line breaks makes more lines of it, and no line starts with a blank.
-/

namespace UserConfigs.Log

/-- How severe a record is. -/
inductive Level where
  | error
  | warn
  | info
  | debug
  | trace
  deriving Repr, DecidableEq

namespace Level

/-- All levels, the most severe first. -/
def all : List Level := [error, warn, info, debug, trace]

/-- The place of a level among all, the most severe first. -/
def rank : Level → Nat
  | error => 1
  | warn => 2
  | info => 3
  | debug => 4
  | trace => 5

/-- A level in a log. -/
def word : Level → String
  | error => "ERROR"
  | warn => "WARN"
  | info => "INFO"
  | debug => "DEBUG"
  | trace => "TRACE"

/-- With the limit `limit` the level is shown. -/
def within (level limit : Level) : Bool := level.rank ≤ limit.rank

/-- A looser limit shows what a stricter one does. -/
theorem within_trans {a b c : Level} (h : a.within b) (h' : b.within c) : a.within c := by
  simp only [within, decide_eq_true_eq] at h h' ⊢
  omega

end Level

/-- Something worth a line in a log. -/
structure Record where
  level : Level
  /-- The part of the program that it comes from. -/
  target : String
  message : String
  /-- Named values. -/
  values : List (String × String)
  deriving Repr, DecidableEq

namespace Record

/-- The text of a record. -/
def text (r : Record) : String :=
  r.level.word ++ " " ++ r.target ++ ": " ++ r.message ++
    String.join (r.values.map fun v => " " ++ v.1 ++ "=" ++ v.2)

/-- A line without a carriage return at its end. -/
def chomp (s : List Char) : List Char :=
  if s.getLast? = some '\r' then s.dropLast else s

/-- The lines of a record. -/
def lines (r : Record) : List String :=
  (Text.pieces '\n' r.text.toList).map fun l => String.ofList (Text.trimStart (chomp l))

end Record

/-- The lines of the records that are shown with a limit. -/
def linesWithin (limit : Level) (records : List Record) : List String :=
  (records.filter (·.level.within limit)).flatMap Record.lines

end UserConfigs.Log
