import UserConfigs.Fields
import UserConfigs.Log.Record

/-!
# Log filters

A `Filter` sets limits for the parts of a program. Of all limits that are set for the start
of a record's target the one for the longest start decides (`Filter.limit?`), and without
any the record is hidden. A filter is written as `level` and `target=level` with commas
between them (`Filter.parse`); of two limits for one target the later one holds. Limits for spans,
which may be written too, set nothing here, since no record is in a span.
-/

namespace UserConfigs.Log

/-- A limit : the last level that is shown, or none if nothing is shown. -/
abbrev Limit := Option Level

/-- Limits by the start of the target. The empty start is for all targets. -/
abbrev Filter := Fields Limit

/-- The limit that a word or a digit stands for. -/
def Limit.ofText? (s : String) : Option Limit :=
  match s.toLower with
  | "off" | "0" => some none
  | "error" | "1" => some (some .error)
  | "warn" | "2" => some (some .warn)
  | "info" | "3" => some (some .info)
  | "debug" | "4" => some (some .debug)
  | "trace" | "5" => some (some .trace)
  | _ => none

/-- A character of a target. -/
def isTargetChar (c : Char) : Bool := c.isAlphanum || c = '_' || c = ':' || c = '-'

/-- The target and the limit that a part of a written filter sets. A level alone is for all
targets, a target alone shows all its records. -/
def directive? (s : List Char) : Option (String × Limit) :=
  match Limit.ofText? (String.ofList s) with
  | some limit => some ("", limit)
  | none =>
    let target := s.takeWhile isTargetChar
    let all : Limit := some .trace
    if target.isEmpty then none
    else
      match s.dropWhile isTargetChar with
      | [] | ['='] => some (String.ofList target, all)
      | '=' :: level => (Limit.ofText? (String.ofList level)).map fun l => (String.ofList target, l)
      | _ => none

namespace Filter

/-- Read a filter. What is no part of a filter sets nothing. -/
def parse (s : String) : Filter :=
  Fields.ofList ((Text.pieces ',' s.toList).filterMap directive?)

/-- The limit of the longest start of a target. -/
def limit? (f : Filter) (target : String) : Option Limit :=
  let longer := fun (best : Option (String × Limit)) (d : String × Limit) =>
    if best.all fun b => b.1.length ≤ d.1.length then some d else best
  ((f.filter fun d => d.1.toList.isPrefixOf target.toList).foldl longer none).map (·.2)

/-- A record is shown. -/
def shows (f : Filter) (r : Record) : Bool :=
  match f.limit? r.target with
  | some (some limit) => r.level.within limit
  | _ => false

end Filter

end UserConfigs.Log
