import UserConfigs.Fields

/-!
# Files and directories

A `Node` is a file with its text, or a directory with what its names stand for. `Node.at?`
follows names down from a node, and `Node.alter` changes the entries of one directory below
it (`at?_alter`); what does not lie on the way there stays the same (`at?_alter_of_ne`).
-/

namespace UserConfigs.Files

/-- A file or a directory. -/
inductive Node where
  | file (text : String)
  | dir (entries : List (String × Node))
  deriving Repr

namespace Node

/-- An empty directory. -/
def empty : Node := dir []

/-- It is a directory. -/
def isDir : Node → Bool
  | dir _ => true
  | file _ => false

/-- The names in a directory, none in a file. -/
def entries : Node → Fields Node
  | dir entries => entries
  | file _ => []

/-- What stands at the end of the names. -/
def at? : List String → Node → Option Node
  | [], n => some n
  | name :: names, n => (Fields.get? name n.entries).bind (at? names)

/-- Change the entries of the directory at the end of the names. -/
def alter (f : Fields Node → Fields Node) : List String → Node → Node
  | _, file text => file text
  | [], dir entries => dir (f entries)
  | name :: names, dir entries =>
    match Fields.get? name entries with
    | some n => dir (Fields.insert name (alter f names n) entries)
    | none => dir entries

@[simp] theorem at?_nil (n : Node) : at? [] n = some n := rfl

theorem at?_append (xs ys : List String) (n : Node) :
    at? (xs ++ ys) n = (at? xs n).bind (at? ys) := by
  induction xs generalizing n with
  | nil => rfl
  | cons x xs ih => cases h : Fields.get? x n.entries <;> simp [at?, h, ih]

/-- The changed directory is where it was. -/
theorem at?_alter {f : Fields Node → Fields Node} {names : List String} {n : Node}
    {entries : Fields Node} (h : at? names n = some (dir entries)) :
    at? names (alter f names n) = some (dir (f entries)) := by
  induction names generalizing n with
  | nil =>
    obtain rfl : n = dir entries := by simpa using h
    rfl
  | cons x xs ih =>
    cases n with
    | file text => simp [at?, Node.entries, Fields.get?] at h
    | dir es =>
      cases hx : Fields.get? x es with
      | none => simp [at?, Node.entries, hx] at h
      | some n =>
        simp only [at?, Node.entries, hx, Option.bind_some] at h
        simp [alter, hx, at?, Node.entries, Fields.get?_insert, ih h]

/-- Names that part from the way to the changed directory lead to what they did. -/
theorem at?_alter_of_ne {f : Fields Node → Fields Node} {x y : String} (h : x ≠ y)
    (way names rest : List String) (n : Node) :
    at? (way ++ y :: rest) (alter f (way ++ x :: names) n) = at? (way ++ y :: rest) n := by
  induction way generalizing n with
  | nil =>
    cases n with
    | file text => rfl
    | dir es =>
      cases hx : Fields.get? x es <;>
        simp [alter, hx, at?, Node.entries, Fields.get?_insert, Ne.symm h]
  | cons z way ih =>
    cases n with
    | file text => rfl
    | dir es =>
      cases hz : Fields.get? z es <;>
        simp [alter, hz, at?, Node.entries, Fields.get?_insert, ih]

end Node

end UserConfigs.Files
