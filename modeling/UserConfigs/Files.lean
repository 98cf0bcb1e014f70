import UserConfigs.Files.Node
import UserConfigs.Files.Path

/-!
# Access to files

`Files` are all files from the root down, and the working directory where relative paths
start. Paths are followed from directory to directory (`walk`) : every name on the way has to
stand for a directory, also before `..`. What a path means is either an entry of a directory
(`Slot.entry`), which may not exist yet, or a directory that needs no name, such as `.`.

An access gives the files afterwards or a fault. Only `makeDirs` and `remove` may change
files and then fail.

There are directories and files with a text and nothing else : no links, no other kinds of files,
no permissions, and no limit to what a disk holds. So an access fails only by its path and by what
stands there.
-/

namespace UserConfigs

/-- All files, and the working directory. -/
structure Files where
  root : Files.Node
  cwd : List String
  deriving Repr

namespace Files

/-! ## Paths -/

/-- Follow names from the directory `loc` on. -/
def walk (root : Node) (loc : List String) : List String → Except Fault (List String)
  | [] => .ok loc
  | name :: names =>
    if name = "." then walk root loc names
    else if name = ".." then walk root loc.dropLast names
    else if Path.tooLong name then .error .nameTooLong
    else
      match root.at? (loc ++ [name]) with
      | none => .error .missing
      | some (.file _) => .error .notDirectory
      | some (.dir _) => walk root (loc ++ [name]) names

/-- Where a path starts. -/
def origin (f : Files) (p : Path) : List String := if p.absolute then [] else f.cwd

/-- The directory that a path leads to, by the names from the root on, with its entries. -/
def dir (f : Files) (path : String) : Except Fault (List String × Fields Node) := do
  let p ← Path.parse path
  let loc ← walk f.root (f.origin p) p.names
  match f.root.at? loc with
  | some (.dir entries) => pure (loc, entries)
  | _ => throw .missing

/-- What a path means. -/
inductive Slot where
  /-- An entry of the directory `loc`; `slashed` tells whether a slash follows its name. -/
  | entry (loc : List String) (entries : Fields Node) (name : String) (slashed : Bool)
  /-- A directory that `.`, `..` or the root stands for. -/
  | here (loc : List String) (last : String)

/-- What a path means. All names but the last have to stand for directories. -/
def slot (f : Files) (path : String) : Except Fault Slot := do
  let p ← Path.parse path
  let loc ← walk f.root (f.origin p) p.names.dropLast
  match p.names.getLast? with
  | none => pure (.here loc "/")
  | some name =>
    if name = "." ∨ name = ".." then pure (.here loc name)
    else
      match f.root.at? loc with
      | some (.dir entries) => pure (.entry loc entries name p.slashed)
      | _ => throw .missing

/-- What a name stands for in a directory, if it is short enough to stand for anything. -/
def find (entries : Fields Node) (name : String) : Except Fault (Option Node) :=
  if Path.tooLong name then .error .nameTooLong else .ok (entries.get? name)

/-- Change the entries of a directory. -/
def alter (f : Files) (loc : List String) (change : Fields Node → Fields Node) : Files :=
  { f with root := f.root.alter change loc }

/-! ## Access -/

/-- The text of a file. -/
def read (f : Files) (path : String) : Except Fault String := do
  match ← f.slot path with
  | .here .. => throw .isDirectory
  | .entry _ entries name slashed =>
    match ← find entries name with
    | none => throw .missing
    | some (.dir _) => throw .isDirectory
    | some (.file text) => if slashed then throw .notDirectory else pure text

/-- The files after a text was put into a file, which is created or loses its old text. -/
def write (f : Files) (path text : String) : Except Fault Files := do
  match ← f.slot path with
  | .here .. => throw .isDirectory
  | .entry loc entries name slashed =>
    if slashed then throw .isDirectory
    match ← find entries name with
    | some (.dir _) => throw .isDirectory
    | _ => pure (f.alter loc (Fields.insert name (.file text)))

/-- The entries of a directory. -/
def list (f : Files) (path : String) : Except Fault (Fields Node) := do
  return (← f.dir path).2

/-- Follow names from the directory `loc` on and create the directories that are missing.
Those created before a fault stay. `atEnd` is the fault for a file at the end of the names. -/
def makeFrom (f : Files) (atEnd : Fault) (loc : List String) :
    List String → Files × Option Fault
  | [] => (f, none)
  | name :: names =>
    if name = "." then f.makeFrom atEnd loc names
    else if name = ".." then f.makeFrom atEnd loc.dropLast names
    else if Path.tooLong name then (f, some .nameTooLong)
    else
      match f.root.at? (loc ++ [name]) with
      | some (.dir _) => f.makeFrom atEnd (loc ++ [name]) names
      | some (.file _) => (f, some (if names.isEmpty then atEnd else .notDirectory))
      | none => (f.alter loc (Fields.insert name .empty)).makeFrom atEnd (loc ++ [name]) names

/-- Create a directory and the directories above it, as far as they are missing. A path that
ends with `.` has to lead to a directory that is there; only those above it are created. -/
def makeDirs (f : Files) (path : String) : Files × Option Fault :=
  if path.isEmpty then (f, none)
  else
    match Path.parse path with
    | .error e => (f, some e)
    | .ok p =>
      if p.names.getLast? ≠ some "." then f.makeFrom .taken (f.origin p) p.names
      else
        let names := (p.names.reverse.dropWhile (· = ".")).reverse
        match f.makeFrom .notDirectory (f.origin p) names.dropLast with
        | (f, some e) => (f, some e)
        | (f, none) =>
          match walk f.root (f.origin p) names with
          | .error e => (f, some e)
          | .ok _ => (f, none)

/-- Remove a file, or a directory with all that is in it. Of the working directory only what
is in it can be removed. -/
def remove (f : Files) (path : String) : Files × Option Fault :=
  match f.slot path with
  | .error e => (f, some e)
  | .ok (.here loc last) =>
    if last = "." then (f.alter loc fun _ => [], some .invalid)
    else (f, some (if last = ".." then .notEmpty else .busy))
  | .ok (.entry loc entries name slashed) =>
    match find entries name with
    | .error e => (f, some e)
    | .ok none => (f, some .missing)
    | .ok (some (.file _)) =>
      if slashed then (f, some .notDirectory) else (f.alter loc (Fields.erase name), none)
    | .ok (some (.dir _)) => (f.alter loc (Fields.erase name), none)

/-- A node may take the place of another one : a directory of an empty directory, a file of a
file. -/
def replaceFault? (new old : Node) : Option Fault :=
  match new, old with
  | .dir _, .file _ => some .notDirectory
  | .dir _, .dir entries => if entries.isEmpty then none else some .notEmpty
  | .file _, .dir _ => some .isDirectory
  | .file _, .file _ => none

/-- The files after an entry was moved. A directory cannot be moved into itself or take the
place of one that it is in. -/
def rename (f : Files) (path target : String) : Except Fault Files := do
  match ← f.slot path, ← f.slot target with
  | .entry loc entries name slashed, .entry loc' entries' name' slashed' =>
    match ← find entries name with
    | none => throw .missing
    | some node =>
      let old ← find entries' name'
      if !node.isDir && (slashed || slashed') then throw .notDirectory
      else if (loc ++ [name]).isPrefixOf loc' then throw .invalid
      else if (loc' ++ [name']).isPrefixOf loc then throw .notEmpty
      else if loc = loc' ∧ name = name' then pure f
      else
        match old.bind (replaceFault? node) with
        | some e => throw e
        | none => pure ((f.alter loc (Fields.erase name)).alter loc' (Fields.insert name' node))
  | _, _ => throw .busy

/-- The files seen from another working directory. -/
def moveTo (f : Files) (path : String) : Except Fault Files := do
  return { f with cwd := (← f.dir path).1 }

end Files

end UserConfigs
