import UserConfigs.Files

/-!
# What a write changes

`Node.look?` says what stands at the end of some names : a directory, or a file with its text.
A successful write puts a text at one place and changes nothing else (`Files.Put`), and the
place was no directory before. So a write neither makes nor removes a directory
(`Put.sameDirs`), and since only directories matter on the way to a place, every text of a
directory means the same place as long as the directories stay (`SameDirs.folder_eq_ok_iff`).

The path of a name in a directory leads to the place of that directory with the name behind it
(`place?_join_eq_some_iff`). A write there fails if the directory does not exist, if the path is
too long, or if a directory has the name, and for no other reason (`write_join_ok_iff`).
-/

namespace UserConfigs.Files

/-! ## Entries -/

/-- What stands at a place, apart from what lies below it. -/
inductive Entry where
  | dir
  | file (text : String)
  deriving Repr, DecidableEq

namespace Node

/-- A node without what lies below it. -/
def entry : Node → Entry
  | dir _ => .dir
  | file text => .file text

/-- What stands at the end of the names. -/
def look? (n : Node) (names : List String) : Option Entry := (n.at? names).map entry

@[simp] theorem look?_nil (n : Node) : n.look? [] = some n.entry := rfl

theorem look?_cons (n : Node) (x : String) (names : List String) :
    n.look? (x :: names) = (Fields.get? x n.entries).bind (·.look? names) := by
  cases h : Fields.get? x n.entries <;> simp [look?, at?, h]

/-- Nothing stands below a file. -/
theorem look?_file_cons (text x : String) (names : List String) :
    (file text).look? (x :: names) = none := by
  simp [look?_cons, entries, Fields.get?]

theorem look?_eq_dir_iff {n : Node} {names : List String} :
    n.look? names = some .dir ↔ ∃ entries, n.at? names = some (dir entries) := by
  unfold look?
  cases h : n.at? names with
  | none => simp
  | some m => cases m <;> simp [entry]

theorem look?_append_singleton {n : Node} {loc : List String} {es : Fields Node}
    (h : n.at? loc = some (dir es)) (name : String) :
    n.look? (loc ++ [name]) = (Fields.get? name es).map entry := by
  simp only [look?, at?_append, h, Option.bind_some, at?, Node.entries]
  cases Fields.get? name es <;> rfl

/-- A file put into a directory, in place of no directory, is the one entry that changes. -/
theorem look?_alter_insert {name text : String} :
    ∀ {loc : List String} {n : Node} {es : Fields Node}, n.at? loc = some (dir es) →
      (∀ sub, Fields.get? name es ≠ some (dir sub)) → ∀ names : List String,
      (n.alter (Fields.insert name (file text)) loc).look? names =
        if names = loc ++ [name] then some (.file text) else n.look? names
  | [], n, es, h, hn, [] => by
    obtain rfl : n = dir es := by simpa using h
    rfl
  | [], n, es, h, hn, x :: names => by
    obtain rfl : n = dir es := by simpa using h
    simp only [alter, look?_cons, Node.entries, Fields.get?_insert, List.nil_append]
    by_cases hx : x = name
    · subst hx
      cases names with
      | nil => simp [entry]
      | cons y names =>
        cases hg : Fields.get? x es with
        | none => simp [look?_file_cons]
        | some m =>
          cases m with
          | file old => simp [look?_file_cons]
          | dir sub => exact absurd hg (hn sub)
    · simp [hx]
  | y :: loc, file old, es, h, hn, names => by simp [at?, Node.entries, Fields.get?] at h
  | y :: loc, dir top, es, h, hn, names => by
    cases hy : Fields.get? y top with
    | none => simp [at?, Node.entries, hy] at h
    | some m =>
      have hm : m.at? loc = some (dir es) := by simpa [at?, Node.entries, hy] using h
      simp only [alter, hy]
      cases names with
      | nil => simp [entry]
      | cons x names =>
        simp only [look?_cons, Node.entries, Fields.get?_insert]
        by_cases hx : x = y
        · subst hx
          simp [look?_alter_insert hm hn names, hy]
        · simp [hx]

end Node

/-! ## One write -/

/-- `g` is `f` with a text at a place where no directory stood. -/
structure Put (f : Files) (place : List String) (text : String) (g : Files) : Prop where
  cwd : g.cwd = f.cwd
  noDir : f.root.look? place ≠ some .dir
  entry : ∀ names, g.root.look? names =
    if names = place then some (.file text) else f.root.look? names

/-- The directories are the same, and so is the one that relative paths start from. -/
structure SameDirs (f g : Files) : Prop where
  cwd : g.cwd = f.cwd
  isDir_iff : ∀ names, g.root.look? names = some .dir ↔ f.root.look? names = some .dir

theorem SameDirs.refl (f : Files) : f.SameDirs f := ⟨rfl, fun _ => Iff.rfl⟩

theorem SameDirs.trans {f g h : Files} (hfg : f.SameDirs g) (hgh : g.SameDirs h) :
    f.SameDirs h :=
  ⟨hgh.cwd.trans hfg.cwd, fun names => (hgh.isDir_iff names).trans (hfg.isDir_iff names)⟩

/-- A write changes no directory into anything else, nor anything else into a directory. -/
theorem Put.sameDirs {f g : Files} {place : List String} {text : String}
    (h : f.Put place text g) : f.SameDirs g := by
  refine ⟨h.cwd, fun names => ?_⟩
  rw [h.entry]
  split
  · next hn => simp [hn, h.noDir]
  · rfl

theorem put_alter {f : Files} {loc : List String} {es : Fields Node} {name : String}
    (text : String) (h : f.root.at? loc = some (.dir es))
    (hn : f.root.look? (loc ++ [name]) ≠ some .dir) :
    f.Put (loc ++ [name]) text (f.alter loc (Fields.insert name (.file text))) := by
  refine ⟨rfl, hn, Node.look?_alter_insert h fun sub hs => hn ?_⟩
  rw [Node.look?_append_singleton h, hs]
  rfl

/-! ## The way to a place -/

/-- To walk along names only the directories on the way matter. -/
theorem walk_congr {a b : Node}
    (h : ∀ names, a.look? names = some .dir → b.look? names = some .dir) :
    ∀ {names loc end' : List String}, walk a loc names = .ok end' → walk b loc names = .ok end'
  | [], loc, end', hw => by simpa [walk] using hw
  | x :: names, loc, end', hw => by
    unfold walk at hw ⊢
    split at hw
    · next hx => rw [if_pos hx]; exact walk_congr h hw
    split at hw
    · next hx hx' => rw [if_neg hx, if_pos hx']; exact walk_congr h hw
    split at hw
    · simp at hw
    next hx hx' hl =>
    rw [if_neg hx, if_neg hx', if_neg hl]
    cases ha : a.at? (loc ++ [x]) with
    | none => simp [ha] at hw
    | some m =>
      cases m with
      | file text => simp [ha] at hw
      | dir es =>
        obtain ⟨es', hb⟩ := Node.look?_eq_dir_iff.mp (h _ (Node.look?_eq_dir_iff.mpr ⟨es, ha⟩))
        simp only [ha] at hw
        simp only [hb]
        exact walk_congr h hw

/-! ## Names in a directory -/

/-- A name that can stand for an entry of a directory, by itself and at the end of a path. -/
structure Path.IsName (name : String) : Prop where
  nonempty : name.toList ≠ []
  noSlash : '/' ∉ name.toList
  noNul : '\x00' ∉ name.toList
  notHere : name ≠ "."
  notAbove : name ≠ ".."
  short : Path.tooLong name = false

/-- The names in the text of a path. -/
def Path.namesOf (s : List Char) : List String :=
  (Text.pieces '/' s).filterMap fun p => if p.isEmpty then none else some (String.ofList p)

theorem Path.namesOf_append_slash (s t : List Char) :
    Path.namesOf (s ++ '/' :: t) = Path.namesOf s ++ Path.namesOf t := by
  simp [Path.namesOf, Text.pieces_append_cons, List.filterMap_append]

theorem Path.IsName.namesOf {name : String} (h : Path.IsName name) :
    Path.namesOf name.toList = [name] := by
  simp [Path.namesOf, Text.pieces_of_notMem h.noSlash, h.nonempty]

/-- The text of a directory that ends with no slash, if it is not empty, gets one. -/
theorem Path.toList_join (dir name : String) :
    ∃ sep, (Path.join dir name).toList = dir.toList ++ sep ++ name.toList ∧
      (sep = ['/'] ∧ dir.toList ≠ [] ∨
        sep = [] ∧ (dir.toList = [] ∨ dir.toList.getLast? = some '/')) := by
  unfold Path.join
  by_cases h : dir.isEmpty || dir.toList.getLast? = some '/'
  · refine ⟨[], by simp [h], Or.inr ⟨rfl, ?_⟩⟩
    simpa [String.isEmpty_iff] using h
  · refine ⟨['/'], by simp [h], Or.inl ⟨rfl, ?_⟩⟩
    intro hd
    exact h (by simp [String.toList_eq_nil_iff.mp hd])

theorem Path.namesOf_join {dir name : String} (h : Path.IsName name) :
    Path.namesOf (Path.join dir name).toList = Path.namesOf dir.toList ++ [name] := by
  have hnil : Path.namesOf [] = [] := rfl
  obtain ⟨sep, hj, ⟨rfl, -⟩ | ⟨rfl, hd | hd⟩⟩ := Path.toList_join dir name
  · simp [hj, Path.namesOf_append_slash, h.namesOf]
  · simpa [hj, hd, hnil] using h.namesOf
  · obtain ⟨s, hs⟩ := List.getLast?_eq_some_iff.mp hd
    simp [hj, hs, Path.namesOf_append_slash, h.namesOf, hnil]

/-- A path in a directory is taken apart into the names of the directory and the name. -/
theorem Path.parse_join (dir : String) {name : String} (h : Path.IsName name) :
    Path.parse (Path.join dir name) =
      if '\x00' ∈ dir.toList then .error .nulInPath
      else if Path.maxLength < (Path.join dir name).utf8ByteSize then .error .nameTooLong
      else .ok ⟨dir.toList.head? = some '/', Path.namesOf dir.toList ++ [name], false⟩ := by
  obtain ⟨sep, hj, hsep⟩ := Path.toList_join dir name
  obtain ⟨c, cs, hc⟩ := List.exists_cons_of_ne_nil h.nonempty
  have hslash : c ≠ '/' := fun e => h.noSlash (by simp [hc, e])
  have hnul : '\x00' ∈ (Path.join dir name).toList ↔ '\x00' ∈ dir.toList := by
    rcases hsep with ⟨rfl, -⟩ | ⟨rfl, -⟩ <;> simp [hj, h.noNul]
  have hempty : (Path.join dir name).isEmpty = false := by
    rw [Bool.eq_false_iff, ne_eq, String.isEmpty_iff, ← String.toList_eq_nil_iff, hj]
    simp [h.nonempty]
  have hhead : (Path.join dir name).toList.head? = some '/' ↔ dir.toList.head? = some '/' := by
    rcases hsep with ⟨rfl, hd⟩ | ⟨rfl, hd | hd⟩
    · obtain ⟨d, ds, hds⟩ := List.exists_cons_of_ne_nil hd
      simp [hj, hds]
    · simp [hj, hd, hc, hslash]
    · obtain ⟨s, hs⟩ := List.getLast?_eq_some_iff.mp hd
      cases s <;> simp [hj, hs]
  have hlast : (Path.join dir name).toList.getLast? ≠ some '/' := by
    rw [hj, List.getLast?_append, List.getLast?_eq_some_getLast h.nonempty]
    intro e
    exact h.noSlash (Option.some.inj e ▸ List.getLast_mem h.nonempty)
  unfold Path.parse
  simp only [List.contains_iff_mem, hnul, hempty, hhead, hlast, decide_false]
  rw [← Path.namesOf_join h]
  rfl

/-! ## Directories and places -/

/-- The place of the directory that a text means, by the names from the root on; the empty text
means the working directory. -/
def folder (f : Files) (dir : String) : Except Fault (List String) :=
  (f.dir (if dir.isEmpty then "." else dir)).map Prod.fst

/-- The place of the entry that a path denotes, which may not exist yet. -/
def place? (f : Files) (path : String) : Option (List String) :=
  match f.slot path with
  | .ok (.entry loc _ name _) => some (loc ++ [name])
  | _ => none

/-- Where the walk to the directory of a path starts. -/
def start (f : Files) (dir : String) : List String :=
  if dir.toList.head? = some '/' then [] else f.cwd

theorem parse_eq_ok_iff {path : String} {p : Path} :
    Path.parse path = .ok p ↔
      '\x00' ∉ path.toList ∧ path ≠ "" ∧ path.utf8ByteSize ≤ Path.maxLength ∧
        p = ⟨path.toList.head? = some '/', Path.namesOf path.toList,
          path.toList.getLast? = some '/'⟩ := by
  unfold Path.parse
  simp only [List.contains_iff_mem, String.isEmpty_iff]
  split
  · simp_all
  split
  · simp_all
  split
  · next hl => simp [Nat.not_le.mpr hl]
  next hn he hl =>
  simp only [hn, he, Nat.not_lt.mp hl, not_false_eq_true, ne_eq, true_and, Except.ok.injEq]
  exact eq_comm

theorem dir_eq_ok_iff {f : Files} {path : String} {loc : List String} :
    (∃ es, f.dir path = .ok (loc, es)) ↔
      ∃ p, Path.parse path = .ok p ∧ walk f.root (f.origin p) p.names = .ok loc ∧
        f.root.look? loc = some .dir := by
  unfold Files.dir
  cases hp : Path.parse path with
  | error e => simp [bind, Except.bind]
  | ok p =>
    simp only [bind, Except.bind, Except.ok.injEq, exists_eq_left']
    cases hw : walk f.root (f.origin p) p.names with
    | error e => simp
    | ok loc' =>
      simp only [Except.ok.injEq, Node.look?_eq_dir_iff]
      constructor
      · rintro ⟨es, h⟩
        split at h
        · next es' hes =>
          obtain ⟨rfl, rfl⟩ : loc' = loc ∧ es' = es := by simpa [pure, Except.pure] using h
          exact ⟨rfl, _, hes⟩
        · simp [throw, throwThe, MonadExceptOf.throw] at h
      · rintro ⟨rfl, es, hes⟩
        exact ⟨es, by simp [hes, pure, Except.pure]⟩

theorem folder_eq_ok_iff {f : Files} {dir : String} {loc : List String} :
    f.folder dir = .ok loc ↔
      '\x00' ∉ dir.toList ∧ dir.utf8ByteSize ≤ Path.maxLength ∧
        walk f.root (f.start dir) (Path.namesOf dir.toList) = .ok loc ∧
        f.root.look? loc = some .dir := by
  have hmap : f.folder dir = .ok loc ↔
      ∃ es, f.dir (if dir.isEmpty then "." else dir) = .ok (loc, es) := by
    unfold folder
    cases f.dir (if dir.isEmpty then "." else dir) with
    | error e => simp [Except.map]
    | ok r => simp [Except.map, Prod.ext_iff]
  rw [hmap, dir_eq_ok_iff]
  by_cases hd : dir = ""
  · subst hd
    have hn : Path.namesOf ['.'] = ["."] := rfl
    have hn' : Path.namesOf [] = [] := rfl
    have hs : ".".utf8ByteSize ≤ Path.maxLength := by decide
    simp [parse_eq_ok_iff, hn, hn', hs, origin, start, walk]
  · have he : dir.isEmpty = false := by simpa [String.isEmpty_iff] using hd
    simp [parse_eq_ok_iff, he, hd, origin, start, and_assoc]

/-- What a path whose last part is a name means. -/
theorem slot_of_parse {f : Files} {path : String} {p : Path} {name : String}
    (hp : Path.parse path = .ok p) (hl : p.names.getLast? = some name) (hh : name ≠ ".")
    (ha : name ≠ "..") :
    f.slot path =
      match walk f.root (f.origin p) p.names.dropLast with
      | .error e => .error e
      | .ok loc =>
        match f.root.at? loc with
        | some (.dir es) => .ok (.entry loc es name p.slashed)
        | _ => .error .missing := by
  unfold slot
  rw [hp]
  simp only [bind, Except.bind]
  cases walk f.root (f.origin p) p.names.dropLast with
  | error e => rfl
  | ok loc =>
    simp only [hl, hh, ha, or_self, if_false]
    split <;> simp_all [pure, Except.pure, throw, throwThe, MonadExceptOf.throw]

theorem Path.size_le_size_join (dir name : String) :
    dir.utf8ByteSize ≤ (Path.join dir name).utf8ByteSize := by
  unfold Path.join
  split <;> simp only [String.utf8ByteSize_append] <;> omega

theorem Path.size_join_le (dir name : String) :
    (Path.join dir name).utf8ByteSize ≤ dir.utf8ByteSize + 1 + name.utf8ByteSize := by
  have hslash : "/".utf8ByteSize = 1 := by decide
  unfold Path.join
  split <;> simp only [String.utf8ByteSize_append] <;> omega

theorem Path.size_join_le_size_join (dir : String) {name name' : String}
    (h : name.utf8ByteSize ≤ name'.utf8ByteSize) :
    (Path.join dir name).utf8ByteSize ≤ (Path.join dir name').utf8ByteSize := by
  unfold Path.join
  split <;> simp only [String.utf8ByteSize_append] <;> omega

section

variable {f : Files} {dir name : String} {loc : List String} (hname : Path.IsName name)
include hname

/-- A name in a directory that exists. -/
theorem slot_join_of_folder (hf : f.folder dir = .ok loc)
    (hs : (Path.join dir name).utf8ByteSize ≤ Path.maxLength) :
    ∃ es, f.root.at? loc = some (.dir es) ∧
      f.slot (Path.join dir name) = .ok (.entry loc es name false) := by
  obtain ⟨hnul, -, hw, hd⟩ := folder_eq_ok_iff.mp hf
  obtain ⟨es, hes⟩ := Node.look?_eq_dir_iff.mp hd
  have hp := Path.parse_join dir hname
  rw [if_neg hnul, if_neg (Nat.not_lt.mpr hs)] at hp
  refine ⟨es, hes, ?_⟩
  rw [slot_of_parse hp (by simp) hname.notHere hname.notAbove]
  have hw' : walk f.root (f.origin ⟨dir.toList.head? = some '/', Path.namesOf dir.toList ++ [name],
      false⟩) (Path.namesOf dir.toList) = .ok loc := by simpa [origin, start] using hw
  simp [hw', hes]

theorem slot_join_tooLong (hf : f.folder dir = .ok loc)
    (hs : Path.maxLength < (Path.join dir name).utf8ByteSize) :
    f.slot (Path.join dir name) = .error .nameTooLong := by
  have hp := Path.parse_join dir hname
  rw [if_neg (folder_eq_ok_iff.mp hf).1, if_pos hs] at hp
  simp [slot, hp, bind, Except.bind]

/-- A name in a directory that does not exist. -/
theorem slot_join_of_folder_error {e : Fault} (hf : f.folder dir = .error e) :
    ∃ fault, f.slot (Path.join dir name) = .error fault := by
  have hp := Path.parse_join dir hname
  by_cases hnul : '\x00' ∈ dir.toList
  · rw [if_pos hnul] at hp
    exact ⟨.nulInPath, by simp [slot, hp, bind, Except.bind]⟩
  by_cases hs : Path.maxLength < (Path.join dir name).utf8ByteSize
  · rw [if_neg hnul, if_pos hs] at hp
    exact ⟨.nameTooLong, by simp [slot, hp, bind, Except.bind]⟩
  rw [if_neg hnul, if_neg hs] at hp
  rw [slot_of_parse hp (by simp) hname.notHere hname.notAbove]
  have hsize := Path.size_le_size_join dir name
  have hnot : ∀ loc, walk f.root (f.start dir) (Path.namesOf dir.toList) = .ok loc →
      f.root.look? loc ≠ some .dir := fun loc hw hd => by
    simp [folder_eq_ok_iff.mpr ⟨hnul, by omega, hw, hd⟩] at hf
  have horigin : f.origin ⟨dir.toList.head? = some '/', Path.namesOf dir.toList ++ [name],
      false⟩ = f.start dir := by simp [origin, start]
  simp only [horigin, List.dropLast_concat]
  cases hw : walk f.root (f.start dir) (Path.namesOf dir.toList) with
  | error e => exact ⟨e, rfl⟩
  | ok loc =>
    cases hr : f.root.at? loc with
    | none => exact ⟨.missing, by simp [hr]⟩
    | some m =>
      cases m with
      | file text => exact ⟨.missing, by simp [hr]⟩
      | dir es => exact absurd (Node.look?_eq_dir_iff.mpr ⟨es, hr⟩) (hnot loc hw)

/-- The place of a name in a directory. -/
theorem place?_join_eq_some_iff {place : List String} :
    f.place? (Path.join dir name) = some place ↔
      (Path.join dir name).utf8ByteSize ≤ Path.maxLength ∧
        ∃ loc, f.folder dir = .ok loc ∧ place = loc ++ [name] := by
  unfold place?
  cases hf : f.folder dir with
  | error e =>
    obtain ⟨fault, hs⟩ := slot_join_of_folder_error hname hf
    simp [hs]
  | ok loc =>
    rcases Nat.lt_or_ge Path.maxLength (Path.join dir name).utf8ByteSize with hs | hs
    · simp [slot_join_tooLong hname hf hs, Nat.not_le.mpr hs]
    · obtain ⟨es, -, hslot⟩ := slot_join_of_folder hname hf hs
      simp [hslot, hs, eq_comm]

/-! ## Writing a name in a directory -/

/-- A write into an existing directory. -/
theorem write_join_eq (hf : f.folder dir = .ok loc) (text : String) :
    f.write (Path.join dir name) text =
      if Path.maxLength < (Path.join dir name).utf8ByteSize then .error .nameTooLong
      else if f.root.look? (loc ++ [name]) = some .dir then .error .isDirectory
      else .ok (f.alter loc (Fields.insert name (.file text))) := by
  by_cases hs : Path.maxLength < (Path.join dir name).utf8ByteSize
  · rw [if_pos hs]
    simp [write, slot_join_tooLong hname hf hs, bind, Except.bind]
  rw [if_neg hs]
  obtain ⟨es, hes, hslot⟩ := slot_join_of_folder hname hf (Nat.not_lt.mp hs)
  have hshort : Path.tooLong name = false := hname.short
  rw [Node.look?_append_singleton hes]
  simp only [write, hslot, find, hshort, bind, Except.bind, pure, Except.pure]
  cases hg : Fields.get? name es with
  | none => simp
  | some m =>
    cases m with
    | file old => simp [Node.entry]
    | dir sub => simp [Node.entry, throw, throwThe, MonadExceptOf.throw]

theorem write_join_of_folder_error {e : Fault} (hf : f.folder dir = .error e) (text : String) :
    ∃ fault, f.write (Path.join dir name) text = .error fault := by
  obtain ⟨fault, hslot⟩ := slot_join_of_folder_error hname hf
  exact ⟨fault, by simp [write, hslot, bind, Except.bind]⟩

/-- A write that succeeds. -/
theorem put_of_write_join {text : String} {g : Files}
    (h : f.write (Path.join dir name) text = .ok g) :
    (Path.join dir name).utf8ByteSize ≤ Path.maxLength ∧
      ∃ loc, f.folder dir = .ok loc ∧ f.Put (loc ++ [name]) text g := by
  cases hf : f.folder dir with
  | error e =>
    obtain ⟨fault, he⟩ := write_join_of_folder_error hname hf text
    simp [he] at h
  | ok loc =>
    rw [write_join_eq hname hf] at h
    split at h
    · simp at h
    next hs =>
    split at h
    · simp at h
    next hn =>
    obtain rfl := Except.ok.inj h
    obtain ⟨es, hes⟩ := Node.look?_eq_dir_iff.mp (folder_eq_ok_iff.mp hf).2.2.2
    exact ⟨Nat.not_lt.mp hs, loc, rfl, put_alter text hes hn⟩

/-- When a write succeeds. -/
theorem write_join_ok_iff (text : String) :
    (∃ g, f.write (Path.join dir name) text = .ok g) ↔
      (Path.join dir name).utf8ByteSize ≤ Path.maxLength ∧
        ∃ loc, f.folder dir = .ok loc ∧ f.root.look? (loc ++ [name]) ≠ some .dir := by
  constructor
  · rintro ⟨g, h⟩
    obtain ⟨hs, loc, hf, hput⟩ := put_of_write_join hname h
    exact ⟨hs, loc, hf, hput.noDir⟩
  · rintro ⟨hs, loc, hf, hn⟩
    exact ⟨_, by rw [write_join_eq hname hf, if_neg (Nat.not_lt.mpr hs), if_neg hn]⟩

end

/-! ## The same directories -/

/-- The text of a directory means the same place. -/
theorem SameDirs.folder_eq_ok_iff {f g : Files} (h : f.SameDirs g) {dir : String}
    {loc : List String} : g.folder dir = .ok loc ↔ f.folder dir = .ok loc := by
  have hstart : g.start dir = f.start dir := by simp [start, h.cwd]
  have hwalk : walk g.root (f.start dir) (Path.namesOf dir.toList) = .ok loc ↔
      walk f.root (f.start dir) (Path.namesOf dir.toList) = .ok loc :=
    ⟨walk_congr fun names => (h.isDir_iff names).mp,
      walk_congr fun names => (h.isDir_iff names).mpr⟩
  rw [Files.folder_eq_ok_iff, Files.folder_eq_ok_iff, hstart, hwalk, h.isDir_iff]

section

variable {f g : Files} {dir name : String} (h : f.SameDirs g) (hname : Path.IsName name)
include h hname

/-- A path in a directory leads to the same place. -/
theorem SameDirs.place?_join : g.place? (Path.join dir name) = f.place? (Path.join dir name) := by
  ext p
  simp only [place?_join_eq_some_iff hname, h.folder_eq_ok_iff]

/-- A write into a directory that exists has the same fault, whatever the text. -/
theorem SameDirs.write_join_error_iff {loc : List String} (hf : f.folder dir = .ok loc)
    (text text' : String) {fault : Fault} :
    g.write (Path.join dir name) text = .error fault ↔
      f.write (Path.join dir name) text' = .error fault := by
  have hg : g.folder dir = .ok loc := h.folder_eq_ok_iff.mpr hf
  rw [write_join_eq hname hg, write_join_eq hname hf]
  simp only [h.isDir_iff]
  split
  · rfl
  split
  · rfl
  · simp

end

end UserConfigs.Files
