import UserConfigs.Proofs.Runs

/-!
# The paths of users' files

The path of a user's file is the text of the directory and the name of the file, with a slash
between them where one is needed (`Files.Path.join_eq`). The name holds the number of the user in
decimal digits, the one text without leading zeros that reads back as the number
(`Uid.isDecimal_decimal`). So the path tells the user (`pathFor_inj`), and where the paths of two
users mean anything they mean entries of one directory, with the names of the two files
(`slot_pathFor`).
-/

namespace UserConfigs

open Files (Path Slot)

/-! ## Decimal digits -/

/-- A text spells a number in decimal digits : no sign but digits, no zero in front of others. -/
structure IsDecimal (n : Nat) (s : String) : Prop where
  digits : ∀ c ∈ s.toList, c.isDigit = true
  noLeadingZero : s.toList.head? = some '0' → s = "0"
  readsBack : s.toNat? = some n

/-- Only zero starts with the digit zero. -/
theorem head?_toDigits_ne {n : Nat} (hn : n ≠ 0) : (Nat.toDigits 10 n).head? ≠ some '0' := by
  induction n using Nat.strongRecOn with
  | ind n ih =>
    rcases Nat.lt_or_ge n 10 with h | h
    · rw [Nat.toDigits_of_lt_base h, List.head?_cons, ne_eq, Option.some_inj,
        Nat.digitChar_eq_zero]
      exact hn
    · rw [Nat.toDigits_of_base_le (by decide) h,
        List.head?_append_of_ne_nil _ Nat.toDigits_ne_nil]
      exact ih (n / 10) (by omega) (by omega)

theorem Uid.isDecimal_decimal (u : Uid) : IsDecimal u.toNat u.decimal where
  digits _ hc := Uid.isDigit_of_mem_decimal hc
  noLeadingZero h := by
    rw [Uid.decimal, Nat.toList_repr] at h
    by_cases hu : u.toNat = 0
    · rw [Uid.decimal, hu]
      rfl
    · exact absurd h (head?_toDigits_ne hu)
  readsBack := Nat.toNat?_repr u.toNat

/-! ## Names behind a directory -/

namespace Files

theorem Path.join_eq (dir name : String) :
    Path.join dir name =
      dir ++ (if dir = "" ∨ dir.toList.getLast? = some '/' then "" else "/") ++ name := by
  unfold Path.join
  by_cases h : dir = "" ∨ dir.toList.getLast? = some '/'
  · rw [if_pos h, String.append_empty, if_pos (by simpa [String.isEmpty_iff] using h)]
  · rw [if_neg h, if_neg (by simpa [String.isEmpty_iff] using h)]

/-- Names behind one directory stay apart. -/
theorem Path.join_inj {dir name name' : String} :
    Path.join dir name = Path.join dir name' ↔ name = name' := by
  rw [Path.join_eq, Path.join_eq, String.append_right_inj]

/-- What a name in a directory means is the entry of this name. -/
theorem eq_entry_of_slot_join {f : Files} {dir name : String} (hname : Path.IsName name)
    {s : Slot} (hs : f.slot (Path.join dir name) = .ok s) :
    ∃ loc entries, f.folder dir = .ok loc ∧ f.root.at? loc = some (.dir entries) ∧
      s = .entry loc entries name false := by
  cases hf : f.folder dir with
  | error e =>
    obtain ⟨fault, hfault⟩ := slot_join_of_folder_error hname hf
    simp [hfault] at hs
  | ok loc =>
    rcases Nat.lt_or_ge Path.maxLength (Path.join dir name).utf8ByteSize with hlong | hshort
    · simp [slot_join_tooLong hname hf hlong] at hs
    · obtain ⟨entries, hentries, hslot⟩ := slot_join_of_folder hname hf hshort
      exact ⟨loc, entries, rfl, hentries, Except.ok.inj (hs.symm.trans hslot)⟩

end Files

/-! ## Paths of users -/

namespace Emit

open Document (fileName fileName_inj isName_fileName)

theorem pathFor_inj {dir : String} {u w : Uid} : pathFor dir u = pathFor dir w ↔ u = w := by
  rw [pathFor, pathFor, Path.join_inj, fileName_inj]

/-- Two paths that mean anything mean entries of one directory. -/
theorem slot_pathFor {f : Files} {dir : String} {u w : Uid} {s t : Slot}
    (hs : f.slot (pathFor dir u) = .ok s) (ht : f.slot (pathFor dir w) = .ok t) :
    ∃ loc entries, f.root.at? loc = some (.dir entries) ∧
      s = .entry loc entries (fileName u) false ∧ t = .entry loc entries (fileName w) false := by
  obtain ⟨loc, entries, hfolder, hentries, rfl⟩ :=
    Files.eq_entry_of_slot_join (isName_fileName u) hs
  obtain ⟨loc', entries', hfolder', hentries', rfl⟩ :=
    Files.eq_entry_of_slot_join (isName_fileName w) ht
  obtain rfl : loc = loc' := Except.ok.inj (hfolder.symm.trans hfolder')
  obtain rfl : entries = entries' := by
    have hsame := hentries.symm.trans hentries'
    simpa using hsame
  exact ⟨loc, entries, hentries, rfl, rfl⟩

/-- The path of a user's file is the directory, a slash if one is missing, and a name that is one
part of a path and holds the number of the user. The path tells the user, and where the paths of two
users mean anything they mean entries of the same directory, one only for one user. -/
theorem pathFor_tells_user (dir : String) (u w : Uid) :
    pathFor dir u =
        dir ++ (if dir = "" ∨ dir.toList.getLast? = some '/' then "" else "/") ++ fileName u ∧
      ('/' ∉ (fileName u).toList ∧ '\x00' ∉ (fileName u).toList ∧ fileName u ≠ "." ∧
        fileName u ≠ "..") ∧
      (∃ digits, fileName u = "user_" ++ digits ++ ".yml" ∧ IsDecimal u.toNat digits) ∧
      (pathFor dir u = pathFor dir w ↔ u = w) ∧
      ∀ (f : Files) (s t : Slot), f.slot (pathFor dir u) = .ok s →
        f.slot (pathFor dir w) = .ok t →
          (∃ loc entries, f.root.at? loc = some (.dir entries) ∧
            s = .entry loc entries (fileName u) false ∧
              t = .entry loc entries (fileName w) false) ∧
            (s = t ↔ u = w) := by
  have hname := isName_fileName u
  refine ⟨Path.join_eq dir (fileName u),
    ⟨hname.noSlash, hname.noNul, hname.notHere, hname.notAbove⟩,
    ⟨u.decimal, rfl, u.isDecimal_decimal⟩, pathFor_inj, fun f s t hs ht => ?_⟩
  obtain ⟨loc, entries, hentries, rfl, rfl⟩ := slot_pathFor hs ht
  refine ⟨⟨loc, entries, hentries, rfl, rfl⟩, fun h => ?_, fun h => by rw [h]⟩
  have hnames : fileName u = fileName w := by simpa using h
  exact fileName_inj.mp hnames

/-- The files of the first and the last user, in a directory with a slash at its end. -/
theorem pathFor_tells_user_slashed :
    pathFor "./" 1 = "./user_1.yml" ∧
      ∃ s t, bare.slot (pathFor "./" firstUid) = .ok s ∧
        bare.slot (pathFor "./" lastUid) = .ok t ∧ s ≠ t := by
  obtain ⟨hpath, -, -, -, -⟩ := pathFor_tells_user "./" 1 1
  obtain ⟨-, -, -, -, hslots⟩ := pathFor_tells_user "./" firstUid lastUid
  have hfolder : bare.folder "./" = .ok [] := rfl
  have hshort : ∀ u, (pathFor "./" u).utf8ByteSize ≤ Path.maxLength := fun u => by
    have hjoin := Path.size_join_le "./" (fileName u)
    have hname := Document.utf8ByteSize_fileName_le u
    have hdir : "./".utf8ByteSize = 2 := by decide
    have hmax : Path.maxLength = 4095 := rfl
    rw [pathFor]
    omega
  obtain ⟨_, -, hs⟩ := Files.slot_join_of_folder (isName_fileName firstUid) hfolder (hshort _)
  obtain ⟨_, -, ht⟩ := Files.slot_join_of_folder (isName_fileName lastUid) hfolder (hshort _)
  refine ⟨by rw [hpath]; decide, _, _, hs, ht, fun h => ?_⟩
  exact absurd ((hslots bare _ _ hs ht).2.mp h) (by decide)

end Emit

end UserConfigs
