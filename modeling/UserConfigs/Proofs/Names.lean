import Std.Data.String.ToNat
import UserConfigs.Emit
import UserConfigs.Proofs.Writes

/-!
# The names of users' files

The decimal digits of a user's number tell the user (`Uid.decimal_inj`), so the name of the file
does too (`Document.fileName_inj`). The name stands for an entry of every directory
(`Document.isName_fileName`) : it is short, and a slash or a point alone is no part of it. The
users of a run are the numbers from `Emit.firstUid` to `Emit.lastUid`, in this order
(`Emit.getElem?_uids`).
-/

namespace UserConfigs

open Files (Path)

/-! ## Numbers in decimal digits -/

theorem Uid.isDigit_of_mem_decimal {u : Uid} {c : Char} (h : c ∈ u.decimal.toList) :
    c.isDigit = true := by
  rw [Uid.decimal, Nat.toList_repr] at h
  exact Nat.isDigit_of_mem_toDigits (by decide) (by decide) h

theorem Uid.decimal_inj {u w : Uid} : u.decimal = w.decimal ↔ u = w := by
  rw [Uid.decimal, Uid.decimal, Nat.repr_inj, UInt32.toNat_inj]

/-- A number of 32 bits has at most ten digits. -/
theorem Uid.length_decimal_le (u : Uid) : u.decimal.length ≤ 10 := by
  rw [Uid.decimal, Nat.length_repr_le_iff (by decide)]
  have := u.toNat_lt
  omega

/-! ## Names of files -/

/-- A digit takes one octet. -/
theorem utf8ByteSize_ofList_digits :
    ∀ {s : List Char}, (∀ c ∈ s, c.isDigit = true) → (String.ofList s).utf8ByteSize = s.length
  | [], _ => rfl
  | c :: s, h => by
    obtain ⟨hc, hs⟩ := List.forall_mem_cons.mp h
    have hsize : c.utf8Size = 1 := by
      simp only [Char.isDigit, Bool.and_eq_true, decide_eq_true_eq] at hc
      have hnine : '9'.val ≤ 127 := by decide
      exact Char.utf8Size_eq_one_iff.mpr (UInt32.le_trans hc.2 hnine)
    rw [String.ofList_cons, String.utf8ByteSize_append, String.utf8ByteSize_singleton, hsize,
      utf8ByteSize_ofList_digits hs, List.length_cons, Nat.add_comm]

theorem Uid.utf8ByteSize_decimal (u : Uid) : u.decimal.utf8ByteSize = u.decimal.length := by
  have h := utf8ByteSize_ofList_digits fun c hc => u.isDigit_of_mem_decimal hc
  rwa [String.ofList_toList, String.length_toList] at h

namespace Document

theorem toList_fileName (u : Uid) :
    (fileName u).toList = "user_".toList ++ (u.decimal.toList ++ ".yml".toList) := by
  simp only [fileName, String.toList_append, List.append_assoc]

theorem fileName_inj {u w : Uid} : fileName u = fileName w ↔ u = w := by
  rw [← String.toList_inj, toList_fileName, toList_fileName, List.append_cancel_left_eq,
    List.append_cancel_right_eq, String.toList_inj, Uid.decimal_inj]

/-- A character of the name is a digit or one of the fixed part. -/
theorem notMem_fileName {c : Char} (hdigit : c.isDigit = false)
    (hfixed : c ∉ "user_".toList ++ ".yml".toList) (u : Uid) : c ∉ (fileName u).toList := by
  rw [List.mem_append, not_or] at hfixed
  rw [toList_fileName, List.mem_append, List.mem_append]
  rintro (h | h | h)
  · exact hfixed.1 h
  · rw [Uid.isDigit_of_mem_decimal h] at hdigit
    cases hdigit
  · exact hfixed.2 h

theorem utf8ByteSize_fileName (u : Uid) :
    (fileName u).utf8ByteSize = 9 + u.decimal.length := by
  have hfixed : "user_".utf8ByteSize = 5 ∧ ".yml".utf8ByteSize = 4 := by decide
  simp only [fileName, String.utf8ByteSize_append, Uid.utf8ByteSize_decimal]
  omega

theorem utf8ByteSize_fileName_le (u : Uid) : (fileName u).utf8ByteSize ≤ 19 := by
  have hlength := Uid.length_decimal_le u
  rw [utf8ByteSize_fileName]
  omega

/-- No name in a run is longer than the last one. -/
theorem utf8ByteSize_fileName_le_last {u : Uid} (hu : u.toNat ≤ Emit.lastUid.toNat) :
    (fileName u).utf8ByteSize ≤ (fileName Emit.lastUid).utf8ByteSize := by
  have hlast : Emit.lastUid.decimal.length = 3 ∧ Emit.lastUid.toNat = 100 := by decide
  have hlength : u.decimal.length ≤ 3 := by
    rw [Uid.decimal, Nat.length_repr_le_iff (by decide)]
    omega
  rw [utf8ByteSize_fileName, utf8ByteSize_fileName]
  omega

/-- The name of a user's file can stand for an entry of a directory. -/
theorem isName_fileName (u : Uid) : Path.IsName (fileName u) where
  nonempty h := by simp [toList_fileName] at h
  noSlash := notMem_fileName rfl (by decide) u
  noNul := notMem_fileName rfl (by decide) u
  notHere h := by
    have := congrArg String.toList h
    simp [toList_fileName] at this
  notAbove h := by
    have := congrArg String.toList h
    simp [toList_fileName] at this
  short := by
    have hsize := utf8ByteSize_fileName_le u
    have hmax : Path.maxNameLength = 255 := rfl
    rw [Path.tooLong, decide_eq_false_iff_not]
    omega

end Document

/-! ## The users of a run -/

namespace Emit

theorem length_uids : uids.length = 100 := by decide

/-- The user at a place of a run. -/
theorem getElem?_uids {k : Nat} (hk : k < 100) : uids[k]? = some (UInt32.ofNat (k + 1)) := by
  have hrange : uids = (List.range' 1 100).map UInt32.ofNat := rfl
  rw [hrange, List.getElem?_map, List.getElem?_range' hk, Option.map_some, Nat.add_comm,
    Nat.one_mul]

theorem toNat_ofNat_of_le {n : Nat} (hn : n ≤ 100) : (UInt32.ofNat n).toNat = n := by
  rw [UInt32.toNat_ofNat']
  omega

theorem take_uids {n : Nat} (hn : n ≤ 100) :
    uids.take n = (List.range' 1 n).map UInt32.ofNat := by
  have hrange : uids = (List.range' 1 100).map UInt32.ofNat := rfl
  rw [hrange, ← List.map_take, List.take_range'_of_length_ge hn]

/-- The users before a place of a run are those with the numbers up to it. -/
theorem mem_take_uids {n : Nat} (hn : n ≤ 100) (u : Uid) :
    u ∈ uids.take n ↔ 1 ≤ u.toNat ∧ u.toNat ≤ n := by
  rw [List.mem_iff_getElem?]
  constructor
  · rintro ⟨k, h⟩
    rw [List.getElem?_take] at h
    split at h
    · rw [getElem?_uids (by omega), Option.some.injEq] at h
      rw [← h, toNat_ofNat_of_le (by omega)]
      omega
    · simp at h
  · rintro ⟨h, h'⟩
    refine ⟨u.toNat - 1, ?_⟩
    rw [List.getElem?_take_of_lt (by omega), getElem?_uids (by omega), Nat.sub_add_cancel h,
      UInt32.ofNat_toNat]

end Emit

end UserConfigs
