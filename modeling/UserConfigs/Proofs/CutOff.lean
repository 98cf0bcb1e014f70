import UserConfigs.Proofs.ReadBack
import UserConfigs.Proofs.Texts

/-!
# Documents that were cut off

A document of a user that was cut off may still be read : a cut in the commitment leaves a text that
is in order. But it is not read as the config of a user. For without escapes the commitment has only
letters of the text, in their order (`Config.letters_commitment`), and what comes before the last
letter of a document (`Document.stump`) does not have those of "confirmed"
(`Document.not_sublist_letters_stump`), whatever the number of the user, which has no letters at
all. Only the line break at the end is not missed (`Config.read_cutOff`).
-/

namespace UserConfigs

open Yaml (letters HasLettersOf)
open Yaml.Scan (callers)

/-- If nothing in a text calls for an escape, the commitment has only letters of the text. -/
theorem Config.letters_commitment {s : String} (hs : ∀ c ∈ callers, c ∉ s.toList) {c : Config}
    (h : read s = .ok c) : (letters c.commitment.toList).Sublist (letters s.toList) := by
  have hnil : HasLettersOf s.toList [] := List.nil_sublist _
  exact (says_of_read hnil (Yaml.letters_of_scan hs) h).commitment

namespace Document

/-- A document without the end of its last line, and without the letter before it. -/
def stump (s : String) : List Char :=
  opening.toList ++ s.toList ++ closing.toList.dropLast.dropLast

theorem toList_fill_stump (s : String) : (fill s).toList = stump s ++ ['d'] ++ ['\n'] := by
  have hclosing : closing.toList = closing.toList.dropLast.dropLast ++ ['d'] ++ ['\n'] := by
    decide +kernel
  rw [fill, String.toList_append, String.toList_append, hclosing]
  simp only [stump, List.append_assoc]

theorem filledLines_stump (s : String) : filledLines s [] = stump s ++ ['d'] := by
  have h := toList_fill_stump s
  rw [toList_fill, filledLines_append] at h
  exact List.append_cancel_right h

/-- A start of a document is all of it, or lacks the end of the last line, or more. -/
theorem prefix_fill {s : String} {p : List Char} (h : p <+: (fill s).toList) :
    p = (fill s).toList ∨ p = filledLines s [] ∨ p <+: stump s := by
  rw [toList_fill_stump] at h ⊢
  rw [filledLines_stump]
  rcases List.prefix_concat_iff.mp h with h | h
  · exact .inl h
  · exact .inr (List.prefix_concat_iff.mp h)

section Digits

variable {s : String} (hs : ∀ c ∈ s.toList, c.isDigit = true)
include hs

theorem callers_notMem_stump : ∀ c ∈ callers, c ∉ stump s := by
  have haround : (opening.toList ++ closing.toList.dropLast.dropLast).all
      (fun c => !callers.contains c) = true := by decide +kernel
  have hdigits : callers.all (fun c => !c.isDigit) = true := by decide
  intro c hc hmem
  have hfixed : c ∉ opening.toList ++ closing.toList.dropLast.dropLast := fun hmem => by
    simpa [hc] using List.all_eq_true.mp haround c hmem
  have hdigit : c.isDigit = false := by simpa using List.all_eq_true.mp hdigits c hc
  rcases List.mem_append.mp hmem with hmem | hmem
  · rcases List.mem_append.mp hmem with hmem | hmem
    · exact hfixed (List.mem_append_left _ hmem)
    · exact Bool.noConfusion ((hs c hmem).symm.trans hdigit)
  · exact hfixed (List.mem_append_right _ hmem)

/-- Digits are no letters, so the letters before the end of a document are always the same. -/
theorem letters_stump :
    letters (stump s) = letters opening.toList ++ letters closing.toList.dropLast.dropLast := by
  have hdigits : letters s.toList = [] := by
    refine List.filter_eq_nil_iff.mpr fun c hc halpha => ?_
    have hstart : Template.isNameStart c = true := Bool.or_eq_true_iff.mpr (.inl halpha)
    exact Bool.noConfusion
      ((hs c hc).symm.trans (Template.isDigit_of_isNameStart hstart))
  rw [stump, Yaml.letters_append, Yaml.letters_append, hdigits, List.append_nil]

theorem not_sublist_letters_stump :
    ¬ (letters "confirmed".toList).Sublist (letters (stump s)) := by
  rw [letters_stump hs]
  decide +kernel

/-- A start of a document that ends before the last letter has another commitment, if it is in
order at all. -/
theorem commitment_ne_of_stump {p : String} (hp : p.toList <+: stump s) {c : Config}
    (h : Config.read p = .ok c) : c.commitment ≠ "confirmed" := by
  intro hcommitment
  have hcallers : ∀ c ∈ callers, c ∉ p.toList := fun c hc hmem =>
    callers_notMem_stump hs c hc (hp.subset hmem)
  have hletters := Config.letters_commitment hcallers h
  rw [hcommitment] at hletters
  exact not_sublist_letters_stump hs (hletters.trans (hp.sublist.filter Char.isAlpha))

end Digits

end Document

namespace Config

/-- A document that was cut off is not read as the config of any user, unless the line break at its
end is all that is missing. -/
theorem read_cutOff (u : Uid) :
    ∃ whole : String, Document.render u = .ok (whole ++ "\n") ∧ read whole = .ok (forUser u) ∧
      ∀ p : String, p.toList <+: (whole ++ "\n").toList → p ≠ whole ++ "\n" → p ≠ whole →
        ∀ w : Uid, read p ≠ .ok (forUser w) := by
  have hdigits : ∀ c ∈ u.decimal.toList, c.isDigit = true := fun c => Uid.isDigit_of_mem_decimal
  have hfill : Document.fill u.decimal =
      String.ofList (Document.filledLines u.decimal []) ++ "\n" := by
    rw [String.ext_iff, Document.toList_fill, Document.filledLines_append, String.toList_append,
      String.toList_ofList]
    rfl
  refine ⟨String.ofList (Document.filledLines u.decimal []), ?_, ?_, ?_⟩
  · rw [Document.render_eq, hfill]
  · exact read_filledLines_decimal u .text
  · rw [← hfill]
    intro p hp hne hne' w hread
    rcases Document.prefix_fill hp with h | h | h
    · exact hne (String.ext_iff.mpr h)
    · exact hne' (by rw [← h, String.ofList_toList])
    · exact Document.commitment_ne_of_stump hdigits h hread rfl

/-- Cut before the last letter, where the text is in order. -/
theorem read_cutOff_letter :
    ∃ p : String, Document.render 7 = .ok (p ++ "d" ++ "\n") ∧ read (p ++ "d") = .ok (forUser 7) ∧
      ∀ w : Uid, read p ≠ .ok (forUser w) := by
  obtain ⟨whole, hrender, hread, hcut⟩ := read_cutOff 7
  have hfill : whole ++ "\n" = Document.fill (Uid.decimal 7) :=
    Except.ok.inj (hrender.symm.trans (Document.render_eq 7))
  obtain rfl : whole = String.ofList (Document.stump (Uid.decimal 7)) ++ "d" := by
    rw [String.ext_iff, Document.toList_fill_stump, String.toList_append] at hfill
    rw [String.ext_iff, String.toList_append, String.toList_ofList]
    exact List.append_cancel_right hfill
  refine ⟨_, hrender, hread, hcut _ ?_ ?_ ?_⟩
  · simp
  · simp [String.ext_iff]
  · simp [String.ext_iff]

end Config

end UserConfigs
