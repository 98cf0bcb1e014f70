import UserConfigs.Proofs.Keeping
import UserConfigs.Proofs.ReadBack

/-!
# Documents put one behind another

A config is read from a text with one document. Where the document of a user is followed by the sign
that starts a document, its tokens stay whatever comes next (`Document.scan_appended`), and so does
what they say. Then there is more than the one document (`Config.read_appended`), and the text is
refused, however short or broken the rest is. The one thing that comes before is a character that
may not stand in any text (`Config.read_of_not_printable`).

So a file to which the documents of users were appended is a config only if it got a single one
(`Config.appended_refused`).
-/

namespace UserConfigs

open Yaml (Tree Token isPrintable octets)
open Yaml.Scan (Steps start isIndented_zero)

namespace Document

/-- The tokens of a document stay in front of whatever follows the sign of a next one. -/
theorem scan_appended {s : String} (hs : ∀ c ∈ s.toList, isPathChar c = true) (rest : List Char)
    (hrest : rest.all isPrintable = true) :
    ∃ tokens mark more problem,
      Token.scan (filledLines s ('\n' :: '-' :: '-' :: '-' :: '\n' :: rest)) =
        (tokens ++ mark :: more, problem) ∧
      tokens.map Token.sign = (tree (keypairPath s).toList).openSigns true ∧
      mark.sign = .documentStart := by
  have hindented : Yaml.Scan.IsIndented 0 ('-' :: '-' :: '-' :: '\n' :: rest) _ :=
    isIndented_zero rfl
  obtain ⟨n, hn, t, signs, hsteps, hline, hopen⟩ := steps_filledLines hs (.line hindented)
  obtain ⟨v, hv, hcalm, -⟩ := hline.closes_marker
  have htail : ('\n' :: '-' :: '-' :: '-' :: '\n' :: rest).all isPrintable = true := by
    simpa [isPrintable] using hrest
  have htext := printable_filledLines hs htail
  obtain ⟨fuel, hfuel⟩ := Nat.exists_eq_add_of_le (Nat.add_le_add hn (by decide : 1 ≤ 2))
  obtain ⟨mark, tokens, htokens, hmark, hsigns⟩ := List.map_eq_cons_iff.mp hcalm.read
  obtain ⟨more, hmore⟩ := hcalm.keeps.run fuel
  refine ⟨tokens.reverse, mark, more, (Yaml.Scan.run fuel v).2, ?_, ?_, hmark⟩
  · rw [Token.scan, if_pos htext, hfuel, Yaml.Scan.run_of_steps (hsteps.trans hv), Prod.ext_iff]
    exact ⟨by rw [← hmore, htokens]; simp, rfl⟩
  · rw [List.map_reverse, hsigns, ← hopen]
    simp

end Document

namespace Config

/-- A document with a further one behind it, or with anything else that is printable. -/
theorem read_appended {s : String} (hs : ∀ c ∈ s.toList, isPathChar c = true) {rest : String}
    (hrest : rest.toList.all isPrintable = true) :
    read (Document.fill s ++ "---\n" ++ rest) = .error .severalDocuments := by
  obtain ⟨tokens, mark, more, problem, hscan, hsigns, hmark⟩ := Document.scan_appended hs _ hrest
  have htext : (Document.fill s ++ "---\n" ++ rest).toList =
      Document.filledLines s ('\n' :: '-' :: '-' :: '-' :: '\n' :: rest.toList) := by
    rw [String.toList_append, String.toList_append, Document.toList_fill,
      Document.filledLines_append, Document.filledLines_append s ('\n' :: _)]
    simp
  obtain ⟨items, hitems, hdocument⟩ :=
    Yaml.Document.ofTokens_tree_append _ hsigns mark more (by simp [hmark]) problem
  rw [read, htext, Yaml.Document.read, hscan]
  simp only [hdocument, ofDocument_tree hitems, hmark]
  rfl

/-- A text with a character that may not stand in it is not read at all. -/
theorem read_of_not_printable {s : String} (h : s.toList.all isPrintable = false) :
    read s = .error (.broken (.problem
      ⟨.controlCharacter, .zero, octets (s.toList.takeWhile isPrintable), none⟩)) := by
  rw [read, Yaml.Document.read, Token.scan, h]
  rfl

/-- The documents of users are printable, one after another too. -/
theorem printable_join_fill : ∀ users : List Uid,
    (String.join (users.map fun u => Document.fill u.decimal)).toList.all isPrintable = true
  | [] => rfl
  | u :: users => by
    rw [List.map_cons, String.join_cons, String.toList_append, List.all_append,
      Document.printable_fill fun _ => isPathChar_of_mem_decimal, printable_join_fill users]
    rfl

/-- A document starts with the sign that starts a document. -/
theorem exists_fill_eq (s : String) : ∃ lines, Document.fill s = "---\n" ++ lines := by
  refine ⟨String.ofList ((Document.filledLines s ['\n']).drop 4), String.toList_inj.mp ?_⟩
  rw [Document.toList_fill, String.toList_append]
  simp [Document.filledLines]

/-- A document of a user is read by itself, and not with anything appended to it. -/
theorem appended_refused :
    (∀ (u : Uid) (s : String), ∃ text e, Document.render u = .ok text ∧
      read (text ++ "---\n" ++ s) = .error e) ∧
    ∀ users : List Uid, users ≠ [] → ∃ texts, users.mapM Document.render = .ok texts ∧
      ((∃ config, read (String.join texts) = .ok config) ↔ users.length = 1) ∧
      (2 ≤ users.length → read (String.join texts) = .error .severalDocuments) := by
  refine ⟨fun u s => ?_, fun users hne => ?_⟩
  · have hread : ∃ e, read (Document.fill u.decimal ++ "---\n" ++ s) = .error e := by
      cases htext : (Document.fill u.decimal ++ "---\n" ++ s).toList.all isPrintable with
      | false => exact ⟨_, read_of_not_printable htext⟩
      | true =>
        rw [String.toList_append, List.all_append, Bool.and_eq_true] at htext
        exact ⟨_, read_appended (fun _ => isPathChar_of_mem_decimal) htext.2⟩
    obtain ⟨e, he⟩ := hread
    exact ⟨_, e, Document.render_eq u, he⟩
  have hrender : Document.render = fun u => pure (Document.fill u.decimal) :=
    funext Document.render_eq
  refine ⟨users.map fun u => Document.fill u.decimal, by rw [hrender, List.mapM_pure]; rfl, ?_⟩
  rcases users with _ | ⟨u, _ | ⟨w, users⟩⟩
  · exact absurd rfl hne
  · simp [read_fill_decimal]
  · have hseveral : read (String.join ((u :: w :: users).map fun u => Document.fill u.decimal)) =
        .error .severalDocuments := by
      obtain ⟨lines, hlines⟩ := exists_fill_eq w.decimal
      have hprintable := printable_join_fill (w :: users)
      rw [List.map_cons, String.join_cons, hlines, String.append_assoc, String.toList_append,
        List.all_append, Bool.and_eq_true] at hprintable
      rw [List.map_cons, List.map_cons, String.join_cons, String.join_cons, hlines,
        String.append_assoc, ← String.append_assoc]
      exact read_appended (fun _ => isPathChar_of_mem_decimal) hprintable.2
    rw [hseveral]
    simp

/-- The same document twice, and a document with half a line behind it. -/
theorem appended_refused_twice :
    (∃ texts, [5, 5].mapM Document.render = .ok texts ∧
        read (String.join texts) = .error .severalDocuments) ∧
      ∃ text e, Document.render 5 = .ok text ∧ read (text ++ "---\n" ++ "json_rpc") = .error e := by
  obtain ⟨htext, hlist⟩ := appended_refused
  obtain ⟨texts, htexts, -, hseveral⟩ := hlist [5, 5] (by decide)
  exact ⟨⟨texts, htexts, hseveral (by decide)⟩, htext 5 "json_rpc"⟩

end Config

end UserConfigs
