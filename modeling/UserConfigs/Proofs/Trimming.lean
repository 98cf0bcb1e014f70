import UserConfigs.Proofs.Agreement

/-!
# What trimming leaves as it is

Trimming carries out the dashes of tags. It changes nothing but texts, so what does not depend on
texts is the same for the nodes before and after it (`map_parts_trim`, by induction on the nodes),
such as what a template asks for. Nodes without any dash are left as they are
(`trimAll_of_undashed`).
-/

set_option linter.unusedSectionVars false

namespace UserConfigs.Template

/-! ## Nodes but for their texts -/

section

variable {α : Type} {F : Node → α} (htrim : ∀ n : Node, F n.trim = F n)
  (htext : ∀ s s' : List Char, F (.text s) = F (.text s'))

include htrim htext

mutual

/-- What does not depend on texts is the same in all nodes inside a node. -/
theorem map_parts_trim : ∀ n : Node, n.trim.parts.map F = n.parts.map F
  | .block first name body last => by
    have h := htrim (.block first name body last)
    rw [Node.trim] at h ⊢
    rw [Node.parts, Node.parts, List.map_cons, List.map_cons, h, map_partsAll_trimAll]
  | .define first name arguments body last => by
    have h := htrim (.define first name arguments body last)
    rw [Node.trim] at h ⊢
    rw [Node.parts, Node.parts, List.map_cons, List.map_cons, h, map_partsAll_trimAll]
  | .filtered first f body last => by
    have h := htrim (.filtered first f body last)
    rw [Node.trim] at h ⊢
    rw [Node.parts, Node.parts, List.map_cons, List.map_cons, h, map_partsAll_trimAll]
  | .loop first key item container body none last => by
    have h := htrim (.loop first key item container body none last)
    rw [Node.trim] at h ⊢
    rw [Node.parts, Node.parts, List.map_cons, List.map_cons, h, map_partsAll_trimAll]
  | .loop first key item container body (some otherwise) last => by
    have h := htrim (.loop first key item container body (some otherwise) last)
    rw [Node.trim] at h ⊢
    rw [Node.parts, Node.parts, List.map_cons, List.map_cons, List.map_append, List.map_append, h,
      map_partsAll_trimAll]
  | .branch arms none last => by
    have h := htrim (.branch arms none last)
    rw [Node.trim] at h ⊢
    rw [Node.parts, Node.parts, List.map_cons, List.map_cons, h, map_partsArms_trimArms]
  | .branch arms (some (d, otherwise)) last => by
    have h := htrim (.branch arms (some (d, otherwise)) last)
    rw [Node.trim] at h ⊢
    rw [Node.parts, Node.parts, List.map_cons, List.map_cons, List.map_append, List.map_append, h,
      map_partsArms_trimArms, map_partsAll_trimAll]
  | .text s => by simp only [Node.trim]
  | .value d e => by simp only [Node.trim]
  | .comment d => by simp only [Node.trim]
  | .raw first s last => by
    have h := htrim (.raw first s last)
    simp only [Node.trim, Node.parts, List.map_cons, List.map_nil] at h ⊢
    rw [h]
  | .assign d global name e => by simp only [Node.trim]
  | .insert d names optional => by simp only [Node.trim]
  | .parent d => by simp only [Node.trim]
  | .load d template space => by simp only [Node.trim]
  | .stop d => by simp only [Node.trim]
  | .skip d => by simp only [Node.trim]

/-- What is not changed in any part by trimming is not changed in the whole. -/
theorem map_partsAll_trimAll (before after : Bool) : ∀ nodes : List Node,
    (partsAll (Node.trimAll before after nodes)).map F = (partsAll nodes).map F
  | [] => by rw [Node.trimAll]
  | n :: rest => by
    have hn := map_parts_trim n
    have hrest := fun before => map_partsAll_trimAll before after rest
    cases n with
    | text s =>
      simp only [Node.trimAll, partsAll, Node.parts, List.map_append, List.map_cons, List.map_nil,
        hrest]
      rw [htext _ s]
    | _ => simp only [Node.trimAll, partsAll, List.map_append, hn, hrest]

theorem map_partsArms_trimArms (otherwise : Option (Dashes × List Node)) (last : Dashes) :
    ∀ arms : List (Dashes × Expr × List Node),
      (partsArms (Node.trimArms otherwise last arms)).map F = (partsArms arms).map F
  | [] => by rw [Node.trimArms]
  | (d, e, body) :: arms => by
    rw [Node.trimArms, partsArms, partsArms, List.map_append, List.map_append,
      map_partsAll_trimAll, map_partsArms_trimArms]

end

/-- What all nodes have after trimming they had before. -/
theorem forall_mem_of_trimAll {x : α} {nodes : List Node}
    (h : ∀ n ∈ partsAll (Node.trimAll false false nodes), F n = x) :
    ∀ n ∈ partsAll nodes, F n = x := fun n hn => by
  have hmem : F n ∈ (partsAll nodes).map F := List.mem_map_of_mem hn
  rw [← map_partsAll_trimAll htrim htext false false nodes] at hmem
  obtain ⟨m, hm, heq⟩ := List.mem_map.mp hmem
  rw [← heq, h m hm]

end

/-- Arms keep their tags and conditions. -/
theorem map_trimArms {α : Type} (F : Dashes → Expr → α) (otherwise : Option (Dashes × List Node))
    (last : Dashes) : ∀ arms : List (Dashes × Expr × List Node),
      (Node.trimArms otherwise last arms).map (fun arm => F arm.1 arm.2.1) =
        arms.map fun arm => F arm.1 arm.2.1
  | [] => by rw [Node.trimArms]
  | (d, e, body) :: arms => by
    rw [Node.trimArms, List.map_cons, List.map_cons, map_trimArms F otherwise last arms]

/-- Trimming changes no path. -/
theorem Node.queries_trim (n : Node) : n.trim.queries = n.queries := by
  have harms : ∀ (otherwise : Option (Dashes × List Node)) (last : Dashes) arms,
      (trimArms otherwise last arms).flatMap (fun arm => arm.2.1.queries) =
        arms.flatMap fun arm => arm.2.1.queries := fun otherwise last arms => by
    rw [List.flatMap_def, List.flatMap_def, map_trimArms (fun _ e => e.queries)]
  cases n with
  | branch arms otherwise last =>
    cases otherwise with
    | none => simp only [trim, queries, harms]
    | some o => simp only [trim, queries, harms]
  | _ => simp only [trim, queries]

theorem Node.shares_trim (n : Node) : n.trim.shares = n.shares := by
  cases n with
  | branch arms otherwise last => cases otherwise <;> simp only [trim, shares]
  | _ => simp only [trim, shares]

/-- Trimming puts no tag into a template that needs other templates. -/
theorem unshared_of_trimAll {nodes : List Node} (h : Unshared (Node.trimAll false false nodes)) :
    Unshared nodes :=
  forall_mem_of_trimAll Node.shares_trim (fun _ _ => rfl) h

/-! ## Nodes without dashes -/

/-- The tag has a dash. -/
def Dashes.any (d : Dashes) : Bool := d.left || d.right

/-- One of the tags of the node itself has a dash. -/
def Node.dashed : Node → Bool
  | .text _ => false
  | .value d _ | .comment d | .assign d _ _ _ | .insert d _ _ | .parent d | .load d _ _ | .stop d
  | .skip d => d.any
  | .raw first _ last | .block first _ _ last | .define first _ _ _ last
  | .filtered first _ _ last | .loop first _ _ _ _ _ last => first.any || last.any
  | .branch arms otherwise last =>
    (arms.map fun arm => arm.1.any).any id || otherwise.any (·.1.any) || last.any

/-- The dashes stay where they are. -/
theorem Node.dashed_trim (n : Node) : n.trim.dashed = n.dashed := by
  cases n with
  | branch arms otherwise last =>
    cases otherwise with
    | none => simp only [trim, dashed, map_trimArms (fun d _ => d.any)]
    | some o => simp only [trim, dashed, map_trimArms (fun d _ => d.any), Option.any_some]
  | _ => simp only [trim, dashed]

theorem Node.dashLeft_of_undashed {n : Node} (h : n.dashed = false) : n.dashLeft = false := by
  cases n with
  | branch arms otherwise last =>
    cases arms with
    | nil => rfl
    | cons arm arms => simp_all [dashed, dashLeft, Dashes.any]
  | _ => simp_all [dashed, dashLeft, Dashes.any]

theorem Node.dashRight_of_undashed {n : Node} (h : n.dashed = false) : n.dashRight = false := by
  cases n <;> simp_all [dashed, dashRight, Dashes.any]

/-- Where there is no dash, no text is followed by one. -/
theorem dashAhead_of_undashed : ∀ {nodes : List Node},
    (∀ m ∈ partsAll nodes, m.dashed = false) → Node.dashAhead false nodes = false
  | [], _ => rfl
  | n :: _, h =>
    Node.dashLeft_of_undashed (h n (List.mem_append_left _ n.mem_parts))

mutual

/-- Without dashes nothing is trimmed. -/
theorem trim_of_undashed : ∀ {n : Node}, (∀ m ∈ n.parts, m.dashed = false) → n.trim = n
  | .block first name body last, h => by
    rw [Node.parts, List.forall_mem_cons] at h
    have hown := h.1
    simp only [Node.dashed, Dashes.any, Bool.or_eq_false_iff] at hown
    rw [Node.trim, hown.1.2, hown.2.1, trimAll_of_undashed h.2]
  | .define first name arguments body last, h => by
    rw [Node.parts, List.forall_mem_cons] at h
    have hown := h.1
    simp only [Node.dashed, Dashes.any, Bool.or_eq_false_iff] at hown
    rw [Node.trim, hown.1.2, hown.2.1, trimAll_of_undashed h.2]
  | .filtered first f body last, h => by
    rw [Node.parts, List.forall_mem_cons] at h
    have hown := h.1
    simp only [Node.dashed, Dashes.any, Bool.or_eq_false_iff] at hown
    rw [Node.trim, hown.1.2, hown.2.1, trimAll_of_undashed h.2]
  | .loop first key item container body none last, h => by
    rw [Node.parts, List.forall_mem_cons] at h
    have hown := h.1
    simp only [Node.dashed, Dashes.any, Bool.or_eq_false_iff] at hown
    rw [Node.trim, hown.1.2, hown.2.1, trimAll_of_undashed h.2]
  | .loop first key item container body (some otherwise) last, h => by
    rw [Node.parts, List.forall_mem_cons, List.forall_mem_append] at h
    have hown := h.1
    simp only [Node.dashed, Dashes.any, Bool.or_eq_false_iff] at hown
    rw [Node.trim, hown.1.2, hown.2.1, trimAll_of_undashed h.2.1]
  | .branch arms none last, h => by
    rw [Node.parts, List.forall_mem_cons] at h
    have hown := h.1
    simp only [Node.dashed, Bool.or_eq_false_iff, Option.any_none] at hown
    have hend : Node.armEnd none last [] = false := (Bool.or_eq_false_iff.mp hown.2).1
    rw [Node.trim, trimArms_of_undashed hend (by simpa using hown.1.1) h.2]
  | .branch arms (some (d, otherwise)) last, h => by
    rw [Node.parts, List.forall_mem_cons, List.forall_mem_append] at h
    have hown := h.1
    simp only [Node.dashed, Bool.or_eq_false_iff, Option.any_some] at hown
    obtain ⟨hleft, hright⟩ := Bool.or_eq_false_iff.mp hown.1.2
    have hend : Node.armEnd (some (d, otherwise)) last [] = false := hleft
    rw [Node.trim, trimArms_of_undashed hend (by simpa using hown.1.1) h.2.1, hright,
      (Bool.or_eq_false_iff.mp hown.2).1, trimAll_of_undashed h.2.2]
  | .raw first s last, h => by
    have hown := h (.raw first s last) (by simp [Node.parts])
    simp only [Node.dashed, Dashes.any, Bool.or_eq_false_iff] at hown
    simp only [Node.trim, hown.1.2, hown.2.1]
    rfl
  | .text s, _ => by simp only [Node.trim]
  | .value d e, _ => by simp only [Node.trim]
  | .comment d, _ => by simp only [Node.trim]
  | .assign d global name e, _ => by simp only [Node.trim]
  | .insert d names optional, _ => by simp only [Node.trim]
  | .parent d, _ => by simp only [Node.trim]
  | .load d template space, _ => by simp only [Node.trim]
  | .stop d, _ => by simp only [Node.trim]
  | .skip d, _ => by simp only [Node.trim]

/-- Without dashes nothing is trimmed. -/
theorem trimAll_of_undashed : ∀ {nodes : List Node},
    (∀ m ∈ partsAll nodes, m.dashed = false) → Node.trimAll false false nodes = nodes
  | [], _ => by rw [Node.trimAll]
  | n :: rest, h => by
    rw [partsAll, List.forall_mem_append] at h
    have hn := trim_of_undashed h.1
    have hrest := trimAll_of_undashed h.2
    have hright := Node.dashRight_of_undashed (h.1 n n.mem_parts)
    cases n with
    | text s => simp only [Node.trimAll, dashAhead_of_undashed h.2, hrest, Node.trimText]; rfl
    | _ => simp only [Node.trimAll, hn, hright, hrest]

theorem trimArms_of_undashed {otherwise : Option (Dashes × List Node)} {last : Dashes}
    (hend : Node.armEnd otherwise last [] = false) : ∀ {arms : List (Dashes × Expr × List Node)},
      (∀ arm ∈ arms, arm.1.any = false) → (∀ m ∈ partsArms arms, m.dashed = false) →
        Node.trimArms otherwise last arms = arms
  | [], _, _ => by rw [Node.trimArms]
  | (d, e, body) :: arms, harms, h => by
    rw [partsArms, List.forall_mem_append] at h
    rw [List.forall_mem_cons] at harms
    have hahead : Node.armEnd otherwise last arms = false := by
      cases arms with
      | nil => exact hend
      | cons arm arms => exact (Bool.or_eq_false_iff.mp (harms.2 arm List.mem_cons_self)).1
    rw [Node.trimArms, (Bool.or_eq_false_iff.mp harms.1).2, hahead, trimAll_of_undashed h.1,
      trimArms_of_undashed hend harms.2 h.2]

end

end UserConfigs.Template
