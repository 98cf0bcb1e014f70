import UserConfigs.Template

/-!
# The nodes of a template

The nodes of a template are those of its row and those in their bodies (`partsAll`). A template is
read from its text, and its nodes are accepted (`parse_eq_ok_iff_read`). Nodes without blocks,
macros and imports are, for none of their tags can be out of its place, and they need no other
template (`accepted_of_unshared`).
-/

namespace UserConfigs.Template

/-! ## Parts -/

mutual

/-- A node and the nodes inside it. -/
def Node.parts : Node → List Node
  | .block first name body last => .block first name body last :: partsAll body
  | .define first name arguments body last =>
    .define first name arguments body last :: partsAll body
  | .filtered first f body last => .filtered first f body last :: partsAll body
  | .loop first key item container body none last =>
    .loop first key item container body none last :: partsAll body
  | .loop first key item container body (some otherwise) last =>
    .loop first key item container body (some otherwise) last ::
      (partsAll body ++ partsAll otherwise)
  | .branch arms none last => .branch arms none last :: partsArms arms
  | .branch arms (some (d, otherwise)) last =>
    .branch arms (some (d, otherwise)) last :: (partsArms arms ++ partsAll otherwise)
  | n => [n]

/-- Nodes in a row and the nodes inside them. -/
def partsAll : List Node → List Node
  | [] => []
  | n :: rest => n.parts ++ partsAll rest

/-- The nodes inside the arms of a branch. -/
def partsArms : List (Dashes × Expr × List Node) → List Node
  | [] => []
  | (_, _, body) :: arms => partsAll body ++ partsArms arms

end

/-- A node is one of its own parts. -/
theorem Node.mem_parts (n : Node) : n ∈ n.parts := by
  cases n with
  | branch arms otherwise last => rcases otherwise with _ | ⟨d, body⟩ <;> simp [parts]
  | loop first key item container body otherwise last => cases otherwise <;> simp [parts]
  | _ => simp [parts]

theorem mem_partsAll {n : Node} {nodes : List Node} (h : n ∈ nodes) : n ∈ partsAll nodes := by
  induction nodes with
  | nil => simp at h
  | cons m rest ih =>
    rw [partsAll, List.mem_append]
    rcases List.mem_cons.mp h with rfl | h
    · exact .inl n.mem_parts
    · exact .inr (ih h)

/-- What holds of all nodes of a row holds of the parts of each. -/
theorem forall_mem_partsAll {Q : Node → Prop} : ∀ {nodes : List Node},
    (∀ m ∈ partsAll nodes, Q m) ↔ ∀ n ∈ nodes, ∀ m ∈ n.parts, Q m
  | [] => by simp [partsAll]
  | n :: nodes => by
    rw [partsAll, List.forall_mem_append, List.forall_mem_cons, forall_mem_partsAll]

theorem forall_mem_partsArms {Q : Node → Prop} :
    ∀ {arms : List (Dashes × Expr × List Node)},
      (∀ m ∈ partsArms arms, Q m) ↔ ∀ arm ∈ arms, ∀ n ∈ arm.2.2, ∀ m ∈ n.parts, Q m
  | [] => by simp [partsArms]
  | (_, _, body) :: arms => by
    rw [partsArms, List.forall_mem_append, List.forall_mem_cons, forall_mem_partsAll,
      forall_mem_partsArms]

/-! ## Nodes in their places -/

/-- The node is there for templates that share their parts. -/
def Node.shares : Node → Bool
  | .block _ _ _ _ | .define _ _ _ _ _ | .load _ _ _ => true
  | _ => false

/-- No node is there for templates that share their parts. -/
def Unshared (nodes : List Node) : Prop := ∀ n ∈ partsAll nodes, n.shares = false

instance (nodes : List Node) : Decidable (Unshared nodes) :=
  inferInstanceAs (Decidable (∀ n ∈ partsAll nodes, n.shares = false))

mutual

/-- Other nodes may stand everywhere. -/
theorem Node.fits_of_unshared (place : Node.Place) : ∀ {n : Node},
    (∀ m ∈ n.parts, m.shares = false) → n.fits place = true
  | .block first name body last, h => absurd (h _ (Node.mem_parts _)) (by simp [Node.shares])
  | .define first name arguments body last, h =>
    absurd (h _ (Node.mem_parts _)) (by simp [Node.shares])
  | .load d template space, h => absurd (h _ (Node.mem_parts _)) (by simp [Node.shares])
  | .filtered first f body last, h => by
    rw [Node.parts, List.forall_mem_cons] at h
    rw [Node.fits, fitAll_of_unshared .inner h.2]
  | .loop first key item container body none last, h => by
    rw [Node.parts, List.forall_mem_cons] at h
    rw [Node.fits, fitAll_of_unshared .inner h.2]
  | .loop first key item container body (some otherwise) last, h => by
    rw [Node.parts, List.forall_mem_cons, List.forall_mem_append] at h
    rw [Node.fits, fitAll_of_unshared .inner h.2.1, fitAll_of_unshared .inner h.2.2]
    rfl
  | .branch arms none last, h => by
    rw [Node.parts, List.forall_mem_cons] at h
    rw [Node.fits, fitArms_of_unshared place h.2]
  | .branch arms (some (d, otherwise)) last, h => by
    rw [Node.parts, List.forall_mem_cons, List.forall_mem_append] at h
    rw [Node.fits, fitArms_of_unshared place h.2.1, fitAll_of_unshared place h.2.2]
    rfl
  | .text _, _ | .value _ _, _ | .comment _, _ | .raw _ _ _, _ | .assign _ _ _ _, _
  | .insert _ _ _, _ | .parent _, _ | .stop _, _ | .skip _, _ => by simp only [Node.fits]

/-- A row of such nodes may stand everywhere. -/
theorem fitAll_of_unshared (place : Node.Place) : ∀ {nodes : List Node}, Unshared nodes →
    Node.fitAll place nodes = true
  | [], _ => by rw [Node.fitAll]
  | n :: rest, h => by
    rw [Unshared, partsAll, List.forall_mem_append] at h
    rw [Node.fitAll, Node.fits_of_unshared place h.1, fitAll_of_unshared place h.2]
    rfl

theorem fitArms_of_unshared (place : Node.Place) : ∀ {arms : List (Dashes × Expr × List Node)},
    (∀ m ∈ partsArms arms, m.shares = false) → Node.fitArms place arms = true
  | [], _ => by rw [Node.fitArms]
  | (d, e, body) :: arms, h => by
    rw [partsArms, List.forall_mem_append] at h
    rw [Node.fitArms, fitAll_of_unshared place h.1, fitArms_of_unshared place h.2]
    rfl

end

/-- Other nodes give no name to a part that could be replaced. -/
theorem blocksAll_of_unshared : ∀ {nodes : List Node}, (∀ n ∈ nodes, n.shares = false) →
    Node.blocksAll nodes = []
  | [], _ => by rw [Node.blocksAll]
  | n :: rest, h => by
    rw [List.forall_mem_cons] at h
    have hn : n.blocks = [] := by
      cases n with
      | block => exact absurd h.1 (by simp [Node.shares])
      | _ => simp only [Node.blocks]
    rw [Node.blocksAll, hn, blocksAll_of_unshared h.2, List.nil_append]

theorem defines_of_unshared {n : Node} (h : n.shares = false) : n.defines = none := by
  cases n <;> first | rfl | simp [Node.shares] at h

/-- Other nodes need no other template. -/
theorem loads_of_unshared {n : Node} (h : n.shares = false) : n.loads = none := by
  cases n <;> first | rfl | simp [Node.shares] at h

/-- The nodes can be those of a template that extends no other. -/
structure Accepted (nodes : List Node) : Prop where
  wellFormed : Node.wellFormed nodes = true
  others : checkOthers none nodes = .ok ()

/-- What can be read is a template, if its nodes are accepted. -/
theorem parse_eq_ok_iff_read {text : String} {t : Template} : parse text = .ok t ↔
    ∃ nodes, Source.read? text.toList = some ⟨none, nodes⟩ ∧ Accepted nodes ∧
      t = ⟨Node.trimAll false false nodes⟩ := by
  unfold parse
  constructor
  · intro h
    split at h
    · exact nomatch h
    · next parent nodes hread =>
      split at h
      · next hformed =>
        cases parent with
        | some name => exact nomatch h
        | none =>
          cases hothers : checkOthers none nodes with
          | error e => rw [hothers] at h; exact nomatch h
          | ok =>
            rw [hothers] at h
            exact ⟨nodes, hread, ⟨hformed, hothers⟩, (Except.ok.inj h).symm⟩
      · exact nomatch h
  · rintro ⟨nodes, hread, haccepted, rfl⟩
    simp only [hread, haccepted.wellFormed, haccepted.others, if_true]
    rfl

section

variable {nodes : List Node} (h : Unshared nodes)
include h

theorem wellFormed_of_unshared : Node.wellFormed nodes = true := by
  have hnodes : ∀ n ∈ nodes, n.shares = false := fun n hn => h n (mem_partsAll hn)
  have hdefines : nodes.filterMap Node.defines = [] :=
    List.filterMap_eq_nil_iff.mpr fun n hn => defines_of_unshared (hnodes n hn)
  simp [Node.wellFormed, fitAll_of_unshared .top h, blocksAll_of_unshared hnodes, hdefines]

theorem checkOthers_of_unshared : checkOthers none nodes = .ok () := by
  have hloads : nodes.filterMap Node.loads = [] :=
    List.filterMap_eq_nil_iff.mpr fun n hn => loads_of_unshared (h n (mem_partsAll hn))
  unfold checkOthers
  rw [hloads]
  rfl

/-- Templates without blocks, macros and imports are accepted. -/
theorem accepted_of_unshared : Accepted nodes :=
  ⟨wellFormed_of_unshared h, checkOthers_of_unshared h⟩

end

end UserConfigs.Template
