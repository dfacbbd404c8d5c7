/-
# Walking through the tree of a document

The walk keeps the nodes to be visited on a stack.  On a sound document it lists a node before its
children and these in order, which is the recursive preorder of the tree (`Sound.subtree_eq`):
children have larger identifiers than their parents, so that the recursion comes to an end, and no
node is met twice, so that there are enough steps for all of them.

A node is listed if and only if it lies below the node where the walk begins
(`Sound.mem_subtree_iff`), and it is listed once (`Sound.nodup_subtree`).
-/
import JavaUml.Proofs.Document.Changes
import Mathlib.Data.List.Perm.Subperm

namespace JavaUml.Document

variable {doc : Document}

/-- A node lies below another, or it is the other. -/
inductive Below (doc : Document) (top : NodeId) : NodeId → Prop
  | refl : Below doc top top
  | step {node : Node} {parent : NodeId} : node ∈ doc.nodes.toList →
      node.parent = some parent → Below doc top parent → Below doc top node.id

/-- A node and everything below it in some levels, each node before its children. -/
def branch (doc : Document) : ℕ → NodeId → List NodeId
  | 0, _ => []
  | levels + 1, id =>
    match doc.get? id with
    | some node => id :: node.children.flatMap (doc.branch levels)
    | none => []

/-- A node and everything below it, each node before its children. -/
def preorder (doc : Document) (id : NodeId) : List NodeId := doc.branch doc.size id

lemma branch_of_get?_eq_none {id : NodeId} (hg : doc.get? id = none) (levels : ℕ) :
    doc.branch levels id = [] := by
  cases levels with
  | zero => rfl
  | succ levels => simp [branch, hg]

namespace Sound

/-! ## Induction along the tree -/

/-- A property that every node has if the identifiers of its children have it holds of all
identifiers. -/
lemma induction_up (h : doc.Sound) {P : NodeId → Prop} (unknown : ∀ id, doc.get? id = none → P id)
    (known : ∀ node ∈ doc.nodes.toList, (∀ child ∈ node.children, P child) → P node.id) :
    ∀ id, P id := by
  intro id
  -- children have larger numbers, so that the distance from the end decreases
  induction hk : doc.next - id.value using Nat.strongRecOn generalizing id with
  | _ k ih =>
    cases hg : doc.get? id with
    | none => exact unknown id hg
    | some node =>
      obtain ⟨hn, rfl⟩ := h.get?_eq_some_iff.mp hg
      refine known node hn fun child hc => ?_
      obtain ⟨c, hcmem, hparent, rfl⟩ := (h.mem_children_iff hn).mp hc
      have hlt := (h.parent_lt hcmem hparent).2
      have hnext := (h.has_of_mem hcmem).2
      exact ih _ (by omega) c.id rfl

/-- A property that every node has if its children have it holds of all nodes. -/
lemma induction_children (h : doc.Sound) {P : Node → Prop}
    (step : ∀ node ∈ doc.nodes.toList, (∀ child ∈ doc.childrenOf node.id, P child) → P node) :
    ∀ node ∈ doc.nodes.toList, P node := by
  suffices ∀ id, ∀ node ∈ doc.nodes.toList, node.id = id → P node from
    fun node hn => this node.id node hn rfl
  refine h.induction_up (fun id hg node hn he => ?_) fun owner ho ih node hn he => ?_
  · rw [← he, h.get?_of_mem hn] at hg
    cases hg
  · obtain rfl := h.eq_of_id_eq hn ho he
    refine step node hn fun child hc => ?_
    obtain ⟨hcmem, hparent⟩ := h.mem_childrenOf_iff.mp hc
    exact ih child.id ((h.mem_children_iff hn).mpr ⟨child, hcmem, hparent, rfl⟩) child hcmem rfl

/-- A property of the root that goes over to children holds of all nodes. -/
lemma induction_down (h : doc.Sound) {P : NodeId → Prop} (root : P doc.root)
    (child : ∀ node ∈ doc.nodes.toList, ∀ parent, node.parent = some parent → P parent →
      P node.id) : ∀ node ∈ doc.nodes.toList, P node.id := by
  intro node hn
  -- parents have smaller numbers
  induction hk : node.id.value using Nat.strongRecOn generalizing node with
  | _ k ih =>
    rcases h.placed_of_mem hn with ⟨hroot, -⟩ | ⟨parent, slot, hparent, -, -, hlt⟩
    · rw [hroot]
      exact root
    · obtain ⟨owner, ho, rfl⟩ := h.exists_of_has (h.has_parent hn hparent)
      exact child node hn owner.id hparent (ih _ (by omega) owner ho rfl)

/-! ## Below -/

lemma below_le (h : doc.Sound) {top id : NodeId} (hb : doc.Below top id) :
    top.value ≤ id.value := by
  induction hb with
  | refl => exact Nat.le_refl _
  | step hn hp _ ih => exact Nat.le_trans ih (Nat.le_of_lt (h.parent_lt hn hp).2)

/-- If a node lies below another one and is not this one, then so does its parent. -/
lemma below_parent (h : doc.Sound) {top : NodeId} {node : Node} (hn : node ∈ doc.nodes.toList)
    (hb : doc.Below top node.id) (hne : node.id ≠ top) {parent : NodeId}
    (hp : node.parent = some parent) : doc.Below top parent := by
  generalize hid : node.id = id at hb
  cases hb with
  | refl => exact absurd hid hne
  | step hn' hp' hup =>
    obtain rfl := h.eq_of_id_eq hn hn' hid
    rw [hp] at hp'
    exact Option.some.inj hp' ▸ hup

lemma below_root (h : doc.Sound) {node : Node} (hn : node ∈ doc.nodes.toList) :
    doc.Below doc.root node.id :=
  h.induction_down (P := doc.Below doc.root) .refl (fun _ hn _ hp hb => .step hn hp hb) node hn

end Sound

lemma Below.trans {top mid id : NodeId} (h₁ : doc.Below top mid) (h₂ : doc.Below mid id) :
    doc.Below top id := by
  induction h₂ with
  | refl => exact h₁
  | step hn hp _ ih => exact .step hn hp ih

namespace Sound

/-- What lies above a node is a chain. -/
lemma below_linear (h : doc.Sound) {a b id : NodeId} (ha : doc.Below a id)
    (hb : doc.Below b id) : doc.Below a b ∨ doc.Below b a := by
  induction ha with
  | refl => exact .inr hb
  | @step node parent hn hp hap ih =>
    -- if the other one is not the node itself, it lies above the same parent
    generalize hid : node.id = id at hb
    cases hb with
    | refl => exact .inl (hid ▸ .step hn hp hap)
    | @step other parent' hn' hp' hbp =>
      obtain rfl := h.eq_of_id_eq hn hn' hid
      obtain rfl : parent = parent' := by simpa [hp] using hp'
      exact ih hbp

/-- Nothing lies below two children of a node. -/
lemma not_below_siblings (h : doc.Sound) {a b : Node} (ha : a ∈ doc.nodes.toList)
    (hb : b ∈ doc.nodes.toList) (hab : a.parent = b.parent) (hne : a.id ≠ b.id) :
    ¬doc.Below a.id b.id := by
  intro hbelow
  generalize hid : b.id = id at hbelow
  cases hbelow with
  | refl => exact hne hid.symm
  | @step node parent hn hp hup =>
    obtain rfl := h.eq_of_id_eq hb hn hid
    have h₁ := h.below_le hup
    have h₂ := (h.parent_lt ha (hab.trans hp)).2
    omega

/-! ## The preorder -/

/-- Once the levels reach to the end of the document, more of them change nothing. -/
lemma branch_eq_branch (h : doc.Sound) {k l : ℕ} {id : NodeId} (hk : doc.next ≤ id.value + k)
    (hl : doc.next ≤ id.value + l) : doc.branch k id = doc.branch l id := by
  induction k generalizing l id with
  | zero =>
    have hg : doc.get? id = none := h.get?_eq_none_iff.mpr fun hid => by
      have := hid.2
      omega
    rw [branch_of_get?_eq_none hg, branch_of_get?_eq_none hg]
  | succ k ih =>
    -- a child is nearer to the end, and needs one level less
    cases hg : doc.get? id with
    | none => rw [branch_of_get?_eq_none hg, branch_of_get?_eq_none hg]
    | some node =>
      obtain ⟨hn, rfl⟩ := h.get?_eq_some_iff.mp hg
      cases l with
      | zero =>
        have := (h.has_of_mem hn).2
        omega
      | succ l =>
        simp only [branch, hg]
        congr 1
        refine List.flatMap_congr fun child hc => ?_
        obtain ⟨c, hcmem, hparent, rfl⟩ := (h.mem_children_iff hn).mp hc
        have hlt := (h.parent_lt hcmem hparent).2
        exact ih (by omega) (by omega)

lemma preorder_of_get?_eq_none {id : NodeId} (hg : doc.get? id = none) : doc.preorder id = [] :=
  branch_of_get?_eq_none hg _

/-- A node comes before what is below its children. -/
lemma preorder_eq (h : doc.Sound) {node : Node} (hn : node ∈ doc.nodes.toList) :
    doc.preorder node.id = node.id :: node.children.flatMap doc.preorder := by
  obtain ⟨k, hk⟩ : ∃ k, doc.size = k + 1 := Nat.exists_eq_add_one.mpr doc.size_pos
  rw [preorder, hk]
  simp only [branch, h.get?_of_mem hn]
  congr 1
  refine List.flatMap_congr fun child hc => ?_
  obtain ⟨c, hcmem, hparent, rfl⟩ := (h.mem_children_iff hn).mp hc
  have h₁ := h.parent_lt hcmem hparent
  refine h.branch_eq_branch ?_ ?_ <;> simp only [next] <;> omega

lemma mem_preorder_of_parent (h : doc.Sound) {node : Node} (hn : node ∈ doc.nodes.toList)
    {parent : NodeId} (hp : node.parent = some parent) :
    ∀ top, parent ∈ doc.preorder top → node.id ∈ doc.preorder top := by
  refine h.induction_up (fun top hg hmem => ?_) fun owner ho ih hmem => ?_
  · simp [preorder_of_get?_eq_none hg] at hmem
  · rw [h.preorder_eq ho, List.mem_cons, List.mem_flatMap] at hmem ⊢
    rcases hmem with rfl | ⟨child, hc, hmem⟩
    · refine .inr ⟨node.id, (h.mem_children_iff ho).mpr ⟨node, hn, hp, rfl⟩, ?_⟩
      rw [h.preorder_eq hn]
      exact List.mem_cons_self
    · exact .inr ⟨child, hc, ih child hc hmem⟩

/-- The preorder lists the nodes below. -/
lemma mem_preorder_iff (h : doc.Sound) {top : Node} (ht : top ∈ doc.nodes.toList) {id : NodeId} :
    id ∈ doc.preorder top.id ↔ doc.Below top.id id := by
  constructor
  · suffices ∀ top, id ∈ doc.preorder top → doc.Below top id from this top.id
    refine h.induction_up (fun top hg hmem => ?_) fun owner ho ih hmem => ?_
    · simp [preorder_of_get?_eq_none hg] at hmem
    · rw [h.preorder_eq ho, List.mem_cons, List.mem_flatMap] at hmem
      rcases hmem with rfl | ⟨child, hc, hmem⟩
      · exact .refl
      · obtain ⟨c, hcmem, hparent, rfl⟩ := (h.mem_children_iff ho).mp hc
        exact .trans (.step hcmem hparent .refl) (ih c.id hc hmem)
  · intro hb
    induction hb with
    | refl =>
      rw [h.preorder_eq ht]
      exact List.mem_cons_self
    | step hn hp _ ih => exact h.mem_preorder_of_parent hn hp _ ih

/-- The preorder lists no node twice: the nodes below two children of a node are different. -/
lemma nodup_preorder (h : doc.Sound) : ∀ id, (doc.preorder id).Nodup := by
  refine h.induction_up (fun id hg => ?_) fun node hn ih => ?_
  · simp [preorder_of_get?_eq_none hg]
  · rw [h.preorder_eq hn, List.nodup_cons, List.nodup_flatMap]
    refine ⟨fun hmem => ?_, ih, ?_⟩
    -- the node itself is not below one of its children
    · obtain ⟨child, hc, hmem⟩ := List.mem_flatMap.mp hmem
      obtain ⟨c, hcmem, hparent, rfl⟩ := (h.mem_children_iff hn).mp hc
      have h₁ := h.below_le ((h.mem_preorder_iff hcmem).mp hmem)
      have h₂ := (h.parent_lt hcmem hparent).2
      omega
    -- what is below two of its children would make one of these lie below the other
    · refine (h.nodup_children hn).imp_of_mem fun {a b} ha hb hne => ?_
      obtain ⟨a, hamem, hpa, rfl⟩ := (h.mem_children_iff hn).mp ha
      obtain ⟨b, hbmem, hpb, rfl⟩ := (h.mem_children_iff hn).mp hb
      intro id hida hidb
      have hba := (h.mem_preorder_iff hamem).mp hida
      have hbb := (h.mem_preorder_iff hbmem).mp hidb
      rcases h.below_linear hba hbb with hab | hab
      · exact h.not_below_siblings hamem hbmem (hpa.trans hpb.symm) hne hab
      · exact h.not_below_siblings hbmem hamem (hpb.trans hpa.symm) hne.symm hab

lemma length_preorder_le (h : doc.Sound) {node : Node} (hn : node ∈ doc.nodes.toList) :
    (doc.preorder node.id).length ≤ doc.size := by
  have hsub : doc.preorder node.id ⊆ doc.nodes.toList.map Node.id := by
    intro id hid
    have hb := (h.mem_preorder_iff hn).mp hid
    cases hb with
    | refl => exact List.mem_map_of_mem hn
    | step hn' _ _ => exact List.mem_map_of_mem hn'
  simpa [size] using ((h.nodup_preorder node.id).subperm hsub).length_le

/-! ## The walk -/

/-- The walk lists the preorders of the nodes on the stack, as far as its steps reach. -/
lemma walk_eq (h : doc.Sound) (steps : ℕ) {stack : List NodeId}
    (hs : ∀ id ∈ stack, doc.Has id) :
    doc.walk steps stack = (stack.flatMap doc.preorder).take steps := by
  -- a step replaces the first preorder by its head and the preorders of the children
  induction steps generalizing stack with
  | zero => simp [walk]
  | succ steps ih =>
    cases stack with
    | nil => simp [walk]
    | cons id stack =>
      obtain ⟨node, hn, rfl⟩ := h.exists_of_has (hs id List.mem_cons_self)
      have hs' : ∀ id ∈ node.children ++ stack, doc.Has id := by
        intro id hid
        rcases List.mem_append.mp hid with hid | hid
        · obtain ⟨c, hcmem, -, rfl⟩ := (h.mem_children_iff hn).mp hid
          exact h.has_of_mem hcmem
        · exact hs id (List.mem_cons_of_mem _ hid)
      simp only [walk, h.get?_of_mem hn]
      rw [ih hs', List.flatMap_cons, h.preorder_eq hn, List.cons_append, List.take_succ_cons,
        List.flatMap_append]

/-- The walk from a node lists its preorder. -/
lemma subtree_eq (h : doc.Sound) (id : NodeId) : doc.subtree id = doc.preorder id := by
  cases hg : doc.get? id with
  | none =>
    obtain ⟨k, hk⟩ : ∃ k, doc.size = k + 1 := Nat.exists_eq_add_one.mpr doc.size_pos
    rw [preorder_of_get?_eq_none hg, subtree, hk]
    simp only [walk, hg]
    cases k <;> rfl
  | some node =>
    obtain ⟨hn, rfl⟩ := h.get?_eq_some_iff.mp hg
    rw [subtree, h.walk_eq _ (by simpa using h.has_of_mem hn), List.flatMap_singleton,
      List.take_of_length_le (h.length_preorder_le hn)]

/-- If the nodes with some property correspond to nodes of another document, of which the children
correspond and have the property as well, then so does all that is below them. -/
lemma subtree_eq_map (h : doc.Sound) {doc' : Document} (h' : doc'.Sound) {f : NodeId → NodeId}
    {P : NodeId → Prop}
    (step : ∀ node ∈ doc.nodes.toList, P node.id → ∃ node' ∈ doc'.nodes.toList,
      node'.id = f node.id ∧ node'.children = node.children.map f ∧
        ∀ child ∈ node.children, P child) :
    ∀ top, doc.Has top → P top →
      doc'.subtree (f top) = (doc.subtree top).map f ∧ ∀ id ∈ doc.subtree top, P id := by
  refine h.induction_up (fun top hg htop => ?_) fun node hn ih hnode hP => ?_
  · exact absurd htop (h.get?_eq_none_iff.mp hg)
  · obtain ⟨node', hn', hid, hchildren, hbelow⟩ := step node hn hP
    have hhas : ∀ child ∈ node.children, doc.Has child := by
      intro child hc
      obtain ⟨c, hcmem, -, rfl⟩ := (h.mem_children_iff hn).mp hc
      exact h.has_of_mem hcmem
    have hchild := fun child hc => ih child hc (hhas child hc) (hbelow child hc)
    simp only [subtree_eq h, subtree_eq h'] at hchild ⊢
    rw [← hid, h'.preorder_eq hn', h.preorder_eq hn, hid, hchildren, List.map_cons,
      List.map_flatMap, List.flatMap_map]
    refine ⟨congrArg _ (List.flatMap_congr fun child hc => (hchild child hc).1), fun id hmem => ?_⟩
    rcases List.mem_cons.mp hmem with rfl | hmem
    · exact hP
    · obtain ⟨child, hc, hmem⟩ := List.mem_flatMap.mp hmem
      exact (hchild child hc).2 id hmem

lemma mem_subtree_iff (h : doc.Sound) {top : Node} (ht : top ∈ doc.nodes.toList) {id : NodeId} :
    id ∈ doc.subtree top.id ↔ doc.Below top.id id := by
  rw [h.subtree_eq, h.mem_preorder_iff ht]

lemma nodup_subtree (h : doc.Sound) (id : NodeId) : (doc.subtree id).Nodup := by
  rw [h.subtree_eq]
  exact h.nodup_preorder id

/-- The walk from the root lists every node once. -/
lemma subtree_root_perm (h : doc.Sound) :
    (doc.subtree doc.root).Perm (doc.nodes.toList.map Node.id) := by
  refine (List.perm_ext_iff_of_nodup (h.nodup_subtree _) h.nodup_map_id).mpr fun id => ?_
  obtain ⟨root, hr, hroot⟩ := h.exists_of_has doc.has_root
  rw [← hroot, h.mem_subtree_iff hr, List.mem_map, hroot]
  constructor
  · intro hb
    cases hb with
    | refl => exact ⟨root, hr, hroot⟩
    | step hn _ _ => exact ⟨_, hn, rfl⟩
  · rintro ⟨node, hn, rfl⟩
    exact h.below_root hn

end Sound

/-! ## Parts that hang together -/

/-- The nodes of a list hang together below a node: each of them has this node as its parent, or
another one of the list. -/
def Hangs (top : NodeId) (nodes : List Node) : Prop :=
  ∀ node ∈ nodes, ∃ parent, node.parent = some parent ∧
    (parent = top ∨ ∃ other ∈ nodes, other.id = parent)

namespace Hangs

variable {top : NodeId} {nodes more : List Node}

lemma nil (top : NodeId) : Hangs top [] := fun _ hn => absurd hn List.not_mem_nil

lemma append (h : Hangs top nodes) (h' : Hangs top more) : Hangs top (nodes ++ more) := by
  intro node hn
  rcases List.mem_append.mp hn with hn | hn
  · obtain ⟨parent, hp, hup⟩ := h node hn
    exact ⟨parent, hp, hup.imp_right fun ⟨other, ho, he⟩ => ⟨other, List.mem_append_left _ ho, he⟩⟩
  · obtain ⟨parent, hp, hup⟩ := h' node hn
    exact ⟨parent, hp, hup.imp_right fun ⟨other, ho, he⟩ => ⟨other, List.mem_append_right _ ho, he⟩⟩

/-- Nodes that hang below a first node hang below its parent, together with this node. -/
lemma cons {node : Node} (hp : node.parent = some top) (h : Hangs node.id nodes) :
    Hangs top (node :: nodes) := by
  intro below hb
  rcases List.mem_cons.mp hb with rfl | hb
  · exact ⟨top, hp, .inl rfl⟩
  · obtain ⟨parent, hparent, rfl | ⟨other, ho, he⟩⟩ := h below hb
    · exact ⟨node.id, hparent, .inr ⟨node, List.mem_cons_self, rfl⟩⟩
    · exact ⟨parent, hparent, .inr ⟨other, List.mem_cons_of_mem _ ho, he⟩⟩

lemma map {f : Node → Node} (hid : ∀ node : Node, (f node).id = node.id)
    (hparent : ∀ node : Node, (f node).parent = node.parent) (h : Hangs top nodes) :
    Hangs top (nodes.map f) := by
  intro image hi
  obtain ⟨node, hn, rfl⟩ := List.mem_map.mp hi
  obtain ⟨parent, hp, hup⟩ := h node hn
  refine ⟨parent, (hparent node).trans hp, hup.imp_right ?_⟩
  rintro ⟨other, ho, rfl⟩
  exact ⟨f other, List.mem_map_of_mem ho, hid other⟩

end Hangs

/-- The walk from a node lists what hangs below it. -/
lemma Sound.mem_subtree_of_hangs (h : doc.Sound) {top : Node} (ht : top ∈ doc.nodes.toList)
    {nodes : List Node} (hsub : nodes ⊆ doc.outline) (hh : Hangs top.id nodes) {node : Node}
    (hn : node ∈ nodes) : node.id ∈ doc.subtree top.id := by
  rw [h.mem_subtree_iff ht]
  -- from a node to its parent, which has a smaller number, up to the top
  induction hk : node.id.value using Nat.strongRecOn generalizing node with
  | _ k ih =>
    obtain ⟨parent, hp, hup⟩ := hh node hn
    obtain ⟨kept, hkept, rfl⟩ := List.mem_map.mp (hsub hn)
    refine (show doc.Below top.id kept.id from .step hkept hp ?_)
    rcases hup with rfl | ⟨other, ho, rfl⟩
    · exact .refl
    · exact ih _ (hk ▸ (h.parent_lt hkept hp).2) ho rfl

end JavaUml.Document
