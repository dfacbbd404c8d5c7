/-
# The members of classes in a list of nodes

Among the nodes of declarations a class stands together with its members, and an operation with its
parameters.  What stands elsewhere hangs below other nodes, so that the members of a class are found
in its own part of the list (`filter_isIn_chain`): they are in order those of the declaration
(`Declaration.forall₂_chain`).
-/
import JavaUml.Proofs.Assembly.Relationships

namespace JavaUml

open Document (Hangs)

/-! ## Parts of a chain -/

/-- What hangs together below a node is not below a node elsewhere. -/
lemma parent_ne_of_hangs {top id : NodeId} {nodes : List Node} (h : Hangs top nodes)
    (htop : id ≠ top) (hid : ∀ node ∈ nodes, node.id ≠ id) {node : Node} (hn : node ∈ nodes) :
    node.parent ≠ some id := by
  intro hparent
  obtain ⟨parent, hp, hup⟩ := h node hn
  obtain rfl : parent = id := by simpa [hp] using hparent
  rcases hup with rfl | ⟨other, ho, he⟩
  · exact htop rfl
  · exact hid other ho he

lemma filter_isIn_of_hangs {top id : NodeId} {nodes : List Node} (h : Hangs top nodes)
    (htop : id ≠ top) (hid : ∀ node ∈ nodes, node.id ≠ id) (slot : Slot) :
    nodes.filter (Node.isIn id slot) = [] := by
  rw [List.filter_eq_nil_iff]
  intro node hn
  simp [Node.isIn, parent_ne_of_hangs h htop hid hn]

section Chain

variable {ι κ : Type} {g : ℕ → ι → List Node} {n : ℕ} {xs before after : List ι} {x : ι}

/-- What is below a node of an item stands among the nodes of this item. -/
lemma filter_isIn_chain {top : NodeId} (hg : ∀ x ∈ xs, ∀ k, Hangs top (g k x))
    (hnd : ((chain g n xs).map Node.id).Nodup) (hxs : xs = before ++ x :: after) (node : Node)
    (hn : node ∈ g (n + (chain g n before).length) x) (htop : node.id ≠ top) (slot : Slot) :
    (chain g n xs).filter (Node.isIn node.id slot) =
      (g (n + (chain g n before).length) x).filter (Node.isIn node.id slot) := by
  subst hxs
  have hbefore : Hangs top (chain g n before) :=
    hangs_chain (fun y hy => hg y (List.mem_append_left _ hy)) n
  have hafter : ∀ m, Hangs top (chain g m after) :=
    hangs_chain fun y hy => hg y (List.mem_append_right _ (List.mem_cons_of_mem _ hy))
  rw [chain_append, chain, List.map_append, List.map_append, List.nodup_append'] at hnd
  obtain ⟨-, hrest, hdisjoint⟩ := hnd
  rw [List.nodup_append'] at hrest
  rw [chain_append, chain, List.filter_append, List.filter_append,
    filter_isIn_of_hangs hbefore htop, filter_isIn_of_hangs (hafter _) htop, List.nil_append,
    List.append_nil]
  · intro other ho he
    exact hrest.2.2 (List.mem_map_of_mem hn) (he ▸ List.mem_map_of_mem ho)
  · intro other ho he
    exact hdisjoint (List.mem_map_of_mem ho)
      (List.mem_append_left _ (he ▸ List.mem_map_of_mem hn))

/-- If the nodes of each item that is selected hold one node of some sort, then these nodes are in
order those of the items. -/
lemma forall₂_filterMap_chain {sel : ι → Option κ} {R : κ → Node → Prop} {p : Node → Bool}
    (hnone : ∀ x k, sel x = none → (g k x).filter p = [])
    (hsome : ∀ before x after y, xs = before ++ x :: after → sel x = some y →
      ∃ node, (g (n + (chain g n before).length) x).filter p = [node] ∧ R y node) :
    List.Forall₂ R (xs.filterMap sel) ((chain g n xs).filter p) := by
  induction xs generalizing n with
  | nil => exact .nil
  | cons x xs ih =>
    have hrest : List.Forall₂ R (xs.filterMap sel)
        ((chain g (n + (g n x).length) xs).filter p) := by
      refine ih fun before y after z hxs hy => ?_
      have hy' := hsome (x :: before) y after z (by rw [hxs]; rfl) hy
      rwa [chain, List.length_append, ← Nat.add_assoc] at hy'
    rw [chain, List.filter_append]
    cases hx : sel x with
    | none =>
      rw [List.filterMap_cons_none hx, hnone x n hx]
      exact hrest
    | some y =>
      obtain ⟨node, hnode, hR⟩ := hsome [] x xs y rfl hx
      rw [List.filterMap_cons_some hx, show (g n x).filter p = [node] from hnode]
      exact .cons hR hrest

end Chain

/-! ## The members of a class in a list of nodes -/

/-- A node is drawn for a field of a class. -/
def Field.Drawn (classNode : NodeId) (f : Field) (node : Node) : Prop :=
  ∃ n, node = f.draft.node ⟨n⟩ classNode .attributes

/-- A node is drawn for a parameter of an operation. -/
def Parameter.Drawn (operation : NodeId) (p : Parameter) (node : Node) : Prop :=
  ∃ n, node = p.draft.node ⟨n⟩ operation .parameters

/-- In a list of nodes, a node is drawn for a method of a class, together with a parameter for the
result and the parameters of the method. -/
def Method.Drawn (nodes : List Node) (classNode : NodeId) (m : Method) (node : Node) : Prop :=
  ∃ n, node = m.draft.node ⟨n⟩ classNode .operations ∧
    ∃ rest, nodes.filter (Node.isIn ⟨n⟩ .parameters) =
        (returnDraft m.returnType).node ⟨n + 1⟩ ⟨n⟩ .parameters :: rest ∧
      List.Forall₂ (Parameter.Drawn ⟨n⟩) m.parameters rest

/-- In a list of nodes, a node is drawn for a declaration, together with its members. -/
def Declaration.Drawn (nodes : List Node) (owner : NodeId) (d : Declaration) (node : Node) : Prop :=
  ∃ n, node = d.draft.node ⟨n⟩ owner .ownedElements ∧
    List.Forall₂ (Field.Drawn ⟨n⟩) d.fields (nodes.filter (Node.isIn ⟨n⟩ .attributes)) ∧
    List.Forall₂ (Method.Drawn nodes ⟨n⟩) d.methods (nodes.filter (Node.isIn ⟨n⟩ .operations))

/-- The nodes of a method are its operation and the parameters of this. -/
lemma Method.cases_of_mem_nodes {classNode : NodeId} {n : ℕ} {m : Method} {node : Node}
    (h : node ∈ m.nodes classNode n) :
    node = m.draft.node ⟨n⟩ classNode .operations ∨ node.slot = some .parameters := by
  rcases List.mem_cons.mp h with rfl | h
  · exact .inl rfl
  rcases List.mem_cons.mp h with rfl | h
  · exact .inr rfl
  · obtain ⟨p, -, k, -, hp, -⟩ := exists_of_mem_chain h
    obtain rfl := List.mem_singleton.mp hp
    exact .inr rfl

lemma Method.filter_parameters_nodes (classNode : NodeId) (n : ℕ) (m : Method) :
    (m.nodes classNode n).filter (Node.isIn ⟨n⟩ .parameters) =
      (returnDraft m.returnType).node ⟨n + 1⟩ ⟨n⟩ .parameters ::
        (chain (Parameter.nodes ⟨n⟩) (n + 2) m.parameters).filter (Node.isIn ⟨n⟩ .parameters) := by
  simp [Method.nodes, Node.isIn, NodeDraft.node]

lemma Method.filter_operations_nodes (classNode : NodeId) (n : ℕ) (m : Method) :
    (m.nodes classNode n).filter (Node.isIn classNode .operations) =
      [m.draft.node ⟨n⟩ classNode .operations] := by
  have hrest : (chain (Parameter.nodes ⟨n⟩) (n + 2) m.parameters).filter
      (Node.isIn classNode .operations) = [] := by
    rw [List.filter_eq_nil_iff]
    intro node hn
    obtain ⟨p, -, k, -, hp, -⟩ := exists_of_mem_chain hn
    obtain rfl := List.mem_singleton.mp hp
    simp [Node.isIn, NodeDraft.node]
  rw [Method.nodes, List.filter_cons_of_pos (by simp [Node.isIn, NodeDraft.node]),
    List.filter_cons_of_neg (by simp [Node.isIn, NodeDraft.node]), hrest]

/-- The parameters of an operation are in order those of the method, behind the one for the
result. -/
lemma Method.drawn_of_filter_eq {nodes : List Node} {classNode : NodeId} {n : ℕ} {m : Method}
    (h : nodes.filter (Node.isIn ⟨n⟩ .parameters) =
      (m.nodes classNode n).filter (Node.isIn ⟨n⟩ .parameters)) :
    m.Drawn nodes classNode (m.draft.node ⟨n⟩ classNode .operations) := by
  have hparameters : List.Forall₂ (Parameter.Drawn ⟨n⟩) (m.parameters.filterMap some)
      ((chain (Parameter.nodes ⟨n⟩) (n + 2) m.parameters).filter (Node.isIn ⟨n⟩ .parameters)) := by
    refine forall₂_filterMap_chain (fun _ _ h => absurd h (Option.some_ne_none _)) ?_
    rintro before p after q - hq
    obtain rfl := Option.some.inj hq
    generalize n + 2 + (chain (Parameter.nodes ⟨n⟩) (n + 2) before).length = k
    refine ⟨p.draft.node ⟨k⟩ ⟨n⟩ .parameters, ?_, k, rfl⟩
    simp [Parameter.nodes, Node.isIn, NodeDraft.node]
  rw [List.filterMap_some] at hparameters
  exact ⟨n, rfl, _, h.trans (m.filter_parameters_nodes classNode n), hparameters⟩

section Members

variable {classNode : NodeId} {n : ℕ} {members : List Member}

/-- The attributes of a class are in order those of the fields. -/
lemma Member.forall₂_attributes : List.Forall₂ (Field.Drawn classNode) (members.filterMap field?)
    ((chain (nodes classNode) n members).filter (Node.isIn classNode .attributes)) := by
  refine forall₂_filterMap_chain ?_ ?_
  · intro member k hnone
    rw [List.filter_eq_nil_iff]
    intro node hn
    cases member with
    | field f => cases hnone
    | method m =>
      rcases Method.cases_of_mem_nodes hn with rfl | hslot
      · simp [Node.isIn, NodeDraft.node]
      · simp [Node.isIn, hslot]
    | other => cases hn
  · rintro before member after f - hf
    generalize n + (chain (nodes classNode) n before).length = k
    cases member with
    | field f' =>
      obtain rfl := Option.some.inj hf
      refine ⟨f'.draft.node ⟨k⟩ classNode .attributes, ?_, k, rfl⟩
      simp [nodes, Node.isIn, NodeDraft.node]
    | method m => cases hf
    | other => cases hf

/-- The operations of a class are in order those of the methods.  The list of nodes may be a longer
one, if it has the same parameters below the operations. -/
lemma Member.forall₂_operations {nodes : List Node}
    (hnd : ((chain (Member.nodes classNode) n members).map Node.id).Nodup)
    (hne : ∀ node ∈ chain (Member.nodes classNode) n members, node.id ≠ classNode)
    (hnodes : ∀ node ∈ chain (Member.nodes classNode) n members,
      nodes.filter (Node.isIn node.id .parameters) =
        (chain (Member.nodes classNode) n members).filter (Node.isIn node.id .parameters)) :
    List.Forall₂ (Method.Drawn nodes classNode) (members.filterMap method?)
      ((chain (Member.nodes classNode) n members).filter (Node.isIn classNode .operations)) := by
  refine forall₂_filterMap_chain ?_ ?_
  · intro member k hnone
    cases member with
    | field f => simp [Member.nodes, Node.isIn, NodeDraft.node]
    | method m => cases hnone
    | other => rfl
  · rintro before member after m hmembers hm
    cases member with
    | field f => cases hm
    | method m' =>
      obtain rfl := Option.some.inj hm
      have hchain := filter_isIn_chain (fun x _ k => x.hangs_nodes classNode k) hnd hmembers
      have hsub : Member.nodes classNode (n + (chain (Member.nodes classNode) n before).length)
          (.method m') ⊆ chain (Member.nodes classNode) n members := by
        rw [hmembers, chain_append, chain]
        intro node hn
        simp [hn]
      generalize n + (chain (Member.nodes classNode) n before).length = k at hsub hchain
      have hoperation : m'.draft.node ⟨k⟩ classNode .operations ∈
          Member.nodes classNode k (.method m') := List.mem_cons_self
      refine ⟨_, m'.filter_operations_nodes classNode k, Method.drawn_of_filter_eq ?_⟩
      exact (hnodes _ (hsub hoperation)).trans
        (hchain _ hoperation (hne _ (hsub hoperation)) .parameters)
    | other => cases hm

end Members

/-- The members of a declaration stand behind its node, wherever these nodes are in a list that has
the same members below them. -/
lemma Declaration.drawn_of_filter_eq {nodes : List Node} {owner : NodeId} {n : ℕ} {d : Declaration}
    (hd : d.fault? = none) (hnd : ((d.nodes owner n).map Node.id).Nodup)
    (h : ∀ node ∈ d.nodes owner n, ∀ slot, nodes.filter (Node.isIn node.id slot) =
      (d.nodes owner n).filter (Node.isIn node.id slot)) :
    d.Drawn nodes owner (d.draft.node ⟨n⟩ owner .ownedElements) := by
  have hnodes : d.nodes owner n = d.draft.node ⟨n⟩ owner .ownedElements ::
      chain (Member.nodes ⟨n⟩) (n + 1) d.members := by
    rw [Declaration.nodes, upTo_of_findSome?_eq_none hd]
  rw [hnodes] at h hnd
  rw [List.map_cons, List.nodup_cons] at hnd
  -- the node of the declaration itself is in none of the collections of members
  have hmembers : ∀ (id : NodeId) (slot : Slot), slot ≠ .ownedElements →
      (d.draft.node ⟨n⟩ owner .ownedElements :: chain (Member.nodes ⟨n⟩) (n + 1) d.members).filter
        (Node.isIn id slot) =
      (chain (Member.nodes ⟨n⟩) (n + 1) d.members).filter (Node.isIn id slot) := by
    intro id slot hslot
    rw [List.filter_cons_of_neg]
    simp [Node.isIn, NodeDraft.node, Ne.symm hslot]
  have hhead : ∀ slot : Slot, slot ≠ .ownedElements → nodes.filter (Node.isIn ⟨n⟩ slot) =
      (chain (Member.nodes ⟨n⟩) (n + 1) d.members).filter (Node.isIn ⟨n⟩ slot) :=
    fun slot hslot => (h _ List.mem_cons_self slot).trans (hmembers _ slot hslot)
  refine ⟨n, rfl, ?_, ?_⟩
  · rw [hhead .attributes (by decide)]
    exact Member.forall₂_attributes
  · rw [hhead .operations (by decide)]
    refine Member.forall₂_operations hnd.2 ?_ ?_
    · intro node hn he
      exact hnd.1 (List.mem_map.mpr ⟨node, hn, he⟩)
    · intro node hn
      rw [h node (List.mem_cons_of_mem _ hn), hmembers _ .parameters (by decide)]

/-- The children of a model are in order those of the declarations, each with its members. -/
lemma Declaration.forall₂_chain {ds : List Declaration}
    (hds : ds.findSome? Declaration.fault? = none) {model : NodeId} {n : ℕ}
    (hnd : ((chain (Declaration.nodes model) n ds).map Node.id).Nodup)
    (hne : ∀ node ∈ chain (Declaration.nodes model) n ds, node.id ≠ model) :
    List.Forall₂ (Declaration.Drawn (chain (Declaration.nodes model) n ds) model) ds
      ((chain (Declaration.nodes model) n ds).filter
        fun node => decide (node.parent = some model)) := by
  have hdrawn : List.Forall₂ (Declaration.Drawn (chain (Declaration.nodes model) n ds) model)
      (ds.filterMap some) ((chain (Declaration.nodes model) n ds).filter
        fun node => decide (node.parent = some model)) := by
    refine forall₂_filterMap_chain (fun _ _ h => absurd h (Option.some_ne_none _)) ?_
    rintro before d after e hsplit he
    obtain rfl := Option.some.inj he
    have hd : d.fault? = none := List.findSome?_eq_none_iff.mp hds d (by simp [hsplit])
    have hchain := filter_isIn_chain (fun d _ k => d.hangs_nodes model k) hnd hsplit
    have hsub : d.nodes model (n + (chain (Declaration.nodes model) n before).length) <:+:
        chain (Declaration.nodes model) n ds := by
      rw [hsplit, chain_append, chain]
      exact ⟨_, _, List.append_assoc _ _ _⟩
    generalize n + (chain (Declaration.nodes model) n before).length = k at hchain hsub
    have hown : ∀ node ∈ d.nodes model k, node.id ≠ model := fun node hn =>
      hne node (hsub.subset hn)
    refine ⟨d.draft.node ⟨k⟩ model .ownedElements, ?_, ?_⟩
    · -- the members are below the node of the declaration and below each other
      have hmembers : Hangs ⟨k⟩ (chain (Member.nodes ⟨k⟩) (k + 1) (upTo Member.fault? d.members)) :=
        hangs_chain (fun member _ i => member.hangs_nodes ⟨k⟩ i) (k + 1)
      have hrest : (chain (Member.nodes ⟨k⟩) (k + 1) (upTo Member.fault? d.members)).filter
          (fun node => decide (node.parent = some model)) = [] := by
        rw [List.filter_eq_nil_iff]
        intro node hn
        have hparent := parent_ne_of_hangs hmembers (hown _ List.mem_cons_self).symm
          (fun other ho => hown other (List.mem_cons_of_mem _ ho)) hn
        simpa using hparent
      rw [Declaration.nodes, List.filter_cons_of_pos (by simp [NodeDraft.node]), hrest]
    · refine Declaration.drawn_of_filter_eq hd ?_ ?_
      · exact hnd.sublist (hsub.sublist.map Node.id)
      · exact fun node hn slot => hchain node hn (hown node hn) slot
  rwa [List.filterMap_some] at hdrawn

end JavaUml
