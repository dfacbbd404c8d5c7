/-
# The parts of an assembled model

The nodes of the blueprint come in parts, and the type of a node tells its part (`Node.Belongs`).
So a question about nodes of certain types is a question about one part (`filter_blueprint`).

The classes and interfaces of a model are the children of the model of these types.  They are one
for each declaration in order (`Follows.map_classifiers`), and a name is bound to the last of them
that has this name (`Follows.lastNamed_map_id`).
-/
import JavaUml.Proofs.Assembly.Outline

namespace JavaUml

/-- The parts of a model, in the order in which they are made. -/
inductive Part
  | frame
  | declarations
  | relationships
  | stateMachine
  | interaction
deriving DecidableEq, Repr

/-- The part to which nodes of a type belong. -/
def NodeKind.part : NodeKind → Part
  | project | model | classDiagram => .frame
  | classNode | interfaceNode | attributeNode | operation | parameter => .declarations
  | generalization | interfaceRealization | association | associationEnd => .relationships
  | stateMachine | region | state | pseudostate | finalState | transition | event => .stateMachine
  | collaboration | interaction | sequenceDiagram | lifeline | message => .interaction

/-- A node belongs to a part by its type, and a collection that is for one child only is the place
of an end of an association. -/
structure Node.Belongs (part : Part) (node : Node) : Prop where
  part : node.kind.part = part
  singular : ∀ slot, node.slot = some slot → slot.isSingular = true → node.kind = .associationEnd

lemma NodeDraft.belongs_node {draft : NodeDraft} {id parent : NodeId} {slot : Slot} {part : Part}
    (hpart : draft.kind.part = part)
    (h : slot.isSingular = false ∨ draft.kind = .associationEnd) :
    (draft.node id parent slot).Belongs part := by
  refine ⟨hpart, fun other hother hsingular => ?_⟩
  obtain rfl : slot = other := Option.some.inj hother
  rcases h with hs | hkind
  · rw [hs] at hsingular
    cases hsingular
  · exact hkind

/-! ## The nodes of the parts -/

lemma Member.belongs_of_mem_nodes {classNode : NodeId} {n : ℕ} {member : Member} {node : Node}
    (h : node ∈ member.nodes classNode n) :
    node.Belongs .declarations ∧ node.kind.isClassifier = false := by
  rcases cases_of_mem_nodes h with ⟨f, rfl⟩ | ⟨m, rfl⟩ | ⟨t, rfl⟩ | ⟨p, k, rfl⟩ <;>
    exact ⟨NodeDraft.belongs_node rfl (.inl rfl), rfl⟩

lemma Declaration.belongs_of_mem_nodes {owner : NodeId} {n : ℕ} {d : Declaration} {node : Node}
    (h : node ∈ d.nodes owner n) : node.Belongs .declarations := by
  rcases List.mem_cons.mp h with rfl | h
  · have hpart : d.draft.kind.part = .declarations := by
      cases hk : d.kind <;> simp [draft, hk, ClassifierKind.nodeKind, NodeKind.part]
    exact NodeDraft.belongs_node hpart (.inl rfl)
  · obtain ⟨member, -, k, -, hm, -⟩ := exists_of_mem_chain h
    exact (Member.belongs_of_mem_nodes hm).1

lemma Relationship.belongs_of_mem_nodes {bindings : NameTable} {n : ℕ} {r : Relationship}
    {node : Node} (h : node ∈ r.nodes bindings n) : node.Belongs .relationships := by
  obtain ⟨source, target, -, ⟨kind, hkind, rfl⟩ | ⟨-, rfl | rfl | rfl⟩⟩ := cases_of_mem_nodes h
  · rcases hkind with rfl | rfl <;> exact NodeDraft.belongs_node rfl (.inl rfl)
  · exact NodeDraft.belongs_node rfl (.inl rfl)
  · exact NodeDraft.belongs_node rfl (.inr rfl)
  · exact NodeDraft.belongs_node rfl (.inr rfl)

lemma StateMachine.belongs_of_mem_nodes {root : NodeId} {name : String} {n : ℕ} {es : List Edge}
    {node : Node} (h : node ∈ nodes root name n es) : node.Belongs .stateMachine := by
  rcases cases_of_mem_nodes h with
    rfl | ⟨-, rfl | ⟨k, vertex, rfl⟩ | ⟨k, a, b, label, rfl, -, -⟩ | ⟨k, label, rfl⟩⟩
  · exact NodeDraft.belongs_node rfl (.inl rfl)
  · exact NodeDraft.belongs_node rfl (.inl rfl)
  · have hpart : ((VertexKind.ofName vertex).draft vertex).kind.part = .stateMachine := by
      cases VertexKind.ofName vertex <;> rfl
    exact NodeDraft.belongs_node hpart (.inl rfl)
  · exact NodeDraft.belongs_node rfl (.inl rfl)
  · exact NodeDraft.belongs_node rfl (.inl rfl)

lemma Interaction.belongs_of_mem_nodes {root : NodeId} {names : Names} {n : ℕ} {es : List Edge}
    {node : Node} (h : node ∈ nodes root names n es) : node.Belongs .interaction := by
  rcases cases_of_mem_nodes h with
    rfl | ⟨-, rfl | rfl | ⟨k, lifeline, rfl⟩ | ⟨k, a, b, label, rfl, -, -⟩⟩ <;>
    exact NodeDraft.belongs_node rfl (.inl rfl)

namespace Assembly

variable {config : AssemblyConfig} {ds : List Declaration}

/-- The nodes of a part of the blueprint. -/
def partNodes (config : AssemblyConfig) (ds : List Declaration) : Part → List Node
  | .frame => projectNode config :: modelNodes config
  | .declarations => classNodes config ds
  | .relationships => relationshipNodes config ds
  | .stateMachine => stateMachineNodes config ds
  | .interaction => interactionNodes config ds

lemma blueprint_eq (config : AssemblyConfig) (ds : List Declaration) :
    blueprint config ds = partNodes config ds .frame ++ (partNodes config ds .declarations ++
      (partNodes config ds .relationships ++ (partNodes config ds .stateMachine ++
        partNodes config ds .interaction))) := rfl

lemma belongs_of_mem_partNodes {part : Part} {node : Node} (h : node ∈ partNodes config ds part) :
    node.Belongs part := by
  cases part with
  | frame =>
    simp only [partNodes, modelNodes, List.mem_cons, List.not_mem_nil, or_false] at h
    rcases h with rfl | rfl | rfl
    · refine ⟨rfl, fun slot hslot => ?_⟩
      cases hslot
    · exact NodeDraft.belongs_node rfl (.inl rfl)
    · exact NodeDraft.belongs_node rfl (.inl rfl)
  | declarations =>
    obtain ⟨d, -, k, -, hd, -⟩ := exists_of_mem_chain h
    exact Declaration.belongs_of_mem_nodes hd
  | relationships =>
    obtain ⟨r, -, k, -, hr, -⟩ := exists_of_mem_chain h
    exact Relationship.belongs_of_mem_nodes hr
  | stateMachine => exact StateMachine.belongs_of_mem_nodes h
  | interaction => exact Interaction.belongs_of_mem_nodes h

/-- What only nodes of one part are is to be looked for in this part. -/
lemma filter_blueprint_of_mem (part : Part) {p : Node → Bool}
    (hp : ∀ other, ∀ node ∈ partNodes config ds other, p node = true → other = part) :
    (blueprint config ds).filter p = (partNodes config ds part).filter p := by
  have hother : ∀ other, other ≠ part → (partNodes config ds other).filter p = [] := by
    intro other hne
    rw [List.filter_eq_nil_iff]
    intro node hn hpn
    exact hne (hp other node hn hpn)
  rw [blueprint_eq]
  cases part <;> simp [List.filter_append, hother]

/-- What only nodes of one part can be is to be looked for in this part. -/
lemma filter_blueprint (part : Part) {p : Node → Bool}
    (hp : ∀ other (node : Node), node.Belongs other → p node = true → other = part) :
    (blueprint config ds).filter p = (partNodes config ds part).filter p :=
  filter_blueprint_of_mem part fun other node hn => hp other node (belongs_of_mem_partNodes hn)

end Assembly

/-! ## Classes and interfaces -/

/-- Whether a node is a class or interface of a model. -/
def Node.isClassifierOf (model : NodeId) (node : Node) : Bool :=
  node.kind.isClassifier && node.slot == some .ownedElements && decide (node.parent = some model)

/-- The classes and interfaces of declarations have the identifiers, types and names that are listed
for them. -/
lemma Declaration.map_filter_chain_nodes {ds : List Declaration}
    (hds : ds.findSome? Declaration.fault? = none) (model : NodeId) (n : ℕ) :
    ((chain (Declaration.nodes model) n ds).filter (Node.isClassifierOf model)).map
        (fun node => (node.id, node.kind, node.name)) =
      (entries n ds).map fun entry => (entry.id, entry.kind.nodeKind, some entry.name) := by
  induction ds generalizing n with
  | nil => rfl
  | cons d ds ih =>
    rw [List.findSome?_eq_none_iff] at hds
    have hd := hds d List.mem_cons_self
    have hrest := ih (List.findSome?_eq_none_iff.mpr fun e he => hds e (List.mem_cons_of_mem d he))
      (n + d.size)
    -- the nodes of members are no classes, even if they had this parent
    have hmembers : ∀ members : List Member,
        (chain (Member.nodes ⟨n⟩) (n + 1) members).filter (Node.isClassifierOf model) = [] := by
      intro members
      rw [List.filter_eq_nil_iff]
      intro node hn
      obtain ⟨member, -, k, -, hm, -⟩ := exists_of_mem_chain hn
      simp [Node.isClassifierOf, (Member.belongs_of_mem_nodes hm).2]
    have hhead : Node.isClassifierOf model (d.draft.node ⟨n⟩ model .ownedElements) = true := by
      cases hk : d.kind <;>
        simp [Node.isClassifierOf, NodeDraft.node, draft, hk, ClassifierKind.nodeKind,
          NodeKind.isClassifier]
    rw [chain, List.filter_append, List.map_append, length_nodes hd, hrest, nodes,
      List.filter_cons_of_pos hhead, hmembers]
    rfl

namespace Assembly

/-- The classes and interfaces of a model. -/
def classifiers (a : Assembly) : List Node :=
  (a.document.childrenIn a.model .ownedElements).filter fun node => node.kind.isClassifier

/-- The class or interface for which a name stands: the last one that has it. -/
def lastNamed (a : Assembly) (name : String) : Option Node :=
  a.classifiers.reverse.find? fun node => node.name = some name

namespace Follows

variable {config : AssemblyConfig} {ds : List Declaration} {a : Assembly}

/-- The nodes of the document that pass a test are those of the blueprint, if the test does not see
what the blueprint leaves open. -/
lemma map_bare_filter (h : Follows config ds a) {p : Node → Bool}
    (hbare : ∀ node : Node, p node.bare = p node)
    (hresolve : ∀ node : Node, p (node.resolve (bindings config ds)) = p node) :
    (a.document.nodes.toList.filter p).map Node.bare =
      ((blueprint config ds).filter p).map (Node.resolve (bindings config ds)) := by
  have hout := congrArg (List.filter p) h.outline
  rw [Document.outline, List.filter_map, List.filter_map] at hout
  simpa only [Function.comp_def, hbare, hresolve] using hout

lemma classifiers_eq (h : Follows config ds a) :
    a.classifiers = a.document.nodes.toList.filter (Node.isClassifierOf (modelId config)) := by
  rw [classifiers, Document.childrenIn, h.sound.childrenOf_eq, List.filter_filter,
    List.filter_filter, h.model]
  rfl

/-- There is a class or interface for every entry of the store in order. -/
lemma map_classifiers (h : Follows config ds a) (hf : ds.findSome? Declaration.fault? = none) :
    a.classifiers.map (fun node => (node.id, node.kind, node.name)) =
      (entries config ds).map fun entry => (entry.id, entry.kind.nodeKind, some entry.name) := by
  have hpart : (blueprint config ds).filter (Node.isClassifierOf (modelId config)) =
      (classNodes config ds).filter (Node.isClassifierOf (modelId config)) := by
    refine filter_blueprint .declarations fun other node hbelongs hp => ?_
    rw [← hbelongs.part]
    have hkind : node.kind = .classNode ∨ node.kind = .interfaceNode := by
      simp only [Node.isClassifierOf, NodeKind.isClassifier, Bool.and_eq_true, Bool.or_eq_true,
        beq_iff_eq] at hp
      exact hp.1.1
    rcases hkind with hk | hk <;> rw [hk] <;> rfl
  have hbare := congrArg (List.map fun node : Node => (node.id, node.kind, node.name))
    (h.map_bare_filter (p := Node.isClassifierOf (modelId config)) (fun _ => rfl) fun _ => rfl)
  rw [List.map_map, List.map_map, hpart, classNodes, upTo_of_findSome?_eq_none hf] at hbare
  rw [h.classifiers_eq]
  exact hbare.trans (Declaration.map_filter_chain_nodes hf _ _)

/-- A name is bound to the last class or interface that has it. -/
lemma lastNamed_map_id (h : Follows config ds a) (hf : ds.findSome? Declaration.fault? = none)
    (name : String) : (a.lastNamed name).map Node.id = (bindings config ds).resolve name := by
  calc (a.lastNamed name).map Node.id
      = ((a.classifiers.map fun node => (node.id, node.kind, node.name)).reverse.find?
          fun triple => triple.2.2 = some name).map Prod.fst := by
        rw [← List.map_reverse, List.find?_map, Option.map_map, lastNamed]
        rfl
    _ = (((entries config ds).map fun entry =>
          (entry.id, entry.kind.nodeKind, some entry.name)).reverse.find?
          fun triple => triple.2.2 = some name).map Prod.fst := by
        rw [h.map_classifiers hf]
    _ = (bindings config ds).resolve name := by
        rw [← List.map_reverse, List.find?_map, Option.map_map, bindings, ClassEntry.resolve_table]
        simp [Function.comp_def]

lemma exists_lastNamed (h : Follows config ds a) (hf : ds.findSome? Declaration.fault? = none)
    {name : String} {id : NodeId} (hid : (bindings config ds).resolve name = some id) :
    ∃ node, a.lastNamed name = some node ∧ node.id = id :=
  Option.map_eq_some_iff.mp ((h.lastNamed_map_id hf name).trans hid)

end Follows

lemma mem_classifiers_of_lastNamed {a : Assembly} {name : String} {node : Node}
    (h : a.lastNamed name = some node) : node ∈ a.classifiers :=
  List.mem_reverse.mp (List.mem_of_find?_eq_some h)

end Assembly

end JavaUml
