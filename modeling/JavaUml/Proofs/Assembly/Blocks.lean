/-
# The blocks of a model

The nodes of a model come in blocks: those of a declaration, of a relationship, of a state and so
on.  A block asks for other nodes only by the role that they play, such as the class of a name, and
each role is played by one node.  So the nodes of a block are told by its number and by the nodes
that play the roles (`Block.nodes`).

If identifiers are changed in such a way that the roles are kept, then each block has the same nodes
under the other identifiers (`Block.nodes_eq`).
-/
import JavaUml.Proofs.Assembly.References
import JavaUml.Proofs.Drawing.Placement
import JavaUml.Proofs.Drawing.Strokes

namespace JavaUml

variable {f : NodeId → NodeId}

/-! ## Declarations -/

lemma Parameter.nodes_eq {operation operation' : NodeId} (ho : operation' = f operation)
    (p : Parameter) (n n' : ℕ) (h : Carries f (p.nodes operation n) (p.nodes operation' n')) :
    p.nodes operation' n' = (p.nodes operation n).map (Node.relabel f) := by
  have hid : (⟨n'⟩ : NodeId) = f ⟨n⟩ := (Carries.cons_iff.mp h).1
  exact congrArg ([·]) (NodeDraft.node_eq_relabel p.draft_ne_reference hid ho .parameters)

lemma Member.nodes_eq {classNode classNode' : NodeId} (hc : classNode' = f classNode)
    (member : Member) (n n' : ℕ)
    (h : Carries f (member.nodes classNode n) (member.nodes classNode' n')) :
    member.nodes classNode' n' = (member.nodes classNode n).map (Node.relabel f) := by
  cases member with
  | field m =>
    have hid : (⟨n'⟩ : NodeId) = f ⟨n⟩ := (Carries.cons_iff.mp h).1
    exact congrArg ([·]) (NodeDraft.node_eq_relabel m.draft_ne_reference hid hc .attributes)
  | method m =>
    obtain ⟨hid, h⟩ := Carries.cons_iff.mp h
    obtain ⟨hresult, hparameters⟩ := Carries.cons_iff.mp h
    have hid : (⟨n'⟩ : NodeId) = f ⟨n⟩ := hid
    have hresult : (⟨n' + 1⟩ : NodeId) = f ⟨n + 1⟩ := hresult
    have hlast := hparameters.chain_eq (fun _ _ _ => rfl) (Parameter.nodes_eq hid)
    rw [nodes, nodes, Method.nodes, Method.nodes, List.map_cons, List.map_cons, ← hlast,
      ← NodeDraft.node_eq_relabel m.draft_ne_reference hid hc,
      ← NodeDraft.node_eq_relabel (returnDraft_ne_reference m.returnType) hresult hid]
  | other => rfl

lemma Member.length_nodes_eq (classNode classNode' : NodeId) (member : Member) (n n' : ℕ) :
    (member.nodes classNode n).length = (member.nodes classNode' n').length := by
  rw [length_nodes, length_nodes]

/-- A declaration makes as many nodes at any number, also if it has a blank name. -/
lemma Declaration.length_nodes_eq (owner owner' : NodeId) (d : Declaration) (n n' : ℕ) :
    (d.nodes owner n).length = (d.nodes owner' n').length := by
  rw [nodes, nodes, List.length_cons, List.length_cons,
    length_chain fun member _ k => Member.length_nodes ⟨n⟩ k member,
    length_chain fun member _ k => Member.length_nodes ⟨n'⟩ k member]

lemma Declaration.nodes_eq {owner owner' : NodeId} (ho : owner' = f owner) (d : Declaration)
    (n n' : ℕ) (h : Carries f (d.nodes owner n) (d.nodes owner' n')) :
    d.nodes owner' n' = (d.nodes owner n).map (Node.relabel f) := by
  obtain ⟨hid, hmembers⟩ := Carries.cons_iff.mp h
  have hid : (⟨n'⟩ : NodeId) = f ⟨n⟩ := hid
  have hlast := hmembers.chain_eq (Member.length_nodes_eq ⟨n⟩ ⟨n'⟩) (Member.nodes_eq hid)
  rw [nodes, nodes, List.map_cons, ← hlast, ← NodeDraft.node_eq_relabel d.draft_ne_reference hid ho]

/-! ## Relationships -/

lemma Relationship.nodesBetween_eq (source target : NodeId) (kind : RelationshipKind) (n n' : ℕ)
    (h : Carries f (nodesBetween source target n kind)
      (nodesBetween (f source) (f target) n' kind)) :
    nodesBetween (f source) (f target) n' kind =
      (nodesBetween source target n kind).map (Node.relabel f) := by
  cases kind with
  | generalization =>
    have hid : (⟨n'⟩ : NodeId) = f ⟨n⟩ := (Carries.cons_iff.mp h).1
    rw [nodesBetween, hid]
    rfl
  | realization =>
    have hid : (⟨n'⟩ : NodeId) = f ⟨n⟩ := (Carries.cons_iff.mp h).1
    rw [nodesBetween, hid]
    rfl
  | aggregation =>
    obtain ⟨hassociation, h⟩ := Carries.cons_iff.mp h
    obtain ⟨hpart, h⟩ := Carries.cons_iff.mp h
    have hassociation : (⟨n'⟩ : NodeId) = f ⟨n⟩ := hassociation
    have hpart : (⟨n' + 1⟩ : NodeId) = f ⟨n + 1⟩ := hpart
    have hwhole : (⟨n' + 2⟩ : NodeId) = f ⟨n + 2⟩ := (Carries.cons_iff.mp h).1
    rw [nodesBetween, hassociation, hpart, hwhole]
    rfl

/-! ## Diagrams -/

namespace Channel

/-- The nodes around the vertices and edges of a channel: the machine and its region, or the
collaboration with its interaction and the diagram. -/
def frameNodes (config : AssemblyConfig) (n : ℕ) : Channel → List Node
  | .trigger =>
    [(StateMachine.machineDraft config.stateMachine).node ⟨n⟩ (Assembly.projectId config)
        .ownedElements,
      StateMachine.regionDraft.node ⟨n + 1⟩ ⟨n⟩ .regions]
  | .message =>
    [(Interaction.collaborationDraft config.interaction).node ⟨n⟩ (Assembly.projectId config)
        .ownedElements,
      (Interaction.interactionDraft config.interaction).node ⟨n + 1⟩ ⟨n⟩ .ownedElements,
      (Interaction.diagramDraft config.interaction).node ⟨n + 2⟩ ⟨n + 1⟩ .ownedElements]

/-- The node for a name at the end of an edge. -/
def vertexNode (channel : Channel) (owner : NodeId) (n : ℕ) (name : String) : Node :=
  match channel with
  | .trigger => StateMachine.vertexNode owner n name
  | .message => Interaction.lifelineNode owner n name

/-- The nodes for an edge between two nodes. -/
def linkNodes (channel : Channel) (owner : NodeId) (n : ℕ) (source target : NodeId)
    (label : String) : List Node :=
  match channel with
  | .trigger => StateMachine.transitionNodes owner n source target label
  | .message => Interaction.messageNodes owner n source target label

lemma frameNodes_eq {config : AssemblyConfig}
    (hproject : f (Assembly.projectId config) = Assembly.projectId config) (channel : Channel)
    {n n' : ℕ} (h : Carries f (channel.frameNodes config n) (channel.frameNodes config n')) :
    channel.frameNodes config n' = (channel.frameNodes config n).map (Node.relabel f) := by
  cases channel with
  | trigger =>
    obtain ⟨hmachine, h⟩ := Carries.cons_iff.mp h
    have hmachine : (⟨n'⟩ : NodeId) = f ⟨n⟩ := hmachine
    have hregion : (⟨n' + 1⟩ : NodeId) = f ⟨n + 1⟩ := (Carries.cons_iff.mp h).1
    rw [frameNodes, hmachine, hregion]
    nth_rewrite 1 [← hproject]
    rfl
  | message =>
    obtain ⟨hcollaboration, h⟩ := Carries.cons_iff.mp h
    obtain ⟨hinteraction, h⟩ := Carries.cons_iff.mp h
    have hcollaboration : (⟨n'⟩ : NodeId) = f ⟨n⟩ := hcollaboration
    have hinteraction : (⟨n' + 1⟩ : NodeId) = f ⟨n + 1⟩ := hinteraction
    have hdiagram : (⟨n' + 2⟩ : NodeId) = f ⟨n + 2⟩ := (Carries.cons_iff.mp h).1
    rw [frameNodes, hcollaboration, hinteraction, hdiagram]
    nth_rewrite 1 [← hproject]
    rfl

lemma vertexNode_id (channel : Channel) (owner : NodeId) (n : ℕ) (name : String) :
    (channel.vertexNode owner n name).id = ⟨n⟩ := by
  cases channel <;> rfl

lemma vertexNode_eq (channel : Channel) (owner : NodeId) (name : String) {n n' : ℕ}
    (hid : (⟨n'⟩ : NodeId) = f ⟨n⟩) :
    channel.vertexNode (f owner) n' name = (channel.vertexNode owner n name).relabel f := by
  cases channel with
  | trigger =>
    rw [vertexNode, StateMachine.vertexNode, StateMachine.vertexNodeOf, hid]
    cases hkind : VertexKind.ofName name <;>
      simp [vertexNode, StateMachine.vertexNode, StateMachine.vertexNodeOf, hkind] <;> rfl
  | message =>
    rw [vertexNode, Interaction.lifelineNode, hid]
    rfl

lemma linkNodes_eq (channel : Channel) (owner source target : NodeId) (label : String) {n n' : ℕ}
    (h : Carries f (channel.linkNodes owner n source target label)
      (channel.linkNodes (f owner) n' (f source) (f target) label)) :
    channel.linkNodes (f owner) n' (f source) (f target) label =
      (channel.linkNodes owner n source target label).map (Node.relabel f) := by
  cases channel with
  | trigger =>
    obtain ⟨htransition, h⟩ := Carries.cons_iff.mp h
    have htransition : (⟨n'⟩ : NodeId) = f ⟨n⟩ := htransition
    have hevent : (⟨n' + 1⟩ : NodeId) = f ⟨n + 1⟩ := (Carries.cons_iff.mp h).1
    rw [linkNodes, StateMachine.transitionNodes, htransition, hevent]
    rfl
  | message =>
    have hmessage : (⟨n'⟩ : NodeId) = f ⟨n⟩ := (Carries.cons_iff.mp h).1
    rw [linkNodes, Interaction.messageNodes, hmessage]
    rfl

end Channel

/-! ## Blocks -/

namespace Assembly

/-- What a node can be for other nodes: the class of a name, the diagram of a channel, the owner of
its vertices and edges, or the vertex of a name. -/
inductive Role
  | classifier (name : String)
  | diagram (channel : Channel)
  | owner (channel : Channel)
  | vertex (channel : Channel) (name : String)
deriving DecidableEq

/-- The channel of a role, if it is one of a diagram. -/
def Role.channel? : Role → Option Channel
  | classifier _ => none
  | diagram channel => some channel
  | owner channel => some channel
  | vertex channel _ => some channel

/-- The node that plays a role, if there is one. -/
abbrev Cast := Role → Option NodeId

/-- What nodes are made for. -/
inductive Block
  | frame
  | declaration (d : Declaration)
  | relationship (r : Relationship)
  | diagram (channel : Channel)
  | vertex (channel : Channel) (name : String)
  | edge (channel : Channel) (e : Edge)

namespace Block

/-- The nodes of a block from a number on. -/
def nodes (config : AssemblyConfig) (cast : Cast) (n : ℕ) : Block → List Node
  | frame => projectNode config :: modelNodes config
  | declaration d => d.nodes (modelId config) n
  | relationship r =>
    match cast (.classifier r.source), cast (.classifier r.target) with
    | some source, some target => Relationship.nodesBetween source target n r.kind
    | _, _ => []
  | diagram channel => channel.frameNodes config n
  | vertex channel name =>
    match cast (.owner channel) with
    | some owner => [channel.vertexNode owner n name]
    | none => []
  | edge channel e =>
    match cast (.owner channel), cast (.vertex channel e.source),
        cast (.vertex channel e.target) with
    | some owner, some source, some target => channel.linkNodes owner n source target e.label
    | _, _, _ => []

/-- The roles that nodes of a block play. -/
def roles (n : ℕ) : Block → List (Role × NodeId)
  | declaration d => [(.classifier d.name, ⟨n⟩)]
  | diagram channel => [(.diagram channel, ⟨n⟩), (.owner channel, ⟨n + 1⟩)]
  | vertex channel name => [(.vertex channel name, ⟨n⟩)]
  | _ => []

/-- The roles that nodes of a block play, without the nodes. -/
def keys : Block → List Role
  | declaration d => [.classifier d.name]
  | diagram channel => [.diagram channel, .owner channel]
  | vertex channel name => [.vertex channel name]
  | _ => []

lemma map_fst_roles (n : ℕ) (b : Block) : (b.roles n).map Prod.fst = b.keys := by
  cases b <;> rfl

variable {config : AssemblyConfig} {cast cast' : Cast}

/-- The number of nodes of a block depends only on which roles are played. -/
lemma length_nodes_eq (h : ∀ role, (cast' role).isSome = (cast role).isSome) (b : Block)
    (n n' : ℕ) : (b.nodes config cast n).length = (b.nodes config cast' n').length := by
  have hboth : ∀ role, (cast role = none ∧ cast' role = none) ∨
      ∃ id id', cast role = some id ∧ cast' role = some id' := by
    intro role
    have hrole := h role
    cases hc : cast role <;> cases hc' : cast' role <;> simp [hc, hc'] at hrole ⊢
  cases b with
  | frame => rfl
  | declaration d => exact Declaration.length_nodes_eq _ _ d n n'
  | relationship r =>
    rcases hboth (.classifier r.source) with ⟨hs, hs'⟩ | ⟨source, source', hs, hs'⟩
    · simp [nodes, hs, hs']
    · rcases hboth (.classifier r.target) with ⟨ht, ht'⟩ | ⟨target, target', ht, ht'⟩
      · simp [nodes, hs, hs', ht, ht']
      · simp [nodes, hs, hs', ht, ht', Relationship.length_nodesBetween]
  | diagram channel => cases channel <;> rfl
  | vertex channel name =>
    rcases hboth (.owner channel) with ⟨ho, ho'⟩ | ⟨owner, owner', ho, ho'⟩
    · simp [nodes, ho, ho']
    · simp [nodes, ho, ho']
  | edge channel e =>
    rcases hboth (.owner channel) with ⟨ho, ho'⟩ | ⟨owner, owner', ho, ho'⟩
    · simp [nodes, ho, ho']
    · rcases hboth (.vertex channel e.source) with ⟨hs, hs'⟩ | ⟨source, source', hs, hs'⟩
      · simp [nodes, ho, ho', hs, hs']
      · rcases hboth (.vertex channel e.target) with ⟨ht, ht'⟩ | ⟨target, target', ht, ht'⟩
        · simp [nodes, ho, ho', hs, hs', ht, ht']
        · simp only [nodes, ho, ho', hs, hs', ht, ht']
          cases channel <;> rfl

/-- Blocks have the same nodes under other identifiers if each role is played by the node that is
carried to. -/
lemma nodes_eq (hproject : f (projectId config) = projectId config)
    (hmodel : f (modelId config) = modelId config) (hcast : ∀ role, cast' role = (cast role).map f)
    (b : Block) (n n' : ℕ) (h : Carries f (b.nodes config cast n) (b.nodes config cast' n')) :
    b.nodes config cast' n' = (b.nodes config cast n).map (Node.relabel f) := by
  cases b with
  | frame =>
    show projectNode config :: modelNodes config =
      (projectNode config :: modelNodes config).map (Node.relabel f)
    obtain ⟨-, h⟩ := Carries.cons_iff.mp h
    obtain ⟨-, h⟩ := Carries.cons_iff.mp h
    have hdiagram : (⟨config.seed.toNat + 2⟩ : NodeId) = f ⟨config.seed.toNat + 2⟩ :=
      (Carries.cons_iff.mp h).1
    simp [projectNode, modelNodes, Node.relabel, NodeDraft.node, modelDraft, diagramDraft,
      FieldList.relabel, Value.relabel, hproject, hmodel, ← hdiagram]
  | declaration d => exact Declaration.nodes_eq hmodel.symm d n n' h
  | relationship r =>
    simp only [nodes, hcast] at h ⊢
    cases hsource : cast (.classifier r.source) with
    | none => rfl
    | some source =>
      cases htarget : cast (.classifier r.target) with
      | none => rfl
      | some target =>
        rw [hsource, htarget] at h
        exact Relationship.nodesBetween_eq source target r.kind n n' h
  | diagram channel => exact channel.frameNodes_eq hproject h
  | vertex channel name =>
    simp only [nodes, hcast] at h ⊢
    cases howner : cast (.owner channel) with
    | none => rfl
    | some owner =>
      rw [howner] at h
      have hid := (Carries.cons_iff.mp h).1
      rw [channel.vertexNode_id, channel.vertexNode_id] at hid
      exact congrArg ([·]) (channel.vertexNode_eq owner name hid)
  | edge channel e =>
    simp only [nodes, hcast] at h ⊢
    cases howner : cast (.owner channel) with
    | none => rfl
    | some owner =>
      cases hsource : cast (.vertex channel e.source) with
      | none => rfl
      | some source =>
        cases htarget : cast (.vertex channel e.target) with
        | none => rfl
        | some target =>
          rw [howner, hsource, htarget] at h
          exact channel.linkNodes_eq owner source target e.label h

/-- The roles of a block that is carried are played by the nodes that are carried to. -/
lemma roles_eq {b : Block}
    (ho : ∀ channel name, b = .vertex channel name → (cast (.owner channel)).isSome)
    (hcast : ∀ role, (cast' role).isSome = (cast role).isSome) {n n' : ℕ}
    (h : Carries f (b.nodes config cast n) (b.nodes config cast' n')) :
    b.roles n' = (b.roles n).map (Prod.map id f) := by
  cases b with
  | frame => rfl
  | declaration d =>
    have hid : (⟨n'⟩ : NodeId) = f ⟨n⟩ := (Carries.cons_iff.mp h).1
    rw [roles, hid]
    rfl
  | relationship r => rfl
  | diagram channel =>
    have hids : (⟨n'⟩ : NodeId) = f ⟨n⟩ ∧ (⟨n' + 1⟩ : NodeId) = f ⟨n + 1⟩ := by
      cases channel with
      | trigger =>
        obtain ⟨hmachine, h⟩ := Carries.cons_iff.mp h
        exact ⟨hmachine, (Carries.cons_iff.mp h).1⟩
      | message =>
        obtain ⟨hcollaboration, h⟩ := Carries.cons_iff.mp h
        exact ⟨hcollaboration, (Carries.cons_iff.mp h).1⟩
    rw [roles, hids.1, hids.2]
    rfl
  | vertex channel name =>
    have hsome := ho channel name rfl
    obtain ⟨owner, howner⟩ := Option.isSome_iff_exists.mp hsome
    rw [← hcast] at hsome
    obtain ⟨owner', howner'⟩ := Option.isSome_iff_exists.mp hsome
    rw [nodes, nodes, howner, howner'] at h
    have hid := (Carries.cons_iff.mp h).1
    rw [channel.vertexNode_id, channel.vertexNode_id] at hid
    rw [roles, hid]
    rfl
  | edge channel e => rfl

end Block

end Assembly

end JavaUml
