/-
# References in an assembled model

Every reference in an assembled document leads to a node of the document, and to one of the right
sort (`references_suit`).  The builders do not check where their references lead.  That these are
right comes from the tables of names: the table of the declarations binds names to classes and
interfaces only, and the tables of the diagrams bind them to the vertices of the one region and to
the lifelines of the one interaction that is being drawn.

Names stand only for the types of attributes and parameters.  The sweep makes references to classes
and interfaces out of those that are bound; those that are left are below the model.
-/
import JavaUml.Proofs.Assembly.Outcome
import JavaUml.Proofs.Assembly.Parts

namespace JavaUml

/-! ## Declarations -/

/-- A value that is neither a reference nor a name. -/
def Value.IsPlain (value : Value) : Prop := (∃ s, value = .text s) ∨ ∃ b, value = .flag b

/-- The fields of a node are plain, but for the type of an attribute or parameter, which is still a
name. -/
def Node.IsOpen (node : Node) : Prop :=
  ∀ field ∈ node.fields, field.2.IsPlain ∨
    (node.kind = .attributeNode ∨ node.kind = .parameter) ∧ ∃ t, field = typeField t

lemma isPlain_of_mem_flagField {key : String} {present : Bool} {field : String × Value}
    (h : field ∈ flagField key present) : field.2.IsPlain := by
  unfold flagField at h
  split at h
  · rw [List.mem_singleton.mp h]
    exact .inr ⟨true, rfl⟩
  · cases h

lemma isPlain_of_mem_visibilityField {modifiers : List String} {field : String × Value}
    (h : field ∈ visibilityField modifiers) : field.2.IsPlain := by
  unfold visibilityField at h
  split at h
  · next visibility _ =>
    rw [List.mem_singleton.mp h]
    exact .inl ⟨visibility.word, rfl⟩
  · cases h

lemma Member.isOpen_of_mem_nodes {classNode : NodeId} {n : ℕ} {member : Member} {node : Node}
    (h : node ∈ member.nodes classNode n) : node.IsOpen := by
  intro field hfield
  rcases cases_of_mem_nodes h with ⟨f, rfl⟩ | ⟨m, rfl⟩ | ⟨t, rfl⟩ | ⟨p, k, rfl⟩
  · simp only [NodeDraft.node, Field.draft, List.mem_append, List.mem_singleton] at hfield
    rcases hfield with (hfield | hfield) | hfield
    · exact .inl (isPlain_of_mem_visibilityField hfield)
    · exact .inl (isPlain_of_mem_flagField hfield)
    · exact .inr ⟨.inl rfl, f.type, hfield⟩
  · simp only [NodeDraft.node, Method.draft, List.mem_append] at hfield
    rcases hfield with (hfield | hfield) | hfield
    · exact .inl (isPlain_of_mem_visibilityField hfield)
    · exact .inl (isPlain_of_mem_flagField hfield)
    · exact .inl (isPlain_of_mem_flagField hfield)
  · rcases List.mem_pair.mp hfield with rfl | rfl
    · exact .inr ⟨.inr rfl, t, rfl⟩
    · exact .inl (.inl ⟨Direction.outward.word, rfl⟩)
  · exact .inr ⟨.inr rfl, p.type, List.mem_singleton.mp hfield⟩

lemma Declaration.isOpen_of_mem_nodes {owner : NodeId} {n : ℕ} {d : Declaration} {node : Node}
    (h : node ∈ d.nodes owner n) : node.IsOpen := by
  rcases List.mem_cons.mp h with rfl | h
  · exact fun field hfield => .inl (isPlain_of_mem_flagField hfield)
  · obtain ⟨member, -, k, -, hm, -⟩ := exists_of_mem_chain h
    exact Member.isOpen_of_mem_nodes hm

/-- Before names are replaced, there are no references in the nodes of declarations. -/
lemma Node.IsOpen.ne_reference {node : Node} (h : node.IsOpen) :
    ∀ field ∈ node.fields, ∀ id, field.2 ≠ .reference id := by
  intro field hfield id hid
  rcases h field hfield with (⟨s, hs⟩ | ⟨b, hb⟩) | ⟨-, t, rfl⟩
  · rw [hs] at hid
    cases hid
  · rw [hb] at hid
    cases hid
  · cases hid

/-! What the nodes of declarations start with has no references. -/

lemma Field.draft_ne_reference (f : Field) :
    ∀ field ∈ f.draft.fields, ∀ id, field.2 ≠ .reference id :=
  Node.IsOpen.ne_reference (Member.isOpen_of_mem_nodes
    (show f.draft.node ⟨0⟩ ⟨0⟩ .attributes ∈ (Member.field f).nodes ⟨0⟩ 0 from List.mem_cons_self))

lemma Method.draft_ne_reference (m : Method) :
    ∀ field ∈ m.draft.fields, ∀ id, field.2 ≠ .reference id :=
  Node.IsOpen.ne_reference (Member.isOpen_of_mem_nodes
    (show m.draft.node ⟨0⟩ ⟨0⟩ .operations ∈ (Member.method m).nodes ⟨0⟩ 0 from List.mem_cons_self))

lemma Declaration.draft_ne_reference (d : Declaration) :
    ∀ field ∈ d.draft.fields, ∀ id, field.2 ≠ .reference id :=
  Node.IsOpen.ne_reference (Declaration.isOpen_of_mem_nodes
    (show d.draft.node ⟨0⟩ ⟨0⟩ .ownedElements ∈ d.nodes ⟨0⟩ 0 from List.mem_cons_self))

lemma Parameter.draft_ne_reference (p : Parameter) :
    ∀ field ∈ p.draft.fields, ∀ id, field.2 ≠ .reference id := by
  simp [draft, typeField]

lemma returnDraft_ne_reference (t : TypeRef) :
    ∀ field ∈ (returnDraft t).fields, ∀ id, field.2 ≠ .reference id := by
  simp [returnDraft, typeField]

/-- A reference that comes out of a type leads to what its name is bound to. -/
lemma Node.IsOpen.reference_resolve {node : Node} (h : node.IsOpen) {table : NameTable}
    {key : String} {id : NodeId} (hf : (key, .reference id) ∈ (node.resolve table).fields) :
    (node.kind = .attributeNode ∨ node.kind = .parameter) ∧ key = "type" ∧
      ∃ name, table.resolve name = some id := by
  obtain ⟨field, hfield, he⟩ := List.mem_map.mp hf
  obtain ⟨rfl, hvalue⟩ := Prod.mk.inj he
  rcases h field hfield with (⟨s, hs⟩ | ⟨b, hb⟩) | ⟨hkind, t, rfl⟩
  · rw [hs] at hvalue
    cases hvalue
  · rw [hb] at hvalue
    cases hvalue
  · refine ⟨hkind, rfl, t.text, ?_⟩
    cases hr : table.resolve t.text with
    | some target =>
      simp only [typeField, Value.resolve, hr, Value.reference.injEq] at hvalue
      rw [hvalue]
    | none => simp [typeField, Value.resolve, hr] at hvalue

/-! ## Relationships -/

/-- The references of relationships lead to what the names are bound to: from a node with a
direction to its own parent and to the target, from the first end of an association to the parent of
the association, and from the second end to the other side. -/
lemma Relationship.reference_of_mem_nodes {bindings : NameTable} {n : ℕ} {r : Relationship}
    {node : Node} (h : node ∈ r.nodes bindings n) {key : String} {id : NodeId}
    (hf : (key, .reference id) ∈ node.fields) :
    (∃ name, bindings.resolve name = some id) ∧
      ((node.kind = .generalization ∨ node.kind = .interfaceRealization) ∧
          (key = "source" ∧ node.parent = some id ∨ key = "target") ∨
        node.kind = .associationEnd ∧ key = "reference" ∧
          (node.slot = some .endTwo ∨ node.slot = some .endOne ∧
            ∃ association ∈ r.nodes bindings n, association.kind = .association ∧
              node.parent = some association.id ∧ association.parent = some id)) := by
  obtain ⟨source, target, hpair, hnode⟩ := cases_of_mem_nodes h
  obtain ⟨hsource, htarget⟩ := NameTable.resolvePair_eq_some_iff.mp hpair
  rcases hnode with ⟨kind, hkind, rfl⟩ | ⟨hassociation, rfl | rfl | rfl⟩
  · rcases List.mem_pair.mp hf with hf | hf <;> cases hf
    · exact ⟨⟨r.source, hsource⟩, .inl ⟨hkind, .inl ⟨rfl, rfl⟩⟩⟩
    · exact ⟨⟨r.target, htarget⟩, .inl ⟨hkind, .inr rfl⟩⟩
  · cases hf
  · cases List.mem_singleton.mp hf
    exact ⟨⟨r.source, hsource⟩, .inr ⟨rfl, rfl, .inr ⟨rfl, _, hassociation, rfl, rfl, rfl⟩⟩⟩
  · rcases List.mem_pair.mp hf with hf | hf <;> cases hf
    exact ⟨⟨r.target, htarget⟩, .inr ⟨rfl, rfl, .inl rfl⟩⟩

/-! ## Diagrams -/

/-- The references of a state machine are those of its transitions, and lead to vertices in the
region of the transition. -/
lemma StateMachine.reference_of_mem_nodes {root : NodeId} {name : String} {n : ℕ} {es : List Edge}
    {node : Node} (h : node ∈ nodes root name n es) {key : String} {id : NodeId}
    (hf : (key, .reference id) ∈ node.fields) :
    node.kind = .transition ∧ (key = "source" ∨ key = "target") ∧
      ∃ region ∈ nodes root name n es, region.kind = .region ∧ node.parent = some region.id ∧
        ∃ vertex ∈ nodes root name n es, vertex.id = id ∧ vertex.kind.isVertex = true ∧
          vertex.parent = some region.id ∧ vertex.slot = some .vertices := by
  rcases cases_of_mem_nodes h with
    rfl | ⟨hregion, rfl | ⟨k, vertex, rfl⟩ | ⟨k, a, b, label, rfl, ⟨x, hx⟩, y, hy⟩ |
      ⟨k, label, rfl⟩⟩
  · cases hf
  · cases hf
  · obtain ⟨s, hs⟩ := exists_text_of_mem_vertexNode hf
    cases hs
  · rcases List.mem_pair.mp hf with hf | hf <;> cases hf
    · exact ⟨rfl, .inl rfl, _, hregion, rfl, rfl, _, hx, rfl, isVertex_vertexNode _ _ x, rfl, rfl⟩
    · exact ⟨rfl, .inr rfl, _, hregion, rfl, rfl, _, hy, rfl, isVertex_vertexNode _ _ y, rfl, rfl⟩
  · cases hf

/-- The references of an interaction are those of its messages, and lead to lifelines in the
interaction of the message. -/
lemma Interaction.reference_of_mem_nodes {root : NodeId} {names : Names} {n : ℕ} {es : List Edge}
    {node : Node} (h : node ∈ nodes root names n es) {key : String} {id : NodeId}
    (hf : (key, .reference id) ∈ node.fields) :
    node.kind = .message ∧ (key = "source" ∨ key = "target") ∧
      ∃ interaction ∈ nodes root names n es, interaction.kind = .interaction ∧
        node.parent = some interaction.id ∧
        ∃ lifeline ∈ nodes root names n es, lifeline.id = id ∧ lifeline.kind = .lifeline ∧
          lifeline.parent = some interaction.id ∧ lifeline.slot = some .participants := by
  rcases cases_of_mem_nodes h with
    rfl | ⟨hinteraction, rfl | rfl | ⟨k, lifeline, rfl⟩ | ⟨k, a, b, label, rfl, ⟨x, hx⟩, y, hy⟩⟩
  · cases hf
  · cases hf
  · cases hf
  · cases hf
  · rcases List.mem_pair.mp hf with hf | hf <;> cases hf
    · exact ⟨rfl, .inl rfl, _, hinteraction, rfl, rfl, _, hx, rfl, rfl, rfl, rfl⟩
    · exact ⟨rfl, .inr rfl, _, hinteraction, rfl, rfl, _, hy, rfl, rfl, rfl, rfl⟩

/-! ## The references of an assembly -/

namespace Assembly

/-- The nodes of a document to which a reference in a field of a node may lead.  Only certain types
of nodes have references. -/
def Suits (a : Assembly) (node : Node) (key : String) (target : Node) : Prop :=
  match node.kind with
  | .attributeNode | .parameter => key = "type" ∧ target ∈ a.classifiers
  | .generalization | .interfaceRealization =>
    target ∈ a.classifiers ∧ (key = "source" ∧ node.parent = some target.id ∨ key = "target")
  | .associationEnd =>
    target ∈ a.classifiers ∧ key = "reference" ∧
      (node.slot = some .endTwo ∨ node.slot = some .endOne ∧
        ∃ association ∈ a.document.nodes.toList, association.kind = .association ∧
          node.parent = some association.id ∧ association.parent = some target.id)
  | .transition =>
    (key = "source" ∨ key = "target") ∧ target.kind.isVertex = true ∧
      ∃ region ∈ a.document.nodes.toList, region.kind = .region ∧ node.parent = some region.id ∧
        target ∈ a.document.childrenIn region.id .vertices
  | .message =>
    (key = "source" ∨ key = "target") ∧ target.kind = .lifeline ∧
      ∃ interaction ∈ a.document.nodes.toList, interaction.kind = .interaction ∧
        node.parent = some interaction.id ∧
        target ∈ a.document.childrenIn interaction.id .participants
  | _ => False

variable {config : AssemblyConfig} {ds : List Declaration} {a : Assembly}

namespace Follows

/-- A node of the document has plain fields, or it comes from a declaration, or it is in the
blueprint as it is. -/
lemma plain_or_drawn (h : Follows config ds a) {node : Node} (hn : node ∈ a.document.nodes.toList) :
    (∀ field ∈ node.fields, field.2.IsPlain) ∨
      (∃ drawn ∈ classNodes config ds, node.bare = drawn.resolve (bindings config ds)) ∨
      node.bare ∈ diagramNodes config ds := by
  have hbare : node.bare ∈ a.document.outline := List.mem_map_of_mem hn
  rw [h.outline] at hbare
  obtain ⟨drawn, hd, he⟩ := List.mem_map.mp hbare
  have hfields := congrArg Node.fields he
  rw [Node.bare_fields] at hfields
  simp only [blueprint, modelNodes, List.cons_append, List.nil_append, List.mem_cons,
    List.mem_append] at hd
  rcases hd with rfl | rfl | rfl | hd | hd
  · left
    intro field hfield
    rw [← hfields] at hfield
    cases hfield
  · left
    intro field hfield
    rw [← hfields] at hfield
    cases hfield
  · left
    intro field hfield
    rw [← hfields] at hfield
    rw [List.mem_singleton.mp hfield]
    exact .inr ⟨true, rfl⟩
  · exact .inr (.inl ⟨drawn, hd, he.symm⟩)
  · right
    right
    rw [(isSettled_of_mem_diagramNodes hd).resolve] at he
    exact he ▸ hd

lemma exists_of_mem_blueprint (h : Follows config ds a) {drawn : Node}
    (hd : drawn ∈ blueprint config ds) :
    ∃ node ∈ a.document.nodes.toList, node.bare = drawn.resolve (bindings config ds) := by
  have hresolved : drawn.resolve (bindings config ds) ∈ a.document.outline := by
    rw [h.outline]
    exact List.mem_map_of_mem hd
  exact List.mem_map.mp hresolved

/-- The nodes of diagrams are in the document as they are in the blueprint. -/
lemma exists_of_mem_diagramNodes (h : Follows config ds a) {drawn : Node}
    (hd : drawn ∈ diagramNodes config ds) :
    ∃ node ∈ a.document.nodes.toList, node.bare = drawn := by
  have hblueprint : drawn ∈ blueprint config ds := by
    simp [blueprint, hd]
  obtain ⟨node, hn, he⟩ := h.exists_of_mem_blueprint hblueprint
  exact ⟨node, hn, he.trans ((isSettled_of_mem_diagramNodes hd).resolve _)⟩

/-- What a name of the declarations is bound to is a class or interface of the model. -/
lemma exists_classifier (h : Follows config ds a) (hf : ds.findSome? Declaration.fault? = none)
    {id : NodeId} (hid : ∃ name, (bindings config ds).resolve name = some id) :
    ∃ target ∈ a.classifiers, a.document.get? id = some target ∧ target.id = id := by
  obtain ⟨name, hname⟩ := hid
  obtain ⟨target, hlast, rfl⟩ := h.exists_lastNamed hf hname
  have hmem := mem_classifiers_of_lastNamed hlast
  rw [h.classifiers_eq] at hmem
  refine ⟨target, mem_classifiers_of_lastNamed hlast, ?_, rfl⟩
  exact h.sound.get?_of_mem (List.mem_of_mem_filter hmem)

lemma suits_of_mem_classNodes (h : Follows config ds a)
    (hf : ds.findSome? Declaration.fault? = none) {node drawn : Node}
    (hd : drawn ∈ classNodes config ds) (he : node.bare = drawn.resolve (bindings config ds))
    {key : String} {id : NodeId} (hr : (key, .reference id) ∈ node.fields) :
    ∃ target, a.document.get? id = some target ∧ a.Suits node key target := by
  obtain ⟨d, -, k, -, hd, -⟩ := exists_of_mem_chain hd
  have hfields := congrArg Node.fields he
  have hnode := congrArg Node.kind he
  rw [Node.bare_fields] at hfields
  rw [Node.bare_kind] at hnode
  rw [hfields] at hr
  obtain ⟨hkind, rfl, hname⟩ := (Declaration.isOpen_of_mem_nodes hd).reference_resolve hr
  obtain ⟨target, htarget, hget, -⟩ := h.exists_classifier hf hname
  refine ⟨target, hget, ?_⟩
  unfold Suits
  rcases hkind with hk | hk <;> rw [hnode, show (drawn.resolve _).kind = _ from hk] <;>
    exact ⟨rfl, htarget⟩

lemma suits_of_mem_relationshipNodes (h : Follows config ds a)
    (hf : ds.findSome? Declaration.fault? = none) {node : Node}
    (hd : node.bare ∈ relationshipNodes config ds) {key : String} {id : NodeId}
    (hr : (key, .reference id) ∈ node.fields) :
    ∃ target, a.document.get? id = some target ∧ a.Suits node key target := by
  obtain ⟨r, -, k, -, hd, hsub⟩ := exists_of_mem_chain hd
  obtain ⟨hname, hcases⟩ := Relationship.reference_of_mem_nodes hd hr
  obtain ⟨target, htarget, hget, rfl⟩ := h.exists_classifier hf hname
  refine ⟨target, hget, ?_⟩
  simp only [Node.bare_kind, Node.bare_parent, Node.bare_slot] at hcases
  unfold Suits
  rcases hcases with ⟨hk | hk, hkey⟩ | ⟨hk, rfl, hslot⟩ <;> rw [hk]
  · exact ⟨htarget, hkey⟩
  · exact ⟨htarget, hkey⟩
  · refine ⟨htarget, rfl, hslot.imp_right fun ⟨hone, drawn, hdrawn, hkind, hparent, hown⟩ => ?_⟩
    obtain ⟨association, ha, rfl⟩ :=
      h.exists_of_mem_diagramNodes (List.mem_append_left _ (hsub hdrawn))
    exact ⟨hone, association, ha, hkind, hparent, hown⟩

lemma suits_of_mem_stateMachineNodes (h : Follows config ds a) {node : Node}
    (hd : node.bare ∈ stateMachineNodes config ds) {key : String} {id : NodeId}
    (hr : (key, .reference id) ∈ node.fields) :
    ∃ target, a.document.get? id = some target ∧ a.Suits node key target := by
  have hdiagram : stateMachineNodes config ds ⊆ diagramNodes config ds := fun _ hn =>
    List.mem_append_right _ (List.mem_append_left _ hn)
  obtain ⟨hk, hkey, _, hdr, hregion, hparent, _, hdt, rfl, hvertex, htp, hts⟩ :=
    StateMachine.reference_of_mem_nodes hd hr
  obtain ⟨region, hmem, rfl⟩ := h.exists_of_mem_diagramNodes (hdiagram hdr)
  obtain ⟨target, ht, rfl⟩ := h.exists_of_mem_diagramNodes (hdiagram hdt)
  refine ⟨target, h.sound.get?_of_mem ht, ?_⟩
  unfold Suits
  rw [show node.kind = .transition from hk]
  exact ⟨hkey, hvertex, region, hmem, hregion, hparent,
    h.sound.mem_childrenIn_iff.mpr ⟨ht, htp, hts⟩⟩

lemma suits_of_mem_interactionNodes (h : Follows config ds a) {node : Node}
    (hd : node.bare ∈ interactionNodes config ds) {key : String} {id : NodeId}
    (hr : (key, .reference id) ∈ node.fields) :
    ∃ target, a.document.get? id = some target ∧ a.Suits node key target := by
  have hdiagram : interactionNodes config ds ⊆ diagramNodes config ds := fun _ hn =>
    List.mem_append_right _ (List.mem_append_right _ hn)
  obtain ⟨hk, hkey, _, hdi, hinteraction, hparent, _, hdt, rfl, hlifeline, htp, hts⟩ :=
    Interaction.reference_of_mem_nodes hd hr
  obtain ⟨interaction, hmem, rfl⟩ := h.exists_of_mem_diagramNodes (hdiagram hdi)
  obtain ⟨target, ht, rfl⟩ := h.exists_of_mem_diagramNodes (hdiagram hdt)
  refine ⟨target, h.sound.get?_of_mem ht, ?_⟩
  unfold Suits
  rw [show node.kind = .message from hk]
  exact ⟨hkey, hlifeline, interaction, hmem, hinteraction, hparent,
    h.sound.mem_childrenIn_iff.mpr ⟨ht, htp, hts⟩⟩

/-- A reference leads to a node that suits the field. -/
lemma exists_target (h : Follows config ds a) (hf : ds.findSome? Declaration.fault? = none)
    {node : Node} (hn : node ∈ a.document.nodes.toList) {key : String} {id : NodeId}
    (hr : (key, .reference id) ∈ node.fields) :
    ∃ target, a.document.get? id = some target ∧ a.Suits node key target := by
  rcases h.plain_or_drawn hn with hplain | ⟨drawn, hd, he⟩ | hd
  · rcases hplain _ hr with ⟨s, hs⟩ | ⟨b, hb⟩
    · cases hs
    · cases hb
  · exact h.suits_of_mem_classNodes hf hd he hr
  · rcases List.mem_append.mp hd with hd | hd
    · exact h.suits_of_mem_relationshipNodes hf hd hr
    · rcases List.mem_append.mp hd with hd | hd
      · exact h.suits_of_mem_stateMachineNodes hd hr
      · exact h.suits_of_mem_interactionNodes hd hr

lemma exists_model (h : Follows config ds a) :
    ∃ model ∈ a.document.nodes.toList, model.id = a.model ∧ model.kind = .model := by
  have hd : (modelDraft config).node (modelId config) (projectId config) .ownedElements ∈
      blueprint config ds := by
    simp [blueprint, modelNodes]
  obtain ⟨model, hmem, he⟩ := h.exists_of_mem_blueprint hd
  have hid := congrArg Node.id he
  have hkind := congrArg Node.kind he
  rw [Node.bare_id] at hid
  rw [Node.bare_kind] at hkind
  exact ⟨model, hmem, hid.trans h.model.symm, hkind⟩

/-- The nodes of declarations are below the model. -/
lemma mem_subtree_of_mem_classNodes (h : Follows config ds a) {node drawn : Node}
    (hd : drawn ∈ classNodes config ds) (he : node.bare = drawn.resolve (bindings config ds)) :
    node.id ∈ a.document.subtree a.model := by
  obtain ⟨model, hmem, hid, -⟩ := h.exists_model
  have hsub : (classNodes config ds).map (Node.resolve (bindings config ds)) ⊆
      a.document.outline := by
    rw [h.outline]
    refine List.map_subset _ fun other ho => ?_
    simp [blueprint, ho]
  have hhangs : Document.Hangs model.id
      ((classNodes config ds).map (Node.resolve (bindings config ds))) := by
    rw [hid, h.model]
    exact (hangs_classNodes config ds).map (fun _ => rfl) fun _ => rfl
  have hbare : node.bare ∈ (classNodes config ds).map (Node.resolve (bindings config ds)) := by
    rw [he]
    exact List.mem_map_of_mem hd
  have hbelow := h.sound.mem_subtree_of_hangs hmem hsub hhangs hbare
  rwa [hid, Node.bare_id] at hbelow

end Follows

/-- Every reference in the document of an assembly leads to a node of the document that suits the
field, and names are only left below the model. -/
theorem references_suit (h : assemble config ds = .ok a) :
    (∀ node ∈ a.document.nodes.toList, ∀ key id, (key, .reference id) ∈ node.fields →
      ∃ target, a.document.get? id = some target ∧ a.Suits node key target) ∧
    (∀ node ∈ a.document.nodes.toList, ∀ key name, (key, .symbol name) ∈ node.fields →
      node.id ∈ a.document.subtree a.model) ∧
    ∃ model, a.document.get? a.model = some model ∧ model.kind = .model := by
  obtain ⟨hf, hfollows⟩ := follows_of_ok h
  refine ⟨?_, ?_, ?_⟩
  · intro node hn key id hr
    exact hfollows.exists_target hf hn hr
  · intro node hn key name hname
    rcases hfollows.plain_or_drawn hn with hplain | ⟨drawn, hd, he⟩ | hd
    · rcases hplain _ hname with ⟨s, hs⟩ | ⟨b, hb⟩
      · cases hs
      · cases hb
    · exact hfollows.mem_subtree_of_mem_classNodes hd he
    · exact absurd rfl (isSettled_of_mem_diagramNodes hd _ hname name)
  · obtain ⟨model, hmem, hid, hkind⟩ := hfollows.exists_model
    exact ⟨model, hid ▸ hfollows.sound.get?_of_mem hmem, hkind⟩

/-- Of a class with a field of a declared type and a method with a message, the type of the
attribute leads to the interface, and the message to its second lifeline. -/
theorem references_suit_of_type_and_message :
    let ds : List Declaration :=
      [{ kind := .classType, name := "A", members := [.field ⟨"f", [], .named "B"⟩,
          .method ⟨"m", [], .named "void", [], [.group .message [⟨"p", .many ["q"]⟩]]⟩] },
       { kind := .interfaceType, name := "B" }]
    ∃ a, assemble { seed := 1 } ds = .ok a ∧
      (∃ node target, a.document.get? ⟨5⟩ = some node ∧ a.document.get? ⟨8⟩ = some target ∧
        a.Suits node "type" target) ∧
      ∃ node target, a.document.get? ⟨17⟩ = some node ∧ a.document.get? ⟨16⟩ = some target ∧
        a.Suits node "target" target := by
  intro ds
  have hf : ds.findSome? Declaration.fault? = none := by decide
  obtain ⟨a, ha, hfollows⟩ := @assemble_of_nodeCount_le { seed := 1 } ds hf (by decide)
  have hsuits : ∀ key id other, (∃ drawn ∈
        (blueprint { seed := 1 } ds).map (Node.resolve (bindings { seed := 1 } ds)),
        drawn.id = id ∧ (key, .reference other) ∈ drawn.fields) →
      ∃ node target, a.document.get? id = some node ∧ a.document.get? other = some target ∧
        a.Suits node key target := by
    rintro key _ other ⟨drawn, hd, rfl, hr⟩
    rw [← hfollows.outline] at hd
    obtain ⟨node, hn, rfl⟩ := List.mem_map.mp hd
    obtain ⟨target, hget, hsuits⟩ := (references_suit ha).1 node hn key other hr
    exact ⟨node, target, hfollows.sound.get?_of_mem hn, hget, hsuits⟩
  exact ⟨a, ha, hsuits "type" ⟨5⟩ ⟨8⟩ (by decide), hsuits "target" ⟨17⟩ ⟨16⟩ (by decide)⟩

end Assembly

end JavaUml
