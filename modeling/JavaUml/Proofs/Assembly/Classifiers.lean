/-
# The classes of an assembled model

The model of an assembly has its class diagram and, for each declaration in order, a class or
interface.  This has an attribute for each field and an operation for each method, also in order,
and an operation has a parameter for its result before the parameters of the method.  Modifiers
become fields of these nodes, and a type becomes a reference if its text is the name of a
declaration (`declarations_correspond`).

The relationships, which come to the same classes later, are in another collection
(`NodeKind.collections`), and so are the nodes of the other diagrams.
-/
import JavaUml.Proofs.Assembly.Members
import JavaUml.Proofs.Assembly.Text

namespace JavaUml

/-! ## Fields of nodes -/

/-- The first modifier, white space around it aside, that is one of the words for visibilities. -/
def visibilityWord? (modifiers : List String) : Option String :=
  (modifiers.map Text.trim).find? fun word => word ∈ ["private", "protected", "public"]

lemma map_word_ofModifiers? (modifiers : List String) :
    (Visibility.ofModifiers? modifiers).map Visibility.word = visibilityWord? modifiers := by
  induction modifiers with
  | nil => rfl
  | cons modifier modifiers ih =>
    rw [Visibility.ofModifiers?, visibilityWord?] at ih ⊢
    rw [List.findSome?_cons, List.map_cons, List.find?_cons, Visibility.ofModifier?]
    generalize Text.trim modifier = word
    by_cases hpublic : word = "public"
    · subst hpublic
      rfl
    by_cases hprotected : word = "protected"
    · subst hprotected
      rfl
    by_cases hprivate : word = "private"
    · subst hprivate
      rfl
    · have hnone : (Visibility.all.find? fun visibility => visibility.word == word) = none := by
        simp [Visibility.all, Visibility.word, Ne.symm hpublic, Ne.symm hprotected,
          Ne.symm hprivate]
      have hword : word ∉ ["private", "protected", "public"] := by
        simp [hpublic, hprotected, hprivate]
      simp only [hnone, decide_eq_false hword]
      exact ih

lemma lookup_singleton {α : Type} (key other : String) (value : α) :
    [(key, value)].lookup other = if other = key then some value else none := by
  by_cases hkey : other = key
  · simp [hkey]
  · simp [hkey, List.lookup_cons, beq_false_of_ne hkey]

lemma lookup_visibilityField (modifiers : List String) (key : String) :
    (visibilityField modifiers).lookup key =
      if key = "visibility" then (visibilityWord? modifiers).map .text else none := by
  rw [visibilityField, ← map_word_ofModifiers?]
  cases Visibility.ofModifiers? modifiers with
  | none => simp
  | some visibility => exact lookup_singleton _ _ _

lemma lookup_flagField (key other : String) (present : Bool) :
    (flagField key present).lookup other =
      if other = key ∧ present = true then some (.flag true) else none := by
  cases present with
  | false => simp [flagField]
  | true => simp [flagField, lookup_singleton]

lemma Field.lookup_fields (f : Field) (key : String) : f.draft.fields.lookup key =
    ((if key = "visibility" then (visibilityWord? f.modifiers).map .text else none).or
      (if key = "isStatic" ∧ f.modifiers.contains "static" = true then some (.flag true)
        else none)).or (if key = "type" then some (typeField f.type).2 else none) := by
  rw [draft, List.lookup_append, List.lookup_append, lookup_visibilityField, lookup_flagField,
    typeField, lookup_singleton]

lemma Method.lookup_fields (m : Method) (key : String) : m.draft.fields.lookup key =
    ((if key = "visibility" then (visibilityWord? m.modifiers).map .text else none).or
      (if key = "isStatic" ∧ m.modifiers.contains "static" = true then some (.flag true)
        else none)).or
      (if key = "isAbstract" ∧ m.modifiers.contains "abstract" = true then some (.flag true)
        else none) := by
  rw [draft, List.lookup_append, List.lookup_append, lookup_visibilityField, lookup_flagField,
    lookup_flagField, hasModifier, hasModifier]

/-- A field of a node that is drawn from a draft, after names were replaced. -/
lemma Node.field?_of_bare {node : Node} {draft : NodeDraft} {id parent : NodeId} {slot : Slot}
    {table : NameTable} (h : node.bare = (draft.node id parent slot).resolve table) (key : String) :
    node.field? key = (draft.fields.lookup key).map (Value.resolve table) := by
  have hfields : node.fields = draft.fields.map fun field => (field.1, field.2.resolve table) :=
    congrArg Node.fields h
  rw [field?, hfields]
  induction draft.fields with
  | nil => rfl
  | cons field fields ih =>
    rw [List.map_cons, List.lookup_cons, List.lookup_cons]
    cases key == field.1 with
    | true => rfl
    | false => exact ih

/-! ## Collections -/

/-- The collections in which nodes of a type are. -/
def NodeKind.collections : NodeKind → List Slot
  | project => []
  | attributeNode => [.attributes]
  | operation => [.operations]
  | parameter => [.parameters]
  | associationEnd => [.endOne, .endTwo]
  | region => [.regions]
  | state | pseudostate | finalState => [.vertices]
  | transition => [.transitions]
  | event => [.triggers]
  | lifeline => [.participants]
  | message => [.messages]
  | _ => [.ownedElements]

/-- A node that is in a collection is in one for its type. -/
def Node.IsCollected (node : Node) : Prop :=
  ∀ slot, node.slot = some slot → slot ∈ node.kind.collections

lemma NodeDraft.isCollected_node {draft : NodeDraft} {slot : Slot}
    (h : slot ∈ draft.kind.collections) (id parent : NodeId) :
    (draft.node id parent slot).IsCollected := by
  intro other hother
  obtain rfl : slot = other := Option.some.inj hother
  exact h

lemma Declaration.isCollected_of_mem_nodes {owner : NodeId} {n : ℕ} {d : Declaration} {node : Node}
    (h : node ∈ d.nodes owner n) : node.IsCollected := by
  rcases List.mem_cons.mp h with rfl | h
  · refine NodeDraft.isCollected_node ?_ _ _
    rw [draft]
    cases d.kind <;> exact List.mem_cons_self
  · obtain ⟨member, -, k, -, hm, -⟩ := exists_of_mem_chain h
    rcases Member.cases_of_mem_nodes hm with ⟨f, rfl⟩ | ⟨m, rfl⟩ | ⟨t, rfl⟩ | ⟨p, i, rfl⟩ <;>
      exact NodeDraft.isCollected_node List.mem_cons_self _ _

/-- The attributes and operations of a class are below it, and parameters are below operations. -/
lemma Declaration.parent_of_mem_nodes {owner : NodeId} {n : ℕ} {d : Declaration} {node : Node}
    (h : node ∈ d.nodes owner n) :
    node = d.draft.node ⟨n⟩ owner .ownedElements ∨
      (node.kind = .attributeNode ∨ node.kind = .operation) ∧ node.parent = some ⟨n⟩ ∨
      node.kind = .parameter ∧ ∃ operation ∈ d.nodes owner n,
        operation.kind = .operation ∧ node.parent = some operation.id := by
  rcases List.mem_cons.mp h with rfl | h
  · exact .inl rfl
  right
  obtain ⟨member, -, k, -, hm, hsub⟩ := exists_of_mem_chain h
  cases member with
  | field f =>
    obtain rfl := List.mem_singleton.mp hm
    exact .inl ⟨.inl rfl, rfl⟩
  | method m =>
    have hoperation : m.draft.node ⟨k⟩ ⟨n⟩ .operations ∈ d.nodes owner n :=
      List.mem_cons_of_mem _ (hsub List.mem_cons_self)
    rcases List.mem_cons.mp hm with rfl | hm
    · exact .inl ⟨.inr rfl, rfl⟩
    rcases List.mem_cons.mp hm with rfl | hm
    · exact .inr ⟨rfl, _, hoperation, rfl, rfl⟩
    · obtain ⟨p, -, i, -, hp, -⟩ := exists_of_mem_chain hm
      obtain rfl := List.mem_singleton.mp hp
      exact .inr ⟨rfl, _, hoperation, rfl, rfl⟩
  | other => cases hm

lemma Relationship.isCollected_of_mem_nodes {bindings : NameTable} {n : ℕ} {r : Relationship}
    {node : Node} (h : node ∈ r.nodes bindings n) : node.IsCollected := by
  obtain ⟨source, target, -, ⟨kind, rfl | rfl, rfl⟩ | ⟨-, rfl | rfl | rfl⟩⟩ := cases_of_mem_nodes h
  · exact NodeDraft.isCollected_node List.mem_cons_self _ _
  · exact NodeDraft.isCollected_node List.mem_cons_self _ _
  · exact NodeDraft.isCollected_node List.mem_cons_self _ _
  · exact NodeDraft.isCollected_node List.mem_cons_self _ _
  · exact NodeDraft.isCollected_node (List.mem_cons_of_mem _ List.mem_cons_self) _ _

lemma StateMachine.isCollected_of_mem_nodes {root : NodeId} {name : String} {n : ℕ}
    {es : List Edge} {node : Node} (h : node ∈ nodes root name n es) : node.IsCollected := by
  rcases cases_of_mem_nodes h with
    rfl | ⟨-, rfl | ⟨k, vertex, rfl⟩ | ⟨k, a, b, label, rfl, -, -⟩ | ⟨k, label, rfl⟩⟩
  · exact NodeDraft.isCollected_node List.mem_cons_self _ _
  · exact NodeDraft.isCollected_node List.mem_cons_self _ _
  · refine NodeDraft.isCollected_node ?_ _ _
    cases VertexKind.ofName vertex <;> exact List.mem_cons_self
  · exact NodeDraft.isCollected_node List.mem_cons_self _ _
  · exact NodeDraft.isCollected_node List.mem_cons_self _ _

lemma Interaction.isCollected_of_mem_nodes {root : NodeId} {names : Names} {n : ℕ}
    {es : List Edge} {node : Node} (h : node ∈ nodes root names n es) : node.IsCollected := by
  rcases cases_of_mem_nodes h with
    rfl | ⟨-, rfl | rfl | ⟨k, lifeline, rfl⟩ | ⟨k, a, b, label, rfl, -, -⟩⟩ <;>
    exact NodeDraft.isCollected_node List.mem_cons_self _ _

lemma Node.Belongs.kind_ne_model {part : Part} {node : Node} (h : node.Belongs part)
    (hpart : part ≠ .frame) : node.kind ≠ .model := by
  intro hkind
  apply hpart
  rw [← h.part, hkind]
  rfl

namespace Assembly

variable {config : AssemblyConfig} {ds : List Declaration}

lemma isCollected_of_mem_partNodes {part : Part} {node : Node}
    (h : node ∈ partNodes config ds part) : node.IsCollected := by
  cases part with
  | frame =>
    simp only [partNodes, modelNodes, List.mem_cons, List.not_mem_nil, or_false] at h
    rcases h with rfl | rfl | rfl
    · intro slot hslot
      cases hslot
    · exact NodeDraft.isCollected_node List.mem_cons_self _ _
    · exact NodeDraft.isCollected_node List.mem_cons_self _ _
  | declarations =>
    obtain ⟨d, -, k, -, hd, -⟩ := exists_of_mem_chain h
    exact Declaration.isCollected_of_mem_nodes hd
  | relationships =>
    obtain ⟨r, -, k, -, hr, -⟩ := exists_of_mem_chain h
    exact Relationship.isCollected_of_mem_nodes hr
  | stateMachine => exact StateMachine.isCollected_of_mem_nodes h
  | interaction => exact Interaction.isCollected_of_mem_nodes h

/-- What is in a collection that only nodes of one part are in is to be looked for in this part. -/
lemma filter_isIn_blueprint {part : Part} {slot : Slot}
    (hpart : ∀ kind : NodeKind, slot ∈ kind.collections → kind.part = part) (id : NodeId) :
    (blueprint config ds).filter (Node.isIn id slot) =
      (partNodes config ds part).filter (Node.isIn id slot) := by
  refine filter_blueprint_of_mem part fun other node hn hin => ?_
  have hslot : node.slot = some slot := by
    simpa using (Bool.and_eq_true_iff.mp hin).1
  rw [← (belongs_of_mem_partNodes hn).part]
  exact hpart node.kind (isCollected_of_mem_partNodes hn slot hslot)

end Assembly

/-! ## The class model of an assembly -/

namespace Assembly

/-- What a type becomes in a field: a reference to the last class or interface that has its text as
name, and this text if there is none. -/
def typeValue (a : Assembly) (t : TypeRef) : Value :=
  match a.lastNamed t.text with
  | some node => .reference node.id
  | none => .symbol t.text

end Assembly

/-- A node depicts a field. -/
structure Field.Depicts (a : Assembly) (f : Field) (node : Node) : Prop where
  kind : node.kind = .attributeNode
  name : node.name = some f.name
  visibility : node.field? "visibility" = (visibilityWord? f.modifiers).map .text
  static : node.field? "isStatic" = if "static" ∈ f.modifiers then some (.flag true) else none
  abstract : node.field? "isAbstract" = none
  type : node.field? "type" = some (a.typeValue f.type)

/-- A node is the parameter for the result of a method. -/
structure TypeRef.DepictsResult (a : Assembly) (t : TypeRef) (node : Node) : Prop where
  kind : node.kind = .parameter
  name : node.name = none
  fields : node.fields = [("type", a.typeValue t), ("direction", .text "return")]

/-- A node depicts a parameter. -/
structure Parameter.Depicts (a : Assembly) (p : Parameter) (node : Node) : Prop where
  kind : node.kind = .parameter
  name : node.name = some p.name
  fields : node.fields = [("type", a.typeValue p.type)]

/-- A node depicts a method, with the parameters below it. -/
structure Method.Depicts (a : Assembly) (m : Method) (node : Node) : Prop where
  kind : node.kind = .operation
  name : node.name = some m.name
  visibility : node.field? "visibility" = (visibilityWord? m.modifiers).map .text
  static : node.field? "isStatic" = if "static" ∈ m.modifiers then some (.flag true) else none
  abstract : node.field? "isAbstract" = if "abstract" ∈ m.modifiers then some (.flag true) else none
  parameters : ∃ result rest, a.document.childrenIn node.id .parameters = result :: rest ∧
    m.returnType.DepictsResult a result ∧ List.Forall₂ (Parameter.Depicts a) m.parameters rest

/-- A node depicts a declaration, with the members below it. -/
structure Declaration.Depicts (a : Assembly) (d : Declaration) (node : Node) : Prop where
  kind : node.kind = match d.kind with
    | .classType => .classNode
    | .interfaceType => .interfaceNode
  name : node.name = some d.name
  abstract : node.field? "isAbstract" =
    if d.kind = .classType ∧ "abstract" ∈ d.modifiers then some (.flag true) else none
  attributes : List.Forall₂ (Field.Depicts a) d.fields (a.document.childrenIn node.id .attributes)
  operations : List.Forall₂ (Method.Depicts a) d.methods (a.document.childrenIn node.id .operations)

namespace Assembly

variable {config : AssemblyConfig} {ds : List Declaration} {a : Assembly}

namespace Follows

/-- The collections of members in the document are those in the blueprint. -/
lemma map_bare_childrenIn_members (h : Follows config ds a) {slot : Slot}
    (hslot : slot = .attributes ∨ slot = .operations ∨ slot = .parameters) (id : NodeId) :
    (a.document.childrenIn id slot).map Node.bare =
      ((classNodes config ds).filter (Node.isIn id slot)).map
        (Node.resolve (bindings config ds)) := by
  have hpart : ∀ kind : NodeKind, slot ∈ kind.collections → kind.part = .declarations := by
    rcases hslot with rfl | rfl | rfl <;> intro kind hkind <;> cases kind <;> first
      | rfl
      | simp [NodeKind.collections] at hkind
  have hbare := h.map_bare_filter (p := Node.isIn id slot) (fun _ => rfl) fun _ => rfl
  rw [Document.childrenIn, h.sound.childrenOf_eq, List.filter_filter]
  rw [filter_isIn_blueprint hpart] at hbare
  exact hbare

lemma resolve_typeField (h : Follows config ds a) (hf : ds.findSome? Declaration.fault? = none)
    (t : TypeRef) : (typeField t).2.resolve (bindings config ds) = a.typeValue t := by
  rw [typeField, Value.resolve, typeValue, ← h.lastNamed_map_id hf]
  cases a.lastNamed t.text <;> rfl

lemma depicts_field (h : Follows config ds a) (hf : ds.findSome? Declaration.fault? = none)
    {f : Field} {classNode : NodeId} {node drawn : Node} (hd : f.Drawn classNode drawn)
    (hnode : node.bare = drawn.resolve (bindings config ds)) : f.Depicts a node := by
  obtain ⟨n, rfl⟩ := hd
  have hfield := Node.field?_of_bare hnode
  simp only [Field.lookup_fields] at hfield
  refine ⟨congrArg Node.kind hnode, congrArg Node.name hnode, ?_, ?_, ?_, ?_⟩
  · rw [hfield]
    cases visibilityWord? f.modifiers <;> simp [Value.resolve]
  · rw [hfield]
    by_cases hstatic : "static" ∈ f.modifiers <;> simp [hstatic, Value.resolve]
  · rw [hfield]
    rfl
  · rw [hfield]
    simp [h.resolve_typeField hf]

lemma depicts_result (h : Follows config ds a) (hf : ds.findSome? Declaration.fault? = none)
    {t : TypeRef} {id operation : NodeId} {node : Node}
    (hnode : node.bare =
      ((returnDraft t).node id operation .parameters).resolve (bindings config ds)) :
    t.DepictsResult a node := by
  refine ⟨congrArg Node.kind hnode, congrArg Node.name hnode, ?_⟩
  have hfields : node.fields =
      [("type", (typeField t).2.resolve (bindings config ds)), ("direction", .text "return")] :=
    congrArg Node.fields hnode
  rw [hfields, h.resolve_typeField hf]

lemma depicts_parameter (h : Follows config ds a) (hf : ds.findSome? Declaration.fault? = none)
    {p : Parameter} {operation : NodeId} {node drawn : Node} (hd : p.Drawn operation drawn)
    (hnode : node.bare = drawn.resolve (bindings config ds)) : p.Depicts a node := by
  obtain ⟨n, rfl⟩ := hd
  refine ⟨congrArg Node.kind hnode, congrArg Node.name hnode, ?_⟩
  have hfields : node.fields = [("type", (typeField p.type).2.resolve (bindings config ds))] :=
    congrArg Node.fields hnode
  rw [hfields, h.resolve_typeField hf]

/-- What is drawn in order in the blueprint is there in order in the document. -/
lemma forall₂_of_drawn {ι : Type} {R S : ι → Node → Prop} {xs : List ι} {nodes drawn : List Node}
    (hd : List.Forall₂ R xs drawn)
    (hnodes : nodes.map Node.bare = drawn.map (Node.resolve (bindings config ds)))
    (hRS : ∀ x node (drawn : Node), R x drawn →
      node.bare = drawn.resolve (bindings config ds) → S x node) :
    List.Forall₂ S xs nodes := by
  induction hd generalizing nodes with
  | nil =>
    obtain rfl : nodes = [] := by simpa using hnodes
    exact .nil
  | cons hR _ ih =>
    obtain ⟨node, rest, rfl, hnode, hrest⟩ := List.map_eq_cons_iff.mp hnodes
    exact .cons (hRS _ _ _ hR hnode) (ih hrest)

lemma depicts_method (h : Follows config ds a) (hf : ds.findSome? Declaration.fault? = none)
    {m : Method} {classNode : NodeId} {node drawn : Node}
    (hd : m.Drawn (classNodes config ds) classNode drawn)
    (hnode : node.bare = drawn.resolve (bindings config ds)) : m.Depicts a node := by
  obtain ⟨n, rfl, rest, hparameters, hrest⟩ := hd
  have hfield := Node.field?_of_bare hnode
  simp only [Method.lookup_fields] at hfield
  refine ⟨congrArg Node.kind hnode, congrArg Node.name hnode, ?_, ?_, ?_, ?_⟩
  · rw [hfield]
    cases visibilityWord? m.modifiers <;> simp [Value.resolve]
  · rw [hfield]
    by_cases hstatic : "static" ∈ m.modifiers <;> simp [hstatic, Value.resolve]
  · rw [hfield]
    by_cases habstract : "abstract" ∈ m.modifiers <;> simp [habstract, Value.resolve]
  · have hbare := h.map_bare_childrenIn_members (.inr (.inr rfl)) node.id
    rw [show node.id = ⟨n⟩ from congrArg Node.id hnode, hparameters] at hbare
    obtain ⟨result, others, hchildren, hresult, hothers⟩ := List.map_eq_cons_iff.mp hbare
    rw [show node.id = ⟨n⟩ from congrArg Node.id hnode]
    refine ⟨result, others, hchildren, h.depicts_result hf hresult, ?_⟩
    exact forall₂_of_drawn hrest hothers fun p node drawn => h.depicts_parameter hf

lemma depicts_declaration (h : Follows config ds a) (hf : ds.findSome? Declaration.fault? = none)
    {d : Declaration} {node drawn : Node}
    (hd : d.Drawn (classNodes config ds) (modelId config) drawn)
    (hnode : node.bare = drawn.resolve (bindings config ds)) : d.Depicts a node := by
  obtain ⟨n, rfl, hattributes, hoperations⟩ := hd
  have hid : node.id = ⟨n⟩ := congrArg Node.id hnode
  rw [← hid] at hattributes hoperations
  refine ⟨?_, congrArg Node.name hnode, ?_, ?_, ?_⟩
  · rw [show node.kind = d.kind.nodeKind from congrArg Node.kind hnode]
    cases d.kind <;> rfl
  · rw [Node.field?_of_bare hnode, Declaration.draft, lookup_flagField]
    cases d.kind <;> by_cases habstract : "abstract" ∈ d.modifiers <;>
      simp [habstract, Value.resolve]
  · exact forall₂_of_drawn hattributes (h.map_bare_childrenIn_members (.inl rfl) node.id)
      fun f node drawn => h.depicts_field hf
  · exact forall₂_of_drawn hoperations
      (h.map_bare_childrenIn_members (.inr (.inl rfl)) node.id)
      fun m node drawn => h.depicts_method hf

/-! ### The children of the model -/

lemma eq_of_id_eq (h : Follows config ds a) {node other : Node} (hn : node ∈ blueprint config ds)
    (ho : other ∈ blueprint config ds) (he : node.id = other.id) : node = other := by
  have hnodup : ((blueprint config ds).map Node.id).Nodup := by
    have hids := h.sound.nodup_ids
    rw [h.outline, List.map_map] at hids
    exact hids
  exact List.inj_on_of_nodup_map hnodup hn ho he

/-- The diagrams are not below the model, and the relationships are below its classes. -/
lemma parent_ne_of_mem_diagramNodes (h : Follows config ds a)
    (hf : ds.findSome? Declaration.fault? = none) {node : Node}
    (hn : node ∈ diagramNodes config ds) :
    node.parent ≠ some (modelId config) := by
  have hproject : projectNode config ∈ blueprint config ds := List.mem_cons_self
  have hlevel : (projectNode config).kind.level = 0 := rfl
  have howner : ∃ owner ∈ blueprint config ds, node.parent = some owner.id ∧
      owner.kind ≠ .model := by
    simp only [diagramNodes, List.mem_append] at hn
    rcases hn with hn | hn | hn
    · obtain ⟨r, -, k, -, hr, hsub⟩ := exists_of_mem_chain hn
      let classes := (blueprint config ds).filter fun owner => owner.kind.level = 2
      have hbound : ∀ name id, (bindings config ds).resolve name = some id →
          ∃ owner ∈ classes, owner.id = id ∧ owner.kind.level = 2 := by
        intro name id hid
        obtain ⟨owner, ho, he, hlevel⟩ := h.exists_of_resolve hf hid
        exact ⟨owner, List.mem_filter.mpr ⟨ho, by simpa using hlevel⟩, he, hlevel⟩
      obtain ⟨owner, ho, hparent, -⟩ := Relationship.isUnder_of_mem_nodes hbound hr
      rcases List.mem_append.mp ho with ho | ho
      · obtain ⟨ho, hlevel⟩ := List.mem_filter.mp ho
        refine ⟨owner, ho, hparent, fun hkind => ?_⟩
        rw [hkind] at hlevel
        cases hlevel
      · have hmem : owner ∈ relationshipNodes config ds := hsub ho
        exact ⟨owner, by simp [blueprint, diagramNodes, hmem], hparent,
          (Relationship.belongs_of_mem_nodes ho).kind_ne_model (by decide)⟩
    · obtain ⟨owner, ho, hparent, -⟩ := StateMachine.isUnder_of_mem_nodes hlevel hn
      rcases List.mem_cons.mp ho with rfl | ho
      · exact ⟨_, hproject, hparent, by simp [projectNode]⟩
      · have hmem : owner ∈ stateMachineNodes config ds := ho
        exact ⟨owner, by simp [blueprint, diagramNodes, hmem], hparent,
          (StateMachine.belongs_of_mem_nodes ho).kind_ne_model (by decide)⟩
    · obtain ⟨owner, ho, hparent, -⟩ := Interaction.isUnder_of_mem_nodes hlevel hn
      rcases List.mem_cons.mp ho with rfl | ho
      · exact ⟨_, hproject, hparent, by simp [projectNode]⟩
      · have hmem : owner ∈ interactionNodes config ds := ho
        exact ⟨owner, by simp [blueprint, diagramNodes, hmem], hparent,
          (Interaction.belongs_of_mem_nodes ho).kind_ne_model (by decide)⟩
  obtain ⟨owner, ho, hparent, hkind⟩ := howner
  intro hmodel
  have hid : owner.id = modelId config := Option.some.inj (hparent.symm.trans hmodel)
  have hmem : (modelDraft config).node (modelId config) (projectId config) .ownedElements ∈
      blueprint config ds := by
    simp [blueprint, modelNodes]
  exact hkind (congrArg Node.kind (h.eq_of_id_eq ho hmem hid))

/-- The children of the model are its class diagram and the classes and interfaces. -/
lemma map_bare_children_model (h : Follows config ds a)
    (hf : ds.findSome? Declaration.fault? = none) :
    (a.document.childrenOf a.model).map Node.bare =
      ((diagramDraft config).node ⟨config.seed.toNat + 2⟩ (modelId config) .ownedElements ::
        (classNodes config ds).filter fun node => decide (node.parent = some (modelId config))).map
          (Node.resolve (bindings config ds)) := by
  have hdiagrams : (diagramNodes config ds).filter
      (fun node => decide (node.parent = some (modelId config))) = [] := by
    rw [List.filter_eq_nil_iff]
    intro node hn
    simpa using h.parent_ne_of_mem_diagramNodes hf hn
  have hprojectId : projectId config ≠ modelId config := by
    simp [projectId, modelId]
  rw [h.sound.childrenOf_eq, h.model]
  rw [h.map_bare_filter (p := fun node => decide (node.parent = some (modelId config)))
    (fun _ => rfl) fun _ => rfl]
  simp [blueprint, modelNodes, projectNode, NodeDraft.node, hprojectId, hdiagrams]

lemma exists_of_mem_nodes (h : Follows config ds a) {node : Node}
    (hn : node ∈ a.document.nodes.toList) :
    ∃ part, ∃ drawn ∈ partNodes config ds part,
      drawn.resolve (bindings config ds) = node.bare := by
  have hbare : node.bare ∈ a.document.outline := List.mem_map_of_mem hn
  rw [h.outline] at hbare
  obtain ⟨drawn, hd, he⟩ := List.mem_map.mp hbare
  simp only [blueprint_eq, List.mem_append] at hd
  rcases hd with hd | hd | hd | hd | hd <;> exact ⟨_, drawn, hd, he⟩

/-- A node with a parent is in the collection for its type. -/
lemma mem_childrenIn_of_collections (h : Follows config ds a) {node : Node}
    (hn : node ∈ a.document.nodes.toList) {owner : NodeId} (hparent : node.parent = some owner)
    {slot : Slot} (hslot : node.kind.collections = [slot]) :
    node ∈ a.document.childrenIn owner slot := by
  have hplaced : ∃ other, node.slot = some other := by
    rcases h.sound.placed_of_mem hn with ⟨-, hnone⟩ | ⟨-, other, -, hother, -⟩
    · rw [hnone] at hparent
      cases hparent
    · exact ⟨other, hother⟩
  obtain ⟨other, hother⟩ := hplaced
  obtain ⟨part, drawn, hd, he⟩ := h.exists_of_mem_nodes hn
  have hkind : drawn.kind = node.kind := (congrArg Node.kind he :)
  have hcollected := isCollected_of_mem_partNodes hd other ((congrArg Node.slot he :).trans hother)
  rw [hkind, hslot, List.mem_singleton] at hcollected
  exact h.sound.mem_childrenIn_iff.mpr ⟨hn, hparent, hcollected ▸ hother⟩

/-- The members of the document are below those nodes that the blueprint has for them: attributes
and operations below a class or interface, and parameters below an operation. -/
lemma exists_owner (h : Follows config ds a) {node : Node} (hn : node ∈ a.document.nodes.toList)
    (hkind : node.kind = .attributeNode ∨ node.kind = .operation ∨ node.kind = .parameter) :
    ∃ owner ∈ a.document.nodes.toList, node.parent = some owner.id ∧
      if node.kind = .parameter then owner.kind = .operation else owner ∈ a.classifiers := by
  obtain ⟨part, drawn, hpart, he⟩ := h.exists_of_mem_nodes hn
  have hdrawn : drawn.kind = node.kind := (congrArg Node.kind he :)
  have hparent : drawn.parent = node.parent := (congrArg Node.parent he :)
  have hclass : drawn ∈ classNodes config ds := by
    have hdeclarations : part = .declarations := by
      rw [← (belongs_of_mem_partNodes hpart).part, hdrawn]
      rcases hkind with hk | hk | hk <;> rw [hk] <;> rfl
    rwa [hdeclarations] at hpart
  obtain ⟨d, -, k, -, hd, hsub⟩ := exists_of_mem_chain hclass
  have hexists : ∀ other ∈ d.nodes (modelId config) k, ∃ kept ∈ a.document.nodes.toList,
      kept.bare = other.resolve (bindings config ds) := by
    intro other ho
    have hmem : other ∈ classNodes config ds := hsub ho
    exact h.exists_of_mem_blueprint (by simp [blueprint, hmem])
  rcases Declaration.parent_of_mem_nodes hd with rfl | ⟨hmember, hp⟩ | ⟨hk, operation, ho, hok, hp⟩
  · -- the node of a declaration is none of a member
    rw [← hdrawn] at hkind
    cases hdk : d.kind <;> simp [NodeDraft.node, Declaration.draft, hdk, ClassifierKind.nodeKind]
      at hkind
  · obtain ⟨owner, howner, hob⟩ := hexists _ List.mem_cons_self
    have hid : owner.id = ⟨k⟩ := (congrArg Node.id hob :)
    refine ⟨owner, howner, by rw [← hparent, hp, hid], ?_⟩
    have hne : node.kind ≠ .parameter := by
      rw [← hdrawn]
      rcases hmember with hk | hk <;> rw [hk] <;> decide
    rw [if_neg hne, h.classifiers_eq, List.mem_filter]
    refine ⟨howner, ?_⟩
    have hok : owner.kind = d.kind.nodeKind := (congrArg Node.kind hob :)
    have hos : owner.slot = some .ownedElements := (congrArg Node.slot hob :)
    have hop : owner.parent = some (modelId config) := (congrArg Node.parent hob :)
    cases hdk : d.kind <;>
      simp [Node.isClassifierOf, hok, hos, hop, hdk, ClassifierKind.nodeKind,
        NodeKind.isClassifier]
  · obtain ⟨owner, howner, hob⟩ := hexists operation ho
    have hid : owner.id = operation.id := (congrArg Node.id hob :)
    refine ⟨owner, howner, by rw [← hparent, hp, hid], ?_⟩
    have hkept : owner.kind = operation.kind := (congrArg Node.kind hob :)
    rw [if_pos (hdrawn.symm.trans hk)]
    exact hkept.trans hok

lemma forall₂_drawn (h : Follows config ds a) (hf : ds.findSome? Declaration.fault? = none) :
    List.Forall₂ (Declaration.Drawn (classNodes config ds) (modelId config)) ds
      ((classNodes config ds).filter fun node => decide (node.parent = some (modelId config))) := by
  have hnodup : ((classNodes config ds).map Node.id).Nodup := by
    have hids : ((blueprint config ds).map Node.id).Nodup := by
      have hids := h.sound.nodup_ids
      rw [h.outline, List.map_map] at hids
      exact hids
    refine hids.sublist (List.Sublist.map Node.id ?_)
    rw [blueprint]
    exact ((List.sublist_append_left _ _).trans (List.sublist_append_right _ _)).cons _
  have hne : ∀ node ∈ classNodes config ds, node.id ≠ modelId config := by
    intro node hn hid
    have hmodel : (modelDraft config).node (modelId config) (projectId config) .ownedElements ∈
        blueprint config ds := by
      simp [blueprint, modelNodes]
    obtain rfl := h.eq_of_id_eq (by simp [blueprint, hn]) hmodel hid
    have hpart : Node.Belongs .declarations _ := belongs_of_mem_partNodes hn
    exact absurd hpart.part (by simp [NodeDraft.node, modelDraft, NodeKind.part])
  rw [classNodes, upTo_of_findSome?_eq_none hf] at hnodup hne ⊢
  exact Declaration.forall₂_chain hf hnodup hne

/-- The classes and interfaces are the children of the model but the diagram, as there are as many
of them. -/
lemma classifiers_eq_of_childrenOf (h : Follows config ds a)
    (hf : ds.findSome? Declaration.fault? = none) {diagram : Node} {classes : List Node}
    (hchildren : a.document.childrenOf a.model = diagram :: classes)
    (hdiagram : diagram.kind = .classDiagram) (hlength : ds.length = classes.length) :
    a.classifiers = classes := by
  have hsub : a.classifiers.Sublist classes := by
    rw [classifiers, Document.childrenIn, hchildren, List.filter_filter,
      List.filter_cons_of_neg (by simp [hdiagram, NodeKind.isClassifier])]
    exact List.filter_sublist
  have hclassifiers : a.classifiers.length = ds.length := by
    have hentries := congrArg List.length (h.map_classifiers hf)
    have hnames := congrArg List.length
      (Declaration.map_entries (fun _ name => name) (config.seed.toNat + 3) ds)
    rw [List.length_map, List.length_map] at hentries hnames
    exact hentries.trans hnames
  exact hsub.eq_of_length (hclassifiers.trans hlength)

end Follows

/-- The children of the model are its class diagram and, in order, a class or interface for each
declaration, with an attribute for each field, an operation for each method, and a parameter for the
result and each parameter of the method.  There are no other attributes, operations and
parameters. -/
theorem declarations_correspond (h : assemble config ds = .ok a) :
    (∃ diagram, a.document.childrenOf a.model = diagram :: a.classifiers ∧
      diagram.kind = .classDiagram) ∧
    List.Forall₂ (Declaration.Depicts a) ds a.classifiers ∧
    ∀ node ∈ a.document.nodes.toList,
      (node.kind = .attributeNode →
        ∃ owner ∈ a.classifiers, node ∈ a.document.childrenIn owner.id .attributes) ∧
      (node.kind = .operation →
        ∃ owner ∈ a.classifiers, node ∈ a.document.childrenIn owner.id .operations) ∧
      (node.kind = .parameter → ∃ owner ∈ a.document.nodes.toList, owner.kind = .operation ∧
        node ∈ a.document.childrenIn owner.id .parameters) := by
  obtain ⟨hf, hfollows⟩ := follows_of_ok h
  obtain ⟨diagram, classes, hchildren, hdiagram, hclasses⟩ :=
    List.map_eq_cons_iff.mp (hfollows.map_bare_children_model hf)
  have hkind : diagram.kind = .classDiagram := (congrArg Node.kind hdiagram :)
  have hdepicts : List.Forall₂ (Declaration.Depicts a) ds classes :=
    Follows.forall₂_of_drawn (hfollows.forall₂_drawn hf) hclasses
      fun d node drawn => hfollows.depicts_declaration hf
  have hclassifiers : a.classifiers = classes :=
    hfollows.classifiers_eq_of_childrenOf hf hchildren hkind hdepicts.length_eq
  rw [← hclassifiers] at hchildren hdepicts
  refine ⟨⟨diagram, hchildren, hkind⟩, hdepicts, fun node hn => ⟨?_, ?_, ?_⟩⟩
  · intro hattribute
    obtain ⟨owner, -, hparent, howner⟩ := hfollows.exists_owner hn (.inl hattribute)
    rw [if_neg (by rw [hattribute]; decide)] at howner
    exact ⟨owner, howner,
      hfollows.mem_childrenIn_of_collections hn hparent (by rw [hattribute]; rfl)⟩
  · intro hoperation
    obtain ⟨owner, -, hparent, howner⟩ := hfollows.exists_owner hn (.inr (.inl hoperation))
    rw [if_neg (by rw [hoperation]; decide)] at howner
    exact ⟨owner, howner,
      hfollows.mem_childrenIn_of_collections hn hparent (by rw [hoperation]; rfl)⟩
  · intro hparameter
    obtain ⟨owner, hmem, hparent, howner⟩ := hfollows.exists_owner hn (.inr (.inr hparameter))
    rw [if_pos hparameter] at howner
    exact ⟨owner, hmem, howner,
      hfollows.mem_childrenIn_of_collections hn hparent (by rw [hparameter]; rfl)⟩

/-- A private field of type `B` and an abstract method whose result is an array.  The name `B` is
declared after the class, and twice. -/
theorem declarations_correspond_of_duplicates :
    let f : Field := ⟨"f", [" private ", "static", "public"], .named "B"⟩
    let m : Method := ⟨"m", ["abstract"], { name := "B", dimensions := 1 }, [⟨"x", .named "B"⟩], []⟩
    let ds : List Declaration :=
      [{ kind := .classType, name := "A", modifiers := ["abstract"]
         members := [.method m, .other, .field f] },
       { kind := .interfaceType, name := "B" }, { kind := .classType, name := "B" }]
    ∃ a, assemble {} ds = .ok a ∧ List.Forall₂ (Declaration.Depicts a) ds a.classifiers ∧
      ∃ node fieldNode, a.lastNamed "B" = some node ∧ node.kind = .classNode ∧
        fieldNode ∈ a.document.nodes.toList ∧ f.Depicts a fieldNode ∧
        fieldNode.field? "visibility" = some (.text "private") ∧
        fieldNode.field? "type" = some (.reference node.id) := by
  intro f m ds
  have hf : ds.findSome? Declaration.fault? = none := by decide
  obtain ⟨a, ha, hfollows⟩ := @assemble_of_nodeCount_le {} ds hf (by decide)
  obtain ⟨-, hdepicts, -⟩ := declarations_correspond ha
  refine ⟨a, ha, hdepicts, ?_⟩
  -- the three classes, the last of which has the name
  obtain ⟨first, _, hfirst, hrest, hclasses⟩ := List.forall₂_cons_left_iff.mp hdepicts
  obtain ⟨second, _, hsecond, hlast, rfl⟩ := List.forall₂_cons_left_iff.mp hrest
  obtain ⟨third, _, hthird, hnil, rfl⟩ := List.forall₂_cons_left_iff.mp hlast
  obtain rfl := List.forall₂_nil_left_iff.mp hnil
  have hlast : a.lastNamed "B" = some third := by
    simp [lastNamed, hclasses, hthird.name]
  obtain ⟨fieldNode, _, hfield, -, hchildren⟩ := List.forall₂_cons_left_iff.mp hfirst.attributes
  have hmem : fieldNode ∈ a.document.childrenIn first.id .attributes := by
    rw [hchildren]
    exact List.mem_cons_self
  have hword : visibilityWord? f.modifiers = some "private" := by decide
  refine ⟨third, fieldNode, hlast, hthird.kind, ?_, hfield, ?_, ?_⟩
  · exact (hfollows.sound.mem_childrenIn_iff.mp hmem).1
  · rw [hfield.visibility, hword]
    rfl
  · rw [hfield.type, typeValue, show f.type.text = "B" from by decide, hlast]

end Assembly

end JavaUml
