/-
# The text of an assembled model

The document of an assembly is read back from its text, in either layout and whatever characters the
names have: the value is the same, every node has one object in it, and the records of these objects
are those of the nodes (`document_recovered`).

The builders make documents of which nothing is lost (`Follows.tidy`).  The keys of fields are few
and never those of anything else, only the two ends of an association are in collections for one
child, and every node is deeper in the tree than its parent by its type alone.
-/
import JavaUml.Proofs.Assembly.References
import JavaUml.Proofs.Document.Records
import JavaUml.Proofs.Drawing.Strokes
import JavaUml.Proofs.Drawing.Within

namespace JavaUml

/-! ## Keys -/

/-- The keys of a node are some of the known ones in their order. -/
def Node.HasKnownKeys (node : Node) : Prop := (node.fields.map Prod.fst).Sublist fieldKeys

lemma Node.HasKnownKeys.nodup {node : Node} (h : node.HasKnownKeys) :
    (node.fields.map Prod.fst).Nodup :=
  List.Sublist.nodup h (by decide)

lemma Node.HasKnownKeys.not_mem_reservedKeys {node : Node} (h : node.HasKnownKeys)
    {field : String × Value} (hf : field ∈ node.fields) : field.1 ∉ reservedKeys := by
  have hfree : ∀ key ∈ fieldKeys, key ∉ reservedKeys := by decide
  exact hfree _ (h.subset (List.mem_map_of_mem hf))

lemma Member.hasKnownKeys_of_mem_nodes {classNode : NodeId} {n : ℕ} {member : Member} {node : Node}
    (h : node ∈ member.nodes classNode n) : node.HasKnownKeys := by
  rcases cases_of_mem_nodes h with ⟨f, rfl⟩ | ⟨m, rfl⟩ | ⟨t, rfl⟩ | ⟨p, k, rfl⟩
  · exact f.sublist_keys_draft
  · exact m.sublist_keys_draft
  · exact (by decide : ["type", "direction"].Sublist fieldKeys)
  · exact (by decide : ["type"].Sublist fieldKeys)

lemma Declaration.hasKnownKeys_of_mem_nodes {owner : NodeId} {n : ℕ} {d : Declaration} {node : Node}
    (h : node ∈ d.nodes owner n) : node.HasKnownKeys := by
  rcases List.mem_cons.mp h with rfl | h
  · exact d.sublist_keys_draft
  · obtain ⟨member, -, k, -, hm, -⟩ := exists_of_mem_chain h
    exact Member.hasKnownKeys_of_mem_nodes hm

lemma Relationship.hasKnownKeys_of_mem_nodes {bindings : NameTable} {n : ℕ} {r : Relationship}
    {node : Node} (h : node ∈ r.nodes bindings n) : node.HasKnownKeys := by
  obtain ⟨source, target, -, ⟨kind, -, rfl⟩ | ⟨-, rfl | rfl | rfl⟩⟩ := cases_of_mem_nodes h
  · exact (by decide : ["source", "target"].Sublist fieldKeys)
  · exact List.nil_sublist _
  · exact (by decide : ["reference"].Sublist fieldKeys)
  · exact (by decide : ["reference", "aggregation"].Sublist fieldKeys)

lemma StateMachine.hasKnownKeys_of_mem_nodes {root : NodeId} {name : String} {n : ℕ}
    {es : List Edge} {node : Node} (h : node ∈ nodes root name n es) : node.HasKnownKeys := by
  rcases cases_of_mem_nodes h with
    rfl | ⟨-, rfl | ⟨k, vertex, rfl⟩ | ⟨k, a, b, label, rfl, -, -⟩ | ⟨k, label, rfl⟩⟩
  · exact List.nil_sublist _
  · exact List.nil_sublist _
  · rw [Node.HasKnownKeys, vertexNode, vertexNodeOf, NodeDraft.node]
    cases VertexKind.ofName vertex with
    | initial => exact (by decide : ["kind"].Sublist fieldKeys)
    | final => exact List.nil_sublist _
    | state => exact List.nil_sublist _
  · exact (by decide : ["source", "target"].Sublist fieldKeys)
  · exact List.nil_sublist _

lemma Interaction.hasKnownKeys_of_mem_nodes {root : NodeId} {names : Names} {n : ℕ}
    {es : List Edge} {node : Node} (h : node ∈ nodes root names n es) : node.HasKnownKeys := by
  rcases cases_of_mem_nodes h with
    rfl | ⟨-, rfl | rfl | ⟨k, lifeline, rfl⟩ | ⟨k, a, b, label, rfl, -, -⟩⟩
  · exact List.nil_sublist _
  · exact List.nil_sublist _
  · exact List.nil_sublist _
  · exact List.nil_sublist _
  · exact (by decide : ["source", "target"].Sublist fieldKeys)

/-! ## Levels -/

/-- The parent of a node is one of some nodes, of a type that stands less deep in the tree. -/
def Node.IsUnder (owners : List Node) (node : Node) : Prop :=
  ∃ owner ∈ owners, node.parent = some owner.id ∧ owner.kind.level < node.kind.level

lemma Node.IsUnder.mono {owners more : List Node} {node : Node} (h : node.IsUnder owners)
    (hsub : owners ⊆ more) : node.IsUnder more := by
  obtain ⟨owner, ho, hparent⟩ := h
  exact ⟨owner, hsub ho, hparent⟩

lemma Member.isUnder_of_mem_nodes {top : Node} (htop : top.kind.level = 2) {n : ℕ}
    {member : Member} {node : Node} (h : node ∈ member.nodes top.id n) :
    node.IsUnder (top :: member.nodes top.id n) := by
  have hclass : top.kind.level < 3 := by omega
  cases member with
  | field f =>
    obtain rfl := List.mem_singleton.mp h
    exact ⟨top, List.mem_cons_self, rfl, hclass⟩
  | method m =>
    -- the parameters are below the operation, which comes first
    have hoperation : m.draft.node ⟨n⟩ top.id .operations ∈ top :: nodes top.id n (.method m) :=
      List.mem_cons_of_mem _ List.mem_cons_self
    rcases List.mem_cons.mp h with rfl | h
    · exact ⟨top, List.mem_cons_self, rfl, hclass⟩
    rcases List.mem_cons.mp h with rfl | h
    · exact ⟨_, hoperation, rfl, (by decide : 3 < 4)⟩
    · obtain ⟨p, -, k, -, hp, -⟩ := exists_of_mem_chain h
      obtain rfl := List.mem_singleton.mp hp
      exact ⟨_, hoperation, rfl, (by decide : 3 < 4)⟩
  | other => cases h

lemma Declaration.isUnder_of_mem_nodes {top : Node} (htop : top.kind.level = 1) {n : ℕ}
    {d : Declaration} {node : Node} (h : node ∈ d.nodes top.id n) :
    node.IsUnder (top :: d.nodes top.id n) := by
  have hclass : (d.draft.node ⟨n⟩ top.id .ownedElements).kind.level = 2 := by
    rw [NodeDraft.node, draft]
    cases d.kind <;> rfl
  rcases List.mem_cons.mp h with rfl | h
  · exact ⟨top, List.mem_cons_self, rfl, by omega⟩
  · obtain ⟨member, -, k, -, hm, hsub⟩ := exists_of_mem_chain h
    refine (Member.isUnder_of_mem_nodes hclass hm).mono (List.cons_subset.mpr ⟨?_, ?_⟩)
    · exact List.mem_cons_of_mem _ List.mem_cons_self
    · exact fun other ho => List.mem_cons_of_mem _ (List.mem_cons_of_mem _ (hsub ho))

/-- The nodes of a relationship are below the class that is its source, or below the association. -/
lemma Relationship.isUnder_of_mem_nodes {bindings : NameTable} {owners : List Node}
    (hbound : ∀ name id, bindings.resolve name = some id →
      ∃ owner ∈ owners, owner.id = id ∧ owner.kind.level = 2) {n : ℕ}
    {r : Relationship} {node : Node} (h : node ∈ r.nodes bindings n) :
    node.IsUnder (owners ++ r.nodes bindings n) := by
  obtain ⟨source, target, hpair, hnode⟩ := cases_of_mem_nodes h
  obtain ⟨owner, ho, rfl, hlevel⟩ :=
    hbound r.source source (NameTable.resolvePair_eq_some_iff.mp hpair).1
  have hsource : owner ∈ owners ++ r.nodes bindings n := List.mem_append_left _ ho
  have hclass : owner.kind.level < 3 := by omega
  rcases hnode with ⟨kind, rfl | rfl, rfl⟩ | ⟨hassociation, rfl | rfl | rfl⟩
  · exact ⟨owner, hsource, rfl, hclass⟩
  · exact ⟨owner, hsource, rfl, hclass⟩
  · exact ⟨owner, hsource, rfl, hclass⟩
  · exact ⟨_, List.mem_append_right _ hassociation, rfl, (by decide : 3 < 4)⟩
  · exact ⟨_, List.mem_append_right _ hassociation, rfl, (by decide : 3 < 4)⟩

lemma StateMachine.isUnder_of_mem_nodes {top : Node} (htop : top.kind.level = 0) {name : String}
    {n : ℕ} {es : List Edge} {node : Node} (h : node ∈ nodes top.id name n es) :
    node.IsUnder (top :: nodes top.id name n es) := by
  unfold nodes nodesOf at h ⊢
  split at h
  · cases h
  next hes =>
  rw [if_neg hes]
  have hregion : regionDraft.node ⟨n + 1⟩ ⟨n⟩ .regions ∈
      top :: (machineDraft name).node ⟨n⟩ top.id .ownedElements ::
        regionDraft.node ⟨n + 1⟩ ⟨n⟩ .regions ::
        edgeNodes (vertexNodeOf VertexKind.ofName ⟨n + 1⟩) (transitionNodes ⟨n + 1⟩) (n + 2)
          .empty es := by
    simp
  rcases List.mem_cons.mp h with rfl | h
  · exact ⟨top, List.mem_cons_self, rfl, htop ▸ Nat.zero_lt_one⟩
  rcases List.mem_cons.mp h with rfl | h
  · exact ⟨_, List.mem_cons_of_mem _ List.mem_cons_self, rfl, (by decide : 1 < 2)⟩
  rcases exists_stroke_of_mem _ _ h with ⟨k, vertex, rfl⟩ | ⟨s, -, hlink, hsub⟩
  · refine ⟨_, hregion, rfl, ?_⟩
    rw [vertexNodeOf, NodeDraft.node]
    cases VertexKind.ofName vertex <;> exact (by decide : 2 < 3)
  rcases List.mem_pair.mp hlink with rfl | rfl
  · exact ⟨_, hregion, rfl, (by decide : 2 < 3)⟩
  · -- the event is below its transition, which is drawn with it
    refine ⟨(transitionDraft s.source s.target s.label).node ⟨s.start⟩ ⟨n + 1⟩ .transitions, ?_,
      rfl, (by decide : 3 < 4)⟩
    exact List.mem_cons_of_mem _
      (List.mem_cons_of_mem _ (List.mem_cons_of_mem _ (hsub List.mem_cons_self)))

lemma Interaction.isUnder_of_mem_nodes {top : Node} (htop : top.kind.level = 0) {names : Names}
    {n : ℕ} {es : List Edge} {node : Node} (h : node ∈ nodes top.id names n es) :
    node.IsUnder (top :: nodes top.id names n es) := by
  rcases cases_of_mem_nodes h with rfl | ⟨hinteraction, hnode⟩
  · exact ⟨top, List.mem_cons_self, rfl, htop ▸ Nat.zero_lt_one⟩
  rcases hnode with rfl | rfl | ⟨k, lifeline, rfl⟩ | ⟨k, a, b, label, rfl, -, -⟩
  · have hcollaboration : (collaborationDraft names).node ⟨n⟩ top.id .ownedElements ∈
        nodes top.id names n es := by
      unfold nodes at h ⊢
      split at h
      · cases h
      · next hes =>
        rw [if_neg hes]
        exact List.mem_cons_self
    exact ⟨_, List.mem_cons_of_mem _ hcollaboration, rfl, (by decide : 1 < 2)⟩
  all_goals exact ⟨_, List.mem_cons_of_mem _ hinteraction, rfl, (by decide : 2 < 3)⟩

/-! ## Ends of associations -/

/-- An end of an association is the first or the second node behind its parent. -/
lemma Relationship.id_of_mem_nodes {bindings : NameTable} {n : ℕ} {r : Relationship} {node : Node}
    (h : node ∈ r.nodes bindings n) {slot : Slot} (hslot : node.slot = some slot)
    (hs : slot.isSingular = true) : ∃ k, node.parent = some ⟨k⟩ ∧
      (slot = .endOne ∧ node.id = ⟨k + 1⟩ ∨ slot = .endTwo ∧ node.id = ⟨k + 2⟩) := by
  obtain ⟨source, target, -, ⟨kind, -, rfl⟩ | ⟨-, rfl | rfl | rfl⟩⟩ := cases_of_mem_nodes h <;>
    obtain rfl := Option.some.inj hslot
  · cases hs
  · cases hs
  · exact ⟨n, rfl, .inl ⟨rfl, rfl⟩⟩
  · exact ⟨n, rfl, .inr ⟨rfl, rfl⟩⟩

/-! ## The blueprint -/

namespace Assembly

variable {config : AssemblyConfig} {ds : List Declaration} {a : Assembly}

lemma hasKnownKeys_of_mem_blueprint {node : Node} (h : node ∈ blueprint config ds) :
    node.HasKnownKeys := by
  simp only [blueprint, diagramNodes, List.mem_cons, List.mem_append] at h
  rcases h with rfl | h | h | h | h | h
  · exact List.nil_sublist _
  · rcases List.mem_pair.mp h with rfl | rfl
    · exact List.nil_sublist _
    · exact (by decide : ["defaultDiagram"].Sublist fieldKeys)
  · obtain ⟨d, -, k, -, hd, -⟩ := exists_of_mem_chain h
    exact Declaration.hasKnownKeys_of_mem_nodes hd
  · obtain ⟨r, -, k, -, hr, -⟩ := exists_of_mem_chain h
    exact Relationship.hasKnownKeys_of_mem_nodes hr
  · exact StateMachine.hasKnownKeys_of_mem_nodes h
  · exact Interaction.hasKnownKeys_of_mem_nodes h

lemma id_of_mem_blueprint {node : Node} (h : node ∈ blueprint config ds) {slot : Slot}
    (hslot : node.slot = some slot) (hs : slot.isSingular = true) :
    ∃ k, node.parent = some ⟨k⟩ ∧
      (slot = .endOne ∧ node.id = ⟨k + 1⟩ ∨ slot = .endTwo ∧ node.id = ⟨k + 2⟩) := by
  have hpart : ∃ part, node ∈ partNodes config ds part := by
    simp only [blueprint_eq, List.mem_append] at h
    rcases h with h | h | h | h | h <;> exact ⟨_, h⟩
  obtain ⟨part, hpart⟩ := hpart
  have hbelongs := belongs_of_mem_partNodes hpart
  have hrelationships : part = .relationships := by
    rw [← hbelongs.part, hbelongs.singular slot hslot hs]
    rfl
  rw [hrelationships] at hpart
  obtain ⟨r, -, k, -, hr, -⟩ := exists_of_mem_chain hpart
  exact Relationship.id_of_mem_nodes hr hslot hs

namespace Follows

/-- What a name of the declarations is bound to is a class or interface of the blueprint. -/
lemma exists_of_resolve (h : Follows config ds a) (hf : ds.findSome? Declaration.fault? = none)
    {name : String} {id : NodeId} (hid : (bindings config ds).resolve name = some id) :
    ∃ owner ∈ blueprint config ds, owner.id = id ∧ owner.kind.level = 2 := by
  obtain ⟨target, htarget, -, rfl⟩ := h.exists_classifier hf ⟨name, hid⟩
  rw [h.classifiers_eq, List.mem_filter] at htarget
  have hbare : target.bare ∈ a.document.outline := List.mem_map_of_mem htarget.1
  rw [h.outline] at hbare
  obtain ⟨owner, ho, he⟩ := List.mem_map.mp hbare
  have hid := congrArg Node.id he
  have hkind := congrArg Node.kind he
  rw [Node.bare_id] at hid
  rw [Node.bare_kind] at hkind
  refine ⟨owner, ho, hid, ?_⟩
  have hclassifier : target.kind = .classNode ∨ target.kind = .interfaceNode := by
    have hp := htarget.2
    simp only [Node.isClassifierOf, NodeKind.isClassifier, Bool.and_eq_true, Bool.or_eq_true,
      beq_iff_eq] at hp
    exact hp.1.1
  rw [show owner.kind = target.kind from hkind]
  rcases hclassifier with hk | hk <;> rw [hk] <;> rfl

/-- Every node but the project is below another one. -/
lemma isUnder_of_mem_blueprint (h : Follows config ds a)
    (hf : ds.findSome? Declaration.fault? = none) {node : Node} (hn : node ∈ blueprint config ds) :
    node = projectNode config ∨ node.IsUnder (blueprint config ds) := by
  have hproject : projectNode config ∈ blueprint config ds := List.mem_cons_self
  have hmodel : (modelDraft config).node (modelId config) (projectId config) .ownedElements ∈
      blueprint config ds := by
    simp [blueprint, modelNodes]
  have hlevel : (projectNode config).kind.level = 0 := rfl
  simp only [blueprint, diagramNodes, List.mem_cons, List.mem_append] at hn
  rcases hn with rfl | hn | hn | hn | hn | hn
  · exact .inl rfl
  · right
    rcases List.mem_pair.mp hn with rfl | rfl
    · exact ⟨_, hproject, rfl, (by decide : 0 < 1)⟩
    · exact ⟨_, hmodel, rfl, (by decide : 1 < 2)⟩
  · right
    obtain ⟨d, -, k, -, hd, hsub⟩ := exists_of_mem_chain hn
    have hunder := @Declaration.isUnder_of_mem_nodes
      ((modelDraft config).node (modelId config) (projectId config) .ownedElements) rfl k d node hd
    refine hunder.mono (List.cons_subset.mpr ⟨hmodel, fun other ho => ?_⟩)
    have hclass : other ∈ classNodes config ds := hsub ho
    simp [blueprint, hclass]
  · right
    obtain ⟨r, -, k, -, hr, hsub⟩ := exists_of_mem_chain hn
    refine (Relationship.isUnder_of_mem_nodes (fun _ _ hid => h.exists_of_resolve hf hid)
      hr).mono (List.append_subset.mpr ⟨List.Subset.refl _, fun other ho => ?_⟩)
    have hrelationship : other ∈ relationshipNodes config ds := hsub ho
    simp [blueprint, diagramNodes, hrelationship]
  · right
    refine (StateMachine.isUnder_of_mem_nodes hlevel hn).mono
      (List.cons_subset.mpr ⟨hproject, fun other ho => ?_⟩)
    have hmachine : other ∈ stateMachineNodes config ds := ho
    simp [blueprint, diagramNodes, hmachine]
  · right
    refine (Interaction.isUnder_of_mem_nodes hlevel hn).mono
      (List.cons_subset.mpr ⟨hproject, fun other ho => ?_⟩)
    have hinteraction : other ∈ interactionNodes config ds := ho
    simp [blueprint, diagramNodes, hinteraction]

lemma exists_drawn (h : Follows config ds a) {node : Node} (hn : node ∈ a.document.outline) :
    ∃ drawn ∈ blueprint config ds, drawn.resolve (bindings config ds) = node := by
  rw [h.outline] at hn
  exact List.mem_map.mp hn

lemma hasKnownKeys (h : Follows config ds a) {node : Node} (hn : node ∈ a.document.outline) :
    node.HasKnownKeys := by
  obtain ⟨drawn, hd, rfl⟩ := h.exists_drawn hn
  have hkeys : (drawn.resolve (bindings config ds)).fields.map Prod.fst =
      drawn.fields.map Prod.fst := by
    simp [Node.resolve, Function.comp_def]
  rw [Node.HasKnownKeys, hkeys]
  exact hasKnownKeys_of_mem_blueprint hd

/-- Nothing is lost when an assembled document is written. -/
lemma tidy (h : Follows config ds a) (hf : ds.findSome? Declaration.fault? = none) :
    a.document.Tidy where
  nodup_keys node hn := (h.hasKnownKeys hn).nodup
  free_keys node hn field hfield := (h.hasKnownKeys hn).not_mem_reservedKeys hfield
  singular x hx y hy hparent hslot slot hxs hs := by
    obtain ⟨dx, hdx, rfl⟩ := h.exists_drawn hx
    obtain ⟨dy, hdy, rfl⟩ := h.exists_drawn hy
    obtain ⟨k, hk, hxid⟩ := id_of_mem_blueprint hdx hxs hs
    obtain ⟨l, hl, hyid⟩ := id_of_mem_blueprint hdy (hslot.symm.trans hxs) hs
    obtain rfl : k = l := by
      have hkl : some (⟨k⟩ : NodeId) = some ⟨l⟩ := hk.symm.trans (hparent.trans hl)
      simpa using hkl
    rcases hxid with ⟨rfl, hx⟩ | ⟨rfl, hx⟩ <;> rcases hyid with ⟨hs', hy⟩ | ⟨hs', hy⟩
    · exact hx.trans hy.symm
    · cases hs'
    · cases hs'
    · exact hx.trans hy.symm
  top node hn hparent := by
    obtain ⟨drawn, hd, rfl⟩ := h.exists_drawn hn
    rcases h.isUnder_of_mem_blueprint hf hd with rfl | ⟨owner, -, howner, -⟩
    · rfl
    · cases howner.symm.trans hparent
  level_lt node hn owner ho hparent := by
    obtain ⟨drawn, hd, rfl⟩ := h.exists_drawn hn
    rcases h.isUnder_of_mem_blueprint hf hd with rfl | ⟨other, hother, hid, hlt⟩
    · cases hparent
    · -- the owner is the only node with its identifier
      have hmem : other.resolve (bindings config ds) ∈ a.document.outline := by
        rw [h.outline]
        exact List.mem_map_of_mem hother
      have hsame : owner = other.resolve (bindings config ds) :=
        List.inj_on_of_nodup_map h.sound.nodup_ids ho hmem
          (Option.some.inj (hparent.symm.trans hid))
      rw [hsame]
      exact hlt

end Follows

/-! ## The text -/

/-- The document of an assembly is recovered from its text.  Both layouts are read as the same
value, and the text on one line has no control characters.  In the value no object has a key twice;
every node has one object, which names the object around it as its parent; and the records of the
objects are those of the nodes. -/
theorem document_recovered (h : assemble config ds = .ok a) :
    (∀ indented, Json.ofText (a.document.text indented) = .ok a.document.toJson) ∧
    (∀ c ∈ (a.document.text false).toList, 0x20 ≤ c.toNat) ∧
    (∀ p ∈ a.document.toJson.objects none, (p.members.map Prod.fst).Nodup) ∧
    ((a.document.toJson.objects none).filterMap fun p => p.members.lookup "_id").Perm
      (a.document.nodes.toList.map fun node => .string node.id.text) ∧
    (∀ p ∈ a.document.toJson.objects none, Document.isNode p = true → Document.NamesParent p) ∧
    (Record.all a.document.toJson).Perm (a.document.nodes.toList.map a.document.record) := by
  obtain ⟨hf, hfollows⟩ := follows_of_ok h
  have hs := hfollows.sound
  have ht := hfollows.tidy hf
  exact ⟨Document.ofText_text hs ht, a.document.printable_text,
    fun _ hp => Document.nodup_keys_of_mem_objects hs ht hp,
    Document.filterMap_objects_id_perm hs ht,
    fun _ hp hnode => Document.namesParent_of_mem_objects hs ht hp hnode,
    Document.all_toJson_perm hs ht⟩

/-- Of a class whose name has a quote, a backslash and a control character, with a field of its own
type and another one, the indented text gives the name, the fields and their types back. -/
theorem document_recovered_of_names :
    let name := "A\"\\\u0007"
    let ds : List Declaration :=
      [{ kind := .classType, name
         members := [.field ⟨"x\n", [], .named name⟩, .field ⟨"y", ["private"], .named "int"⟩] }]
    ∃ a, assemble { seed := 1 } ds = .ok a ∧ ∃ v, Json.ofText (a.document.text true) = .ok v ∧
      (∃ r ∈ Record.all v, r.kind = .classNode ∧ r.id = ⟨4⟩ ∧ r.name = some name ∧
        r.parent = some ⟨2⟩ ∧ r.slot = some .ownedElements ∧ r.children .attributes = [⟨5⟩, ⟨6⟩]) ∧
      (∃ r ∈ Record.all v, r.id = ⟨5⟩ ∧ r.name = some "x\n" ∧
        r.fields = [("type", .reference ⟨4⟩)]) ∧
      ∃ r ∈ Record.all v, r.id = ⟨6⟩ ∧
        r.fields = [("visibility", .text "private"), ("type", .text "int")] := by
  intro name ds
  have hf : ds.findSome? Declaration.fault? = none := by decide
  obtain ⟨a, ha, hfollows⟩ := @assemble_of_nodeCount_le { seed := 1 } ds hf (by decide)
  obtain ⟨hread, -, -, -, -, hrecords⟩ := document_recovered ha
  -- the records are those of the nodes of the blueprint
  have hmem : ∀ drawn ∈ (blueprint { seed := 1 } ds).map (Node.resolve (bindings { seed := 1 } ds)),
      a.document.record drawn ∈ Record.all a.document.toJson := by
    intro drawn hd
    rw [← hfollows.outline] at hd
    obtain ⟨node, hn, rfl⟩ := List.mem_map.mp hd
    have hrecord : a.document.record node ∈ Record.all a.document.toJson :=
      hrecords.mem_iff.mpr (List.mem_map_of_mem hn)
    exact hrecord
  refine ⟨a, ha, _, hread true, ?_, ?_, ?_⟩
  · obtain ⟨drawn, hd, hkind, hid, hname, hparent, hslot⟩ : ∃ drawn ∈
        (blueprint { seed := 1 } ds).map (Node.resolve (bindings { seed := 1 } ds)),
        drawn.kind = .classNode ∧ drawn.id = ⟨4⟩ ∧ drawn.name = some name ∧
          drawn.parent = some ⟨2⟩ ∧ drawn.slot = some .ownedElements := by
      decide
    have hchildren : (((blueprint { seed := 1 } ds).map
        (Node.resolve (bindings { seed := 1 } ds))).filter fun child =>
          decide (child.parent = some ⟨4⟩) && child.slot == some .attributes).map Node.id =
        [⟨5⟩, ⟨6⟩] := by
      decide
    refine ⟨_, hmem drawn hd, hkind, hid, hname, hparent, hslot, ?_⟩
    rw [Document.record, hid, hfollows.outline]
    exact hchildren
  · obtain ⟨drawn, hd, hid, hname, hfields⟩ : ∃ drawn ∈
        (blueprint { seed := 1 } ds).map (Node.resolve (bindings { seed := 1 } ds)),
        drawn.id = ⟨5⟩ ∧ drawn.name = some "x\n" ∧
          drawn.fields.map (fun field => (field.1, field.2.written)) =
            [("type", .reference ⟨4⟩)] := by
      decide
    exact ⟨_, hmem drawn hd, hid, hname, hfields⟩
  · obtain ⟨drawn, hd, hid, hfields⟩ : ∃ drawn ∈
        (blueprint { seed := 1 } ds).map (Node.resolve (bindings { seed := 1 } ds)),
        drawn.id = ⟨6⟩ ∧ drawn.fields.map (fun field => (field.1, field.2.written)) =
          [("visibility", .text "private"), ("type", .text "int")] := by
      decide
    exact ⟨_, hmem drawn hd, hid, hfields⟩

end Assembly

end JavaUml
