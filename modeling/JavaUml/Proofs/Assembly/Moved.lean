/-
# Assemblies under other configurations

Which nodes an assembly makes, and how they are linked, does not depend on the configuration.  The
seed only shifts the identifiers, and the names of a configuration are only those of the seven nodes
around the diagrams, which no name of a declaration ever stands for.

This is shown by two runs side by side: whatever the one draws, the other draws at the other seed
(`Assembly.agree_steps`).  So the two documents differ by a move (`assemble_moved`).
-/
import JavaUml.Proofs.Assembly.References
import JavaUml.Proofs.Drawing.Move

namespace JavaUml

/-! ## Configurations -/

/-- The name that a configuration has for the nodes of a type. -/
def AssemblyConfig.nodeName? (config : AssemblyConfig) : NodeKind → Option String
  | .project => some config.project
  | .model => some config.model
  | .classDiagram => some config.diagram
  | .stateMachine => some config.stateMachine
  | .collaboration => some config.interaction.collaboration
  | .interaction => some config.interaction.interaction
  | .sequenceDiagram => some config.interaction.diagram
  | _ => none

/-- The move from a configuration to another one. -/
def AssemblyConfig.moveTo (config config' : AssemblyConfig) : Move :=
  ⟨config.seed, config'.seed, config'.nodeName?⟩

variable (c c' : AssemblyConfig)

lemma Agree.attach_moved (parent : NodeId) (slot : Slot) {draft draft' : NodeDraft}
    (h : (c.moveTo c').draft draft = draft') :
    Agree (Document.MovesTo (c.moveTo c')) (fun id id' => id' = (c.moveTo c').shift id)
      (Drawing.attach parent slot draft)
      (Drawing.attach ((c.moveTo c').shift parent) slot draft') := by
  subst h
  exact .attach parent slot draft

/-! ## Declarations -/

namespace Mapping

lemma agree_drawParameters (operation : NodeId) (ps : List Parameter) :
    Agree (Document.MovesTo (c.moveTo c')) Eq (drawParameters operation ps)
      (drawParameters ((c.moveTo c').shift operation) ps) := by
  refine Agree.forM (fun p => ?_) ps
  have hp : (c.moveTo c').draft p.draft = p.draft := Move.draft_eq_self rfl p.draft_ne_reference
  exact (Agree.attach_moved c c' operation .parameters hp).bind fun _ _ _ => .pure rfl

lemma agree_drawMethod (classNode : NodeId) (m : Method) :
    Agree (Document.MovesTo (c.moveTo c')) Eq (drawMethod classNode m)
      (drawMethod ((c.moveTo c').shift classNode) m) := by
  have hm : (c.moveTo c').draft m.draft = m.draft := Move.draft_eq_self rfl m.draft_ne_reference
  have hresult : (c.moveTo c').draft (returnDraft m.returnType) = returnDraft m.returnType :=
    Move.draft_eq_self rfl (returnDraft_ne_reference m.returnType)
  refine (Agree.attach_moved c c' classNode .operations hm).bind ?_
  rintro operation _ rfl
  refine (Agree.attach_moved c c' operation .parameters hresult).bind fun _ _ _ => ?_
  exact agree_drawParameters c c' operation m.parameters

lemma agree_mapMember (className : String) (classNode : NodeId) (member : Member) :
    Agree (ClassModel.MovesTo (c.moveTo c')) Eq (mapMember className classNode member)
      (mapMember className ((c.moveTo c').shift classNode) member) := by
  cases member with
  | field f =>
    have hf : (c.moveTo c').draft f.draft = f.draft := Move.draft_eq_self rfl f.draft_ne_reference
    refine (Agree.attach_moved c c' classNode .attributes hf).draw.bind fun _ _ _ => ?_
    exact (Agree.addRelationships (f.aggregations className)).bind fun _ _ _ => .pure rfl
  | method m =>
    refine (agree_drawMethod c c' classNode m).draw.bind fun _ _ _ => .outcome ?_
    intro es es' he he'
    exact Except.ok.inj (he.symm.trans he')
  | other => exact .pure rfl

lemma agree_mapDeclaration (owner : NodeId) (d : Declaration) :
    Agree (ClassModel.MovesTo (c.moveTo c')) (fun mapped mapped' => mapped.edges = mapped'.edges)
      (mapDeclaration owner d) (mapDeclaration ((c.moveTo c').shift owner) d) := by
  have hname : (c.moveTo c').name? d.draft.kind = none := by
    rw [Declaration.draft]
    cases d.kind <;> rfl
  have hd : (c.moveTo c').draft d.draft = d.draft := Move.draft_eq_self hname d.draft_ne_reference
  refine (Agree.attach_moved c c' owner .ownedElements hd).draw.bind ?_
  rintro id _ rfl
  refine (Agree.addClass d.name d.kind id).bind fun _ _ _ => ?_
  refine (Agree.addRelationships d.supertypes).bind fun _ _ _ => ?_
  refine (Agree.mapM (agree_mapMember c c' d.name id) d.members).bind fun ess ess' h => .pure ?_
  rw [List.forall₂_eq_eq_eq] at h
  rw [h]

lemma agree_mapAll (model : NodeId) (ds : List Declaration) :
    Agree (ClassModel.MovesTo (c.moveTo c')) Eq (Assembly.mapAll model ds)
      (Assembly.mapAll ((c.moveTo c').shift model) ds) := by
  refine (Agree.mapM (agree_mapDeclaration c c' model) ds).bind fun mapped mapped' h => .pure ?_
  induction h with
  | nil => rfl
  | cons hd _ ih => rw [List.flatMap_cons, List.flatMap_cons, hd, ih]

end Mapping

/-! ## Relationships -/

namespace Relationship

lemma agree_drawBetween (source target : NodeId) (kind : RelationshipKind) :
    Agree (Document.MovesTo (c.moveTo c')) Eq (drawBetween source target kind)
      (drawBetween ((c.moveTo c').shift source) ((c.moveTo c').shift target) kind) := by
  cases kind with
  | generalization =>
    exact (Agree.attach_moved c c' source .ownedElements rfl).bind fun _ _ _ => .pure rfl
  | realization =>
    exact (Agree.attach_moved c c' source .ownedElements rfl).bind fun _ _ _ => .pure rfl
  | aggregation =>
    refine (Agree.attach_moved c c' source .ownedElements rfl).bind ?_
    rintro association _ rfl
    refine (Agree.attach_moved c c' association .endOne rfl).bind fun _ _ _ => ?_
    exact (Agree.attach_moved c c' association .endTwo rfl).bind fun _ _ _ => .pure rfl

/-- The same relationships are drawn, and those that are dropped are told alike if they are told
under both configurations. -/
lemma agree_draw {bindings bindings' : NameTable}
    (hb : bindings.Relabels (c.moveTo c').shift bindings') (r : Relationship)
    (report report' : RelationshipReport)
    (h : c.reporting = c'.reporting → report'.unresolved = report.unresolved) :
    Agree (Document.MovesTo (c.moveTo c'))
      (fun report report' => c.reporting = c'.reporting → report'.unresolved = report.unresolved)
      (draw bindings c.reporting report r) (draw bindings' c'.reporting report' r) := by
  unfold draw
  rw [hb.resolvePair]
  cases bindings.resolvePair r.source r.target with
  | some pair => exact (agree_drawBetween c c' pair.1 pair.2 r.kind).bind fun _ _ _ => .pure h
  | none =>
    refine .pure fun hreporting => ?_
    rw [h hreporting, hreporting, missing_relabel hb]

lemma agree_drawAll {classes classes' : ClassStore}
    (hb : classes.bindings.Relabels (c.moveTo c').shift classes'.bindings)
    (hrs : classes'.relationships = classes.relationships) :
    Agree (Document.MovesTo (c.moveTo c'))
      (fun report report' => c.reporting = c'.reporting → report'.unresolved = report.unresolved)
      (drawAll c.reporting classes) (drawAll c'.reporting classes') := by
  unfold drawAll
  rw [hrs]
  exact .foldlM (fun r report report' => agree_draw c c' hb r report report') _ fun _ => rfl

end Relationship

/-! ## Diagrams -/

lemma StateMachine.agree_drawVertex (states : StateRegistry) (region : NodeId) (name : String) :
    Agree (Document.MovesTo (c.moveTo c')) (fun id id' => id' = (c.moveTo c').shift id)
      (drawVertex states region name) (drawVertex states ((c.moveTo c').shift region) name) := by
  unfold drawVertex
  cases states.kind? name with
  | some kind =>
    cases kind <;> exact .attach_moved c c' region .vertices rfl
  | none => exact .of_throw _ _

lemma StateMachine.agree_drawTransition (region source target : NodeId) (label : String) :
    Agree (Document.MovesTo (c.moveTo c')) Eq (drawTransition region source target label)
      (drawTransition ((c.moveTo c').shift region) ((c.moveTo c').shift source)
        ((c.moveTo c').shift target) label) := by
  refine (Agree.attach_moved c c' region .transitions rfl).bind ?_
  rintro transition _ rfl
  exact (Agree.attach_moved c c' transition .triggers rfl).bind fun _ _ _ => .pure rfl

lemma StateMachine.agree_draw (states : StateRegistry) :
    Agree (Document.MovesTo (c.moveTo c')) (fun id id' => id' = id.map (c.moveTo c').shift)
      (draw c.stateMachine states) (draw c'.stateMachine states) := by
  unfold draw
  split
  · exact .pure rfl
  refine Agree.root.bind ?_
  rintro root _ rfl
  refine (Agree.attach_moved c c' root .ownedElements rfl).bind ?_
  rintro machine _ rfl
  refine (Agree.attach_moved c c' machine .regions rfl).bind ?_
  rintro region _ rfl
  refine (Agree.edges (agree_drawVertex c c' states region)
    (agree_drawTransition c c' region) states.edges .empty).bind fun _ _ _ => ?_
  exact .pure rfl

lemma Interaction.agree_drawLifeline (participants : ParticipantRegistry) (interaction : NodeId)
    (name : String) :
    Agree (Document.MovesTo (c.moveTo c')) (fun id id' => id' = (c.moveTo c').shift id)
      (drawLifeline participants interaction name)
      (drawLifeline participants ((c.moveTo c').shift interaction) name) := by
  unfold drawLifeline
  cases participants.kind? name with
  | some _ => exact .attach_moved c c' interaction .participants rfl
  | none => exact .of_throw _ _

lemma Interaction.agree_drawMessage (interaction source target : NodeId) (label : String) :
    Agree (Document.MovesTo (c.moveTo c')) Eq (drawMessage interaction source target label)
      (drawMessage ((c.moveTo c').shift interaction) ((c.moveTo c').shift source)
        ((c.moveTo c').shift target) label) :=
  (Agree.attach_moved c c' interaction .messages rfl).bind fun _ _ _ => .pure rfl

lemma Interaction.agree_draw (participants : ParticipantRegistry) :
    Agree (Document.MovesTo (c.moveTo c')) (fun id id' => id' = id.map (c.moveTo c').shift)
      (draw c.interaction participants) (draw c'.interaction participants) := by
  unfold draw
  split
  · exact .pure rfl
  refine Agree.root.bind ?_
  rintro root _ rfl
  refine (Agree.attach_moved c c' root .ownedElements rfl).bind ?_
  rintro collaboration _ rfl
  refine (Agree.attach_moved c c' collaboration .ownedElements rfl).bind ?_
  rintro interaction _ rfl
  refine (Agree.attach_moved c c' interaction .ownedElements rfl).bind fun _ _ _ => ?_
  refine (Agree.declareSlot interaction .participants).bind fun _ _ _ => ?_
  refine (Agree.declareSlot interaction .messages).bind fun _ _ _ => ?_
  refine (Agree.edges (agree_drawLifeline c c' participants interaction)
    (agree_drawMessage c c' interaction) participants.edges .empty).bind fun _ _ _ => ?_
  exact .pure rfl

/-! ## Assemblies -/

namespace Assembly

/-- The diagrams of two assemblies belong together. -/
structure Diagrams.MovesTo (diagrams diagrams' : Diagrams) : Prop where
  stateMachine : diagrams'.stateMachine = diagrams.stateMachine.map (c.moveTo c').shift
  collaboration : diagrams'.collaboration = diagrams.collaboration.map (c.moveTo c').shift
  unresolved : c.reporting = c'.reporting →
    diagrams'.report.unresolved = diagrams.report.unresolved

lemma agree_drawModel :
    Agree (Document.MovesTo (c.moveTo c')) (fun id id' => id' = (c.moveTo c').shift id)
      (drawModel c) (drawModel c') := by
  refine Agree.root.bind ?_
  rintro root _ rfl
  refine (Agree.attach_moved c c' root .ownedElements rfl).bind ?_
  rintro model _ rfl
  exact (Agree.attach_moved c c' model .ownedElements rfl).bind fun _ _ _ => .pure rfl

lemma agree_drawDiagrams {classes classes' : ClassStore}
    (hb : classes.bindings.Relabels (c.moveTo c').shift classes'.bindings)
    (hrs : classes'.relationships = classes.relationships) (es : List RoutedEdge) :
    Agree (Document.MovesTo (c.moveTo c')) (Diagrams.MovesTo c c') (drawDiagrams c classes es)
      (drawDiagrams c' classes' es) := by
  refine (Relationship.agree_drawAll c c' hb hrs).bind fun report report' hreport => ?_
  refine (StateMachine.agree_draw c c' _).bind fun machine machine' hmachine => ?_
  refine (Interaction.agree_draw c c' _).bind fun collaboration collaboration' hcollaboration => ?_
  exact .pure ⟨hmachine, hcollaboration, hreport⟩

lemma agree_steps (ds : List Declaration) :
    Agree (ClassModel.MovesTo (c.moveTo c'))
      (fun result result' => result'.1 = (c.moveTo c').shift result.1 ∧
        Diagrams.MovesTo c c' result.2 result'.2)
      (steps c ds) (steps c' ds) := by
  refine (agree_drawModel c c').draw.bind ?_
  rintro model _ rfl
  refine (Mapping.agree_mapAll c c' model ds).bind ?_
  rintro es _ rfl
  refine Agree.bind (R := Diagrams.MovesTo c c') ?_ fun diagrams diagrams' h => .pure ⟨rfl, h⟩
  intro state state' after after' diagrams diagrams' hs hrun hrun'
  exact (agree_drawDiagrams c c' hs.bindings hs.relationships es).draw hs hrun hrun'

variable {c c' : AssemblyConfig} {ds : List Declaration} {a a' : Assembly}

/-- The documents before the first step are moved to each other. -/
lemma movesTo_new (c c' : AssemblyConfig) :
    Document.MovesTo (c.moveTo c') (startDocument c) (startDocument c') := by
  have hproject : (c.moveTo c').node (projectNode c) = projectNode c' := by
    have hid : (c.moveTo c').shift (projectId c) = projectId c' := by
      simp [Move.shift, AssemblyConfig.moveTo, projectId]
    rw [projectNode, projectNode, ← hid]
    rfl
  refine ⟨Document.eq_of_nodes rfl ?_, rfl, rfl⟩
  simp [Move.document, startDocument, hproject]

/-- The class models of two assemblies, and their diagrams, are moved to each other. -/
lemma Draws.movesTo {model model' : ClassModel} {diagrams diagrams' : Diagrams}
    (h : Draws c ds a model diagrams) (h' : Draws c' ds a' model' diagrams') :
    model.MovesTo (c.moveTo c') model' ∧ a'.model = (c.moveTo c').shift a.model ∧
      Diagrams.MovesTo c c' diagrams diagrams' := by
  have hstart : ClassModel.MovesTo (c.moveTo c')
      { document := startDocument c } { document := startDocument c' } :=
    ⟨movesTo_new c c', .empty, rfl⟩
  exact agree_steps c c' ds hstart (h.run _ (new_eq c)) (h'.run _ (new_eq c'))

end Assembly

/-- An identifier that occurs in a node: its own, its parent, one of its children, or the target of
a reference. -/
def Node.Mentions (node : Node) (id : NodeId) : Prop :=
  node.id = id ∨ node.parent = some id ∨ id ∈ node.children ∨
    ∃ key, (key, .reference id) ∈ node.fields

namespace Assembly

variable {c c' : AssemblyConfig} {ds : List Declaration} {a a' : Assembly}

lemma seed_le_of_mentions (h : assemble c ds = .ok a) {node : Node}
    (hn : node ∈ a.document.nodes.toList) {id : NodeId} (hid : node.Mentions id) :
    c.seed.toNat ≤ id.value := by
  obtain ⟨hf, hfollows⟩ := follows_of_ok h
  have hhas : a.document.Has id := by
    rcases hid with rfl | hparent | hchild | ⟨key, hreference⟩
    · exact hfollows.sound.has_of_mem hn
    · exact hfollows.sound.has_parent hn hparent
    · obtain ⟨child, hmem, -, rfl⟩ := (hfollows.sound.mem_children_iff hn).mp hchild
      exact hfollows.sound.has_of_mem hmem
    · obtain ⟨target, hget, -⟩ := hfollows.exists_target hf hn hreference
      obtain ⟨hmem, rfl⟩ := hfollows.sound.get?_eq_some_iff.mp hget
      exact hfollows.sound.has_of_mem hmem
  have hroot := hhas.1
  rwa [hfollows.root] at hroot

/-- Two assemblies of the same declarations differ only in the seed and in the names that the
configurations have for the nodes around the diagrams.  The shift of identifiers is the addition of
the difference of the seeds. -/
theorem assemble_moved (h : assemble c ds = .ok a) (h' : assemble c' ds = .ok a') :
    a'.document = (c.moveTo c').document a.document ∧
    a'.model = (c.moveTo c').shift a.model ∧
    a'.stateMachine = a.stateMachine.map (c.moveTo c').shift ∧
    a'.collaboration = a.collaboration.map (c.moveTo c').shift ∧
    a'.resolved = a.resolved ∧
    (c.reporting = c'.reporting → a'.diagnostics = a.diagnostics) ∧
    ∀ node ∈ a.document.nodes.toList, ∀ id, node.Mentions id →
      (((c.moveTo c').shift id).value : ℤ) = id.value + (c'.seed.toNat - c.seed.toNat) := by
  obtain ⟨model, diagrams, hdraws⟩ := exists_draws_of_ok h
  obtain ⟨model', diagrams', hdraws'⟩ := exists_draws_of_ok h'
  obtain ⟨hmodel, hid, hdiagrams⟩ := hdraws.movesTo hdraws'
  have hbindings : (bindings c ds).Relabels (c.moveTo c').shift (bindings c' ds) := by
    have hmoved := hmodel.bindings
    rwa [hdraws.bindings, hdraws'.bindings] at hmoved
  have hnodes : model'.document.nodes.toList =
      model.document.nodes.toList.map (c.moveTo c').node := by
    rw [hmodel.document.eq]
    exact Array.toList_map
  refine ⟨?_, hid, ?_, ?_, ?_, ?_, ?_⟩
  · -- names are replaced in both documents, which the move does not see
    refine Document.eq_of_nodes ?_ (Array.ext' ?_)
    · rw [hdraws'.ids, hmodel.document.eq, Move.document, Move.document, hdraws.ids]
    · rw [hdraws'.nodes, hnodes, Move.document, Array.toList_map, hdraws.nodes, List.map_map,
        List.map_map]
      exact List.map_congr_left fun node _ => Move.resolve_node hbindings node
  · rw [hdraws.eq, hdraws'.eq]
    exact hdiagrams.stateMachine
  · rw [hdraws.eq, hdraws'.eq]
    exact hdiagrams.collaboration
  · rw [hdraws.resolved, hdraws'.resolved, Document.resolvableCount, Document.resolvableCount,
      hnodes, List.map_map]
    exact congrArg List.sum
      (List.map_congr_left fun node _ => Node.resolvableCount_relabel hbindings node)
  · intro hreporting
    rw [hdraws.eq, hdraws'.eq]
    exact hdiagrams.unresolved hreporting
  · intro node hn id hmentions
    have hle := seed_le_of_mentions h hn hmentions
    simp only [Move.shift, AssemblyConfig.moveTo]
    omega

/-- A configuration that has the names of a class, of a state and of a participant for the nodes
around them. -/
theorem assemble_moved_of_names :
    let c' : AssemblyConfig := { seed := 7, project := "A", model := "A", stateMachine := "s"
                                 interaction := { interaction := "p" }, reporting := true }
    let ds : List Declaration :=
      [{ kind := .classType, name := "A", parents := ["B"]
         members := [.field ⟨"f", [], .named "A"⟩, .method ⟨"m", [], .named "void", [],
           [.single .trigger ⟨"s", .one "s"⟩, .single .message ⟨"p", .one "q"⟩]⟩] }]
    ∃ a a', assemble {} ds = .ok a ∧ assemble c' ds = .ok a' ∧
      a'.document = (AssemblyConfig.moveTo {} c').document a.document ∧ a'.resolved = a.resolved ∧
      a'.model = ⟨8⟩ := by
  intro c' ds
  obtain ⟨a, ha, hfollows⟩ := @assemble_of_nodeCount_le {} ds (by decide) (by decide)
  obtain ⟨a', ha', -⟩ := @assemble_of_nodeCount_le c' ds (by decide) (by decide)
  obtain ⟨hdocument, hmodel, -, -, hresolved, -⟩ := assemble_moved ha ha'
  refine ⟨a, a', ha, ha', hdocument, hresolved, ?_⟩
  rw [hmodel, hfollows.model]
  decide

end Assembly

end JavaUml
