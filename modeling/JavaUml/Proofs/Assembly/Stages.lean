/-
# The stages of an assembly

An assembly first maps its declarations and draws the relationships, which gives a document that is
called its frame here (`IsFrame`), and then it draws the diagrams into the frame, one after the
other (`Staged`).  Edges on the channels of annotations have no part in the frame: without the
annotations of a channel, the same diagrams are drawn into the same frame, except for the one of
this channel (`exists_staged_without`).
-/
import JavaUml.Proofs.Annotation.Without
import JavaUml.Proofs.Assembly.Outcome
import JavaUml.Proofs.Drawing.Beside

namespace JavaUml

/-! ## Mapping without a channel -/

namespace Mapping

variable (channel : Channel)

/-- The annotations of methods leave the class model as it is. -/
lemma agree_mapMember_without (className : String) (classNode : NodeId) (member : Member) :
    Agree Eq (fun _ _ => True) (mapMember className classNode member)
      (mapMember className classNode (member.without channel)) := by
  cases member with
  | field f => exact (Agree.refl _).imp fun _ _ _ => trivial
  | other => exact (Agree.refl _).imp fun _ _ _ => trivial
  | method m =>
    have hmap : mapMember className classNode (.method (m.without channel)) =
        draw (drawMethod classNode m) >>= fun _ => outcome (annotationEdges (m.without channel)) :=
      rfl
    rw [Member.without, hmap]
    exact (Agree.refl (draw (drawMethod classNode m))).bind fun _ _ _ =>
      .outcome fun _ _ _ _ => trivial

lemma agree_mapDeclaration_without (owner : NodeId) (d : Declaration) :
    Agree Eq (fun _ _ => True) (mapDeclaration owner d)
      (mapDeclaration owner (d.without channel)) := by
  refine (Agree.refl (draw (Drawing.attach owner .ownedElements d.draft))).bind ?_
  rintro id _ rfl
  refine (Agree.refl (store (·.addClass ⟨d.name, d.kind, id⟩))).bind fun _ _ _ => ?_
  refine (Agree.refl (store (·.addRelationships d.supertypes))).bind fun _ _ _ => ?_
  have hloop : (d.without channel).members.mapM (mapMember d.name id) =
      d.members.mapM fun member => mapMember d.name id (member.without channel) :=
    List.mapM_map
  have hmembers := Agree.mapM (agree_mapMember_without channel d.name id) d.members
  rw [← hloop] at hmembers
  exact hmembers.bind fun _ _ _ => .pure trivial

lemma agree_mapAll_without (model : NodeId) (ds : List Declaration) :
    Agree Eq (fun _ _ => True) (Assembly.mapAll model ds)
      (Assembly.mapAll model (ds.map (Declaration.without channel))) := by
  have hloop : (ds.map (Declaration.without channel)).mapM (mapDeclaration model) =
      ds.mapM fun d => mapDeclaration model (d.without channel) :=
    List.mapM_map
  unfold Assembly.mapAll
  rw [hloop]
  exact (Agree.mapM (agree_mapDeclaration_without channel model) ds).bind fun _ _ _ => .pure trivial

end Mapping

namespace Assembly

variable {config : AssemblyConfig} {ds : List Declaration} {a a' : Assembly}

/-! ## The stages of an assembly -/

/-- A document is that of an assembly before its diagrams are drawn. -/
structure IsFrame (config : AssemblyConfig) (doc : Document) : Prop where
  sound : doc.Sound
  outline : ∃ rest, doc.outline = projectNode config :: (modelNodes config ++ rest)

/-- The diagrams of an assembly are drawn one after the other, and at last names are replaced. -/
structure Staged (config : AssemblyConfig) (ds : List Declaration) (a : Assembly)
    (doc machineDoc after : Document) : Prop where
  stateMachine : Attempt.run (StateMachine.draw config.stateMachine
    ((triggers ds).foldl StateRegistry.addTransition .empty)) doc = (.ok a.stateMachine, machineDoc)
  collaboration : Attempt.run (Interaction.draw config.interaction
    ((messages ds).foldl ParticipantRegistry.addMessage .empty)) machineDoc =
      (.ok a.collaboration, after)
  nodes : a.document.nodes.toList = after.nodes.toList.map (Node.resolve (bindings config ds))
  ids : a.document.ids = after.ids

/-- The classes have the numbers of nodes of the declarations. -/
lemma has_of_mem_entries {doc : Document} (hf : ds.findSome? Declaration.fault? = none)
    (hroot : doc.root = projectId config) (hnext : doc.next = relationshipStart config ds)
    {entry : ClassEntry} (h : entry ∈ entries config ds) : doc.Has entry.id := by
  obtain ⟨hle, hlt⟩ := Declaration.bounds_of_mem_entries h
  refine ⟨?_, ?_⟩
  · rw [hroot, projectId]
    simp only
    omega
  · rwa [hnext, relationshipStart, classNodes, upTo_of_findSome?_eq_none hf,
      Declaration.length_chain_nodes hf]

/-- An assembly draws a frame from its declarations and relationships, and then the diagrams. -/
lemma exists_staged (h : assemble config ds = .ok a) :
    ∃ top model edges state report doc machineDoc after,
      Attempt.run (Mapping.draw (drawModel config)) { document := startDocument config } =
        (.ok top, model) ∧
      Attempt.run (mapAll top ds) model = (.ok edges, state) ∧
      Attempt.run (Relationship.drawAll config.reporting state.classes) state.document =
        (.ok report, doc) ∧
      IsFrame config doc ∧ Staged config ds a doc machineDoc after := by
  obtain ⟨final, diagrams, hdraws⟩ := exists_draws_of_ok h
  obtain ⟨hf, -⟩ := follows_of_ok h
  obtain ⟨doc, hnew, hs, hout, -, hroot, hnext⟩ := exists_new config
  cases (new_eq config).symm.trans hnew
  obtain ⟨top, model, hmodel, hrun⟩ := Attempt.exists_of_run_bind (hdraws.run _ (new_eq config))
  obtain ⟨edges, state, hmap, hrun⟩ := Attempt.exists_of_run_bind hrun
  obtain ⟨diagrams', final', hdiagrams, hrun⟩ := Attempt.exists_of_run_bind hrun
  cases hrun
  -- the model and the declarations
  obtain ⟨hg₁, htop, hclasses⟩ := (makes_drawModel hs hroot hnext).draw.of_run hmodel
  have hmakes := makes_mapAll_after hnext hg₁ hclasses ds
  rw [← htop] at hmakes
  obtain ⟨hg₂, rfl, hl⟩ := hmakes.of_run hmap
  have hroot₂ : state.document.root = projectId config := hg₂.root.trans (hg₁.root.trans hroot)
  have hnext₂ : state.document.next = relationshipStart config ds :=
    hg₂.next.trans (congrArg (· + _) (hg₁.next.trans (congrArg (· + 2) hnext)))
  -- the diagrams, one after the other
  have hdraw : Attempt.run (Mapping.draw (drawDiagrams config state.classes
      (ds.flatMap Declaration.links))) state = (.ok diagrams, final) := hdiagrams
  obtain ⟨hdraw, -⟩ := Attempt.run_draw hdraw
  obtain ⟨report, doc, hreport, hdraw⟩ := Attempt.exists_of_run_bind hdraw
  obtain ⟨machine, machineDoc, hmachine, hdraw⟩ := Attempt.exists_of_run_bind hdraw
  obtain ⟨collaboration, after, hcollaboration, hdraw⟩ := Attempt.exists_of_run_bind hdraw
  obtain ⟨rfl, hfinal⟩ : (⟨report, machine, collaboration⟩ : Diagrams) = diagrams ∧
      after = final.document := by
    cases hdraw
    exact ⟨rfl, rfl⟩
  have hbound : ∀ name id, state.classes.bindings.resolve name = some id →
      state.document.Has id := by
    intro name id hname
    rw [hl.bindings, ClassEntry.resolve_table] at hname
    obtain ⟨entry, hentry, rfl⟩ := Option.map_eq_some_iff.mp hname
    exact has_of_mem_entries hf hroot₂ hnext₂
      (List.mem_reverse.mp (List.mem_of_find?_eq_some hentry))
  obtain ⟨hg₃, -⟩ :=
    (Relationship.makes_drawAll hg₂.sound hbound config.reporting).of_run hreport
  refine ⟨a.model, model, _, state, report, doc, machineDoc, after, hmodel, hmap, hreport,
    ⟨hg₃.sound, classNodes config ds ++ chain (Relationship.nodes state.classes.bindings)
      state.document.next state.classes.relationships, ?_⟩, ?_, ?_, ?_, ?_⟩
  · have hgrows := (hg₁.trans hg₂).trans hg₃
    rw [Canvas.document_eq, Canvas.document_model] at hgrows
    rw [hgrows.outline, hout, List.append_assoc]
    rfl
  · rw [hdraws.eq]
    exact hmachine
  · rw [hdraws.eq]
    exact hcollaboration
  · rw [hfinal]
    exact hdraws.nodes
  · rw [hfinal]
    exact hdraws.ids

/-! ## Assemblies without a channel -/

section Without

variable (channel : Channel)

lemma triggers_without (ds : List Declaration) :
    triggers (ds.map (Declaration.without channel)) =
      if .trigger = channel then [] else triggers ds := by
  rw [triggers, triggers, List.flatMap_map, RoutedEdge.onChannel_flatMap,
    RoutedEdge.onChannel_flatMap]
  simp only [Declaration.onChannel_links_without]
  split
  · exact List.flatMap_eq_nil_iff.mpr fun _ _ => rfl
  · rfl

lemma messages_without (ds : List Declaration) :
    messages (ds.map (Declaration.without channel)) =
      if .message = channel then [] else messages ds := by
  rw [messages, messages, List.flatMap_map, RoutedEdge.onChannel_flatMap,
    RoutedEdge.onChannel_flatMap]
  simp only [Declaration.onChannel_links_without]
  split
  · exact List.flatMap_eq_nil_iff.mpr fun _ _ => rfl
  · rfl

/-- The names of classes stand for the same nodes. -/
lemma bindings_without (config : AssemblyConfig) (ds : List Declaration) :
    bindings config (ds.map (Declaration.without channel)) = bindings config ds := by
  have hsize : ∀ d : Declaration, (d.without channel).size = d.size := by
    intro d
    rw [Declaration.size, Declaration.size, Declaration.without, List.map_map]
    congr 2
    refine List.map_congr_left fun member _ => ?_
    cases member <;> rfl
  have hentries : ∀ n, Declaration.entries n (ds.map (Declaration.without channel)) =
      Declaration.entries n ds := by
    induction ds with
    | nil => exact fun _ => rfl
    | cons d ds ih =>
      intro n
      rw [List.map_cons, Declaration.entries, hsize, ih]
      rfl
  rw [bindings, bindings, entries, entries, hentries]

/-- Without a channel there are at most as many nodes. -/
lemma nodeCount_without_le (ds : List Declaration) :
    nodeCount (ds.map (Declaration.without channel)) ≤ nodeCount ds := by
  have hmembers : ∀ d : Declaration, 1 + (d.without channel).fields.length +
        ((d.without channel).methods.map fun m => 2 + m.parameters.length).sum =
      1 + d.fields.length + (d.methods.map fun m => 2 + m.parameters.length).sum := by
    intro d
    rw [d.fields_without, d.methods_without, List.map_map]
    rfl
  have hsupertypes : supertypes (ds.map (Declaration.without channel)) = supertypes ds :=
    List.flatMap_map _ _ ds
  have haggregations : aggregations (ds.map (Declaration.without channel)) = aggregations ds := by
    rw [aggregations, List.flatMap_map]
    simp only [Declaration.fields_without]
    rfl
  have hdeclared : ∀ rs : List Relationship,
      rs.countP (IsDeclared (ds.map (Declaration.without channel)) ·) =
        rs.countP (IsDeclared ds ·) := by
    intro rs
    have hnames : (ds.map (Declaration.without channel)).map Declaration.name =
        ds.map Declaration.name := List.map_map
    refine List.countP_congr fun r _ => ?_
    rw [decide_eq_true_iff, decide_eq_true_iff, IsDeclared, IsDeclared, hnames]
  rw [nodeCount, nodeCount, hsupertypes, haggregations, hdeclared, hdeclared, triggers_without,
    messages_without, List.map_map]
  simp only [Function.comp_def, hmembers]
  -- on the channel that was left out nothing is drawn
  cases channel <;> simp

lemma exists_assemble_without (h : assemble config ds = .ok a) :
    ∃ a', assemble config (ds.map (Declaration.without channel)) = .ok a' := by
  obtain ⟨hf, hroom⟩ := nodeCount_le_of_ok h
  have hwithout : (ds.map (Declaration.without channel)).findSome? Declaration.fault? = none := by
    rw [List.findSome?_eq_none_iff] at hf ⊢
    intro d hd
    obtain ⟨e, he, rfl⟩ := List.mem_map.mp hd
    exact Declaration.fault?_without (hf e he)
  obtain ⟨a', ha', -⟩ := assemble_of_nodeCount_le hwithout
    (Nat.le_trans (Nat.add_le_add_left (nodeCount_without_le channel ds) _) hroom)
  exact ⟨a', ha'⟩

/-- The diagrams are drawn in the same frame. -/
lemma exists_staged_without (h : assemble config ds = .ok a)
    (h' : assemble config (ds.map (Declaration.without channel)) = .ok a') :
    ∃ doc machineDoc after machineDoc' after', IsFrame config doc ∧
      Staged config ds a doc machineDoc after ∧
      Staged config (ds.map (Declaration.without channel)) a' doc machineDoc' after' := by
  obtain ⟨top, model, edges, state, report, doc, machineDoc, after, hmodel, hmap, hreport, hframe,
    hstaged⟩ := exists_staged h
  obtain ⟨top', model', edges', state', report', doc', machineDoc', after', hmodel', hmap',
    hreport', -, hstaged'⟩ := exists_staged h'
  cases hmodel.symm.trans hmodel'
  obtain ⟨rfl, -⟩ := Mapping.agree_mapAll_without channel top ds rfl hmap hmap'
  cases hreport.symm.trans hreport'
  exact ⟨doc, machineDoc, after, machineDoc', after', hframe, hstaged, hstaged'⟩

end Without

/-! ## Frames -/

namespace IsFrame

variable {doc after : Document}

lemma root (h : IsFrame config doc) : doc.root = projectId config := by
  obtain ⟨rest, hout⟩ := h.outline
  exact Document.root_eq_of_head? (by rw [hout]; rfl)

lemma of_grows (h : IsFrame config doc) {nodes : List Node} (hg : doc.Grows after nodes) :
    IsFrame config after := by
  obtain ⟨rest, hout⟩ := h.outline
  exact ⟨hg.sound, rest ++ nodes, by rw [hg.outline, hout]; simp⟩

/-- A diagram is one more child of the root, which has such children already. -/
lemma hosting_eq (h : IsFrame config doc) : doc.hosting = doc.nodes.toList.map fun node =>
    if node.id = doc.root then { node with children := node.children ++ [⟨doc.next⟩] }
    else node := by
  obtain ⟨rest, hout⟩ := h.outline
  have hmodel : (modelDraft config).node (modelId config) (projectId config) .ownedElements ∈
      doc.outline := by
    simp [hout, modelNodes]
  refine List.map_congr_left fun node hn => ?_
  by_cases hroot : node.id = doc.root
  · rw [if_pos hroot, if_pos hroot]
    have hparent : some (projectId config) = some node.id := by rw [hroot, h.root]
    obtain ⟨slot, hslot, hs⟩ := h.sound.declared node hn _ hmodel hparent
    obtain rfl : Slot.ownedElements = slot := Option.some.inj hs
    rw [Node.adopt, Node.declareSlot, if_pos hslot]
  · rw [if_neg hroot, if_neg hroot]

end IsFrame

end Assembly

end JavaUml
