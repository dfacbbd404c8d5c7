/-
# The outline of an assembled model

An assembly makes its nodes in a fixed order: the project with its model and class diagram, the
declarations, the relationships, the state machine and the interaction.  Which nodes these are can
be told from the declarations alone (`blueprint`).  The document that is assembled has this outline,
with names replaced by references where they are bound; and there is no document only if an
annotation has a blank name or if there are too few identifiers (`makes_steps`).
-/
import JavaUml.Proofs.ClassModel.Mapping
import JavaUml.Proofs.ClassModel.Relationships
import JavaUml.Proofs.Document.Sweep
import JavaUml.Proofs.Interaction
import JavaUml.Proofs.StateMachine

namespace JavaUml.Assembly

/-! ## The blueprint -/

section Blueprint

variable (config : AssemblyConfig) (ds : List Declaration)

/-- The identifier of the project. -/
def projectId : NodeId := ⟨config.seed.toNat⟩

/-- The identifier of the model. -/
def modelId : NodeId := ⟨config.seed.toNat + 1⟩

/-- What the node of the model starts with. -/
def modelDraft : NodeDraft := { kind := .model, name := some config.model }

/-- What the node of the class diagram starts with. -/
def diagramDraft : NodeDraft :=
  { kind := .classDiagram, name := some config.diagram
    fields := [("defaultDiagram", .flag true)] }

/-- The project. -/
def projectNode : Node :=
  { id := projectId config, kind := .project, name := some config.project }

/-- The model and its class diagram. -/
def modelNodes : List Node :=
  [(modelDraft config).node (modelId config) (projectId config) .ownedElements,
    (diagramDraft config).node ⟨config.seed.toNat + 2⟩ (modelId config) .ownedElements]

/-- The nodes of the declarations, up to the first blank name in an annotation. -/
def classNodes : List Node :=
  chain (Declaration.nodes (modelId config)) (config.seed.toNat + 3) (upTo Declaration.fault? ds)

/-- The classes and interfaces with their identifiers. -/
def entries : List ClassEntry := Declaration.entries (config.seed.toNat + 3) ds

/-- What the names of classes and interfaces stand for. -/
def bindings : NameTable := ClassEntry.table (entries config ds)

/-- The relationships of the declarations in order. -/
def relationships : List Relationship := ds.flatMap Declaration.relationships

/-- The number of the first node after the declarations. -/
def relationshipStart : ℕ := config.seed.toNat + 3 + (classNodes config ds).length

/-- The nodes of the relationships. -/
def relationshipNodes : List Node :=
  chain (Relationship.nodes (bindings config ds)) (relationshipStart config ds) (relationships ds)

/-- What is told about the relationships. -/
def unresolved : List UnresolvedRelationship :=
  (relationships ds).flatMap (Relationship.unresolved (bindings config ds) config.reporting)

/-- The edges of trigger annotations in order. -/
def triggers : List Edge := RoutedEdge.onChannel .trigger (ds.flatMap Declaration.links)

/-- The edges of message annotations in order. -/
def messages : List Edge := RoutedEdge.onChannel .message (ds.flatMap Declaration.links)

/-- The number of the first node after the relationships. -/
def stateMachineStart : ℕ := relationshipStart config ds + (relationshipNodes config ds).length

/-- The nodes of the state machine. -/
def stateMachineNodes : List Node :=
  StateMachine.nodes (projectId config) config.stateMachine (stateMachineStart config ds)
    (triggers ds)

/-- The number of the first node after the state machine. -/
def interactionStart : ℕ := stateMachineStart config ds + (stateMachineNodes config ds).length

/-- The nodes of the interaction. -/
def interactionNodes : List Node :=
  Interaction.nodes (projectId config) config.interaction (interactionStart config ds) (messages ds)

/-- The nodes of the diagrams. -/
def diagramNodes : List Node :=
  relationshipNodes config ds ++ (stateMachineNodes config ds ++ interactionNodes config ds)

/-- All nodes in order, before names are replaced by references. -/
def blueprint : List Node :=
  projectNode config :: (modelNodes config ++ (classNodes config ds ++ diagramNodes config ds))

end Blueprint

/-! ## The steps of an assembly -/

/-- Draws with the classes that are in the store. -/
def drawWith {α : Type} (drawing : ClassStore → Drawing α) : Mapping α :=
  ExceptT.mk fun model => Mapping.run (Mapping.draw (drawing model.classes)) model

/-- What an assembly does up to the replacement of names. -/
def steps (config : AssemblyConfig) (ds : List Declaration) : Mapping (NodeId × Diagrams) := do
  let model ← Mapping.draw (drawModel config)
  let edges ← mapAll model ds
  let diagrams ← drawWith fun classes => drawDiagrams config classes edges
  return (model, diagrams)

/-- The assembly that comes from a run of the steps. -/
def ofRun : Except ModelError (NodeId × Diagrams) × ClassModel → Except ModelError Assembly
  | (.error e, _) => .error e
  | (.ok (model, diagrams), ⟨document, classes⟩) => .ok {
      document := (document.resolveSymbols model classes.bindings).1
      model
      resolved := (document.resolveSymbols model classes.bindings).2
      stateMachine := diagrams.stateMachine
      collaboration := diagrams.collaboration
      diagnostics := diagrams.report.unresolved }

/-- The steps are those of the assembly. -/
lemma assemble_eq_ofRun {config : AssemblyConfig} {document : Document}
    (h : Document.new (.new config.seed) .project config.project = .ok document)
    (ds : List Declaration) :
    assemble config ds = ofRun (Attempt.run (steps config ds) { document }) := by
  have hdraw : Attempt.run (Mapping.draw (drawModel config)) { document } =
      ((Attempt.run (drawModel config) document).1,
        { document := (Attempt.run (drawModel config) document).2 }) := rfl
  -- the assembly threads the state by hand where the steps are one computation
  unfold assemble steps
  conv_lhs => simp only [h, Attempt.run_drawing, Attempt.run_mapping, bind, Except.bind]
  cases hmodel : Attempt.run (drawModel config) document with
  | mk outcome doc₁ =>
    rw [hmodel] at hdraw
    cases outcome with
    | error e =>
      rw [Attempt.run_bind_of_error hdraw]
      rfl
    | ok model =>
      rw [Attempt.run_bind_of_ok hdraw]
      cases hmap : Attempt.run (mapAll model ds) { document := doc₁ } with
      | mk outcome state =>
        cases outcome with
        | error e =>
          rw [Attempt.run_bind_of_error hmap]
          simp only [hmap]
          rfl
        | ok edges =>
          rw [Attempt.run_bind_of_ok hmap]
          simp only [hmap]
          have hwith : Attempt.run (drawWith fun classes => drawDiagrams config classes edges) state
              = ((Attempt.run (drawDiagrams config state.classes edges) state.document).1,
                { state with
                  document := (Attempt.run (drawDiagrams config state.classes edges)
                    state.document).2 }) := rfl
          cases hdiagrams :
              Attempt.run (drawDiagrams config state.classes edges) state.document with
          | mk outcome doc₃ =>
            rw [hdiagrams] at hwith
            cases outcome with
            | error e =>
              rw [Attempt.run_bind_of_error hwith]
              rfl
            | ok diagrams =>
              rw [Attempt.run_bind_of_ok hwith]
              rfl

lemma exists_run_of_ok {config : AssemblyConfig} {document : Document}
    (hnew : Document.new (.new config.seed) .project config.project = .ok document)
    {ds : List Declaration} {a : Assembly} (h : assemble config ds = .ok a) :
    ∃ result model, Attempt.run (steps config ds) { document } = (.ok result, model) ∧
      ofRun (.ok result, model) = .ok a := by
  rw [assemble_eq_ofRun hnew] at h
  cases hrun : Attempt.run (steps config ds) { document } with
  | mk outcome model =>
    rw [hrun] at h
    cases outcome with
    | ok result => exact ⟨result, model, rfl, h⟩
    | error e => cases h

/-! ## What the steps make -/

section Steps

variable {config : AssemblyConfig} {ds : List Declaration} {doc : Document}

lemma makes_drawModel (hs : doc.Sound) (hroot : doc.root = projectId config)
    (hnext : doc.next = config.seed.toNat + 1) :
    Makes (drawModel config) doc (modelNodes config) none
      (fun model _ => model = modelId config) := by
  refine (Makes.root hs).bind ?_
  rintro _ doc - ⟨rfl, rfl⟩
  have hmodel := Makes.attach hs doc.has_root .ownedElements (modelDraft config) .nil
  rw [hroot, hnext] at hmodel
  rw [hroot]
  refine hmodel.bind ?_
  rintro _ doc₁ hg₁ rfl
  have hs₁ : doc₁.Sound := hg₁.sound
  have hm : doc₁.Has (modelId config) := by
    have hnew : doc₁.Has ⟨doc.next⟩ := hg₁.has_new Nat.zero_lt_one
    rwa [hnext] at hnew
  have hdiagram := Makes.attach hs₁ hm .ownedElements (diagramDraft config) .nil
  rw [show doc₁.next = config.seed.toNat + 2 from hg₁.next.trans (congrArg (· + 1) hnext)]
    at hdiagram
  exact hdiagram.bind_pure fun _ _ _ _ _ => rfl

/-- The diagrams are drawn with the names that the declarations have bound. -/
lemma makes_drawDiagrams (hs : doc.Sound) (hroot : doc.root = projectId config)
    (hnext : doc.next = relationshipStart config ds) {classes : ClassStore}
    (hl : classes.Lists (entries config ds) (relationships ds))
    (hb : ∀ entry ∈ entries config ds, doc.Has entry.id) :
    Makes (drawDiagrams config classes (ds.flatMap Declaration.links)) doc
      (diagramNodes config ds) none
      (fun diagrams _ => diagrams.report.unresolved = unresolved config ds ∧
        diagrams.stateMachine =
          (if (triggers ds).isEmpty then none else some ⟨stateMachineStart config ds⟩) ∧
        diagrams.collaboration =
          (if (messages ds).isEmpty then none else some ⟨interactionStart config ds⟩)) := by
  have hbound : ∀ name id, classes.bindings.resolve name = some id → doc.Has id := by
    intro name id h
    rw [hl.bindings, ClassEntry.resolve_table] at h
    obtain ⟨entry, hentry, rfl⟩ := Option.map_eq_some_iff.mp h
    exact hb entry (List.mem_reverse.mp (List.mem_of_find?_eq_some hentry))
  have hrelationships := Relationship.makes_drawAll hs hbound config.reporting
  rw [hl.bindings, hl.relationships, hnext] at hrelationships
  refine hrelationships.bind fun report doc₁ hg₁ hreport => ?_
  have hs₁ : doc₁.Sound := hg₁.sound
  have hnext₁ : doc₁.next = stateMachineStart config ds :=
    hg₁.next.trans (congrArg (· + _) hnext)
  have hroot₁ : doc₁.root = projectId config := hg₁.root.trans hroot
  have hmachine := StateMachine.makes_draw hs₁ config.stateMachine (triggers ds)
  rw [hroot₁, hnext₁] at hmachine
  refine hmachine.bind ?_
  rintro _ doc₂ hg₂ rfl
  have hs₂ : doc₂.Sound := hg₂.sound
  have hnext₂ : doc₂.next = interactionStart config ds :=
    hg₂.next.trans (congrArg (· + _) hnext₁)
  have hroot₂ : doc₂.root = projectId config := hg₂.root.trans hroot₁
  have hinteraction := Interaction.makes_draw hs₂ config.interaction (messages ds)
  rw [hroot₂, hnext₂] at hinteraction
  refine hinteraction.bind_pure ?_
  rintro - _ doc₃ - rfl
  exact ⟨hreport, rfl, rfl⟩

lemma makes_drawWith {α : Type} {model : ClassModel} {drawing : ClassStore → Drawing α}
    {nodes : List Node} {e : Option ModelError} {P : α → Document → Prop}
    (h : Makes (drawing model.classes) model.document nodes e P) :
    Makes (drawWith drawing) model nodes e
      (fun a model' => P a model'.document ∧ model'.classes = model.classes) := by
  cases h.draw with
  | done hrun hg hp => exact .done hrun hg hp
  | failed hroom hrun => exact .failed hroom hrun
  | full hroom hrun => exact .full hroom hrun

/-- What the declarations make after the model was drawn. -/
lemma makes_mapAll_after {model : ClassModel} (hnext : doc.next = config.seed.toNat + 1)
    (hg : doc.Grows model.document (modelNodes config)) (hl : model.classes = .empty)
    (ds : List Declaration) :
    Makes (mapAll (modelId config) ds) model (classNodes config ds)
      (ds.findSome? Declaration.fault?)
      (fun edges model' => edges = ds.flatMap Declaration.links ∧
        model'.classes.Lists (entries config ds) (relationships ds)) := by
  have hm : model.document.Has (modelId config) := by
    have hnew : model.document.Has ⟨doc.next⟩ := hg.has_new Nat.zero_lt_two
    rwa [hnext] at hnew
  have hmap := Mapping.makes_mapAll hg.sound hm ds (hl ▸ .empty)
  rwa [show model.document.next = config.seed.toNat + 3 from
    hg.next.trans (congrArg (· + 2) hnext)] at hmap

lemma makes_steps_of_fault (hs : doc.Sound) (hroot : doc.root = projectId config)
    (hnext : doc.next = config.seed.toNat + 1) {e : ModelError}
    (hf : ds.findSome? Declaration.fault? = some e) :
    Makes (steps config ds) ⟨doc, .empty⟩ (modelNodes config ++ classNodes config ds) (some e)
      (fun _ _ => True) := by
  refine (makes_drawModel hs hroot hnext).draw.bind ?_
  rintro _ model₁ hg₁ ⟨rfl, hclasses⟩
  exact (hf ▸ makes_mapAll_after hnext hg₁ hclasses ds).bind_failed

/-- Without blank names the steps make all nodes of the blueprint but the project. -/
lemma makes_steps (hs : doc.Sound) (hroot : doc.root = projectId config)
    (hnext : doc.next = config.seed.toNat + 1) (hf : ds.findSome? Declaration.fault? = none) :
    Makes (steps config ds) ⟨doc, .empty⟩
      (modelNodes config ++ (classNodes config ds ++ diagramNodes config ds)) none
      (fun result model => result.1 = modelId config ∧
        result.2.report.unresolved = unresolved config ds ∧
        result.2.stateMachine =
          (if (triggers ds).isEmpty then none else some ⟨stateMachineStart config ds⟩) ∧
        result.2.collaboration =
          (if (messages ds).isEmpty then none else some ⟨interactionStart config ds⟩) ∧
        model.classes.bindings = bindings config ds) := by
  refine (makes_drawModel hs hroot hnext).draw.bind ?_
  rintro _ model₁ hg₁ ⟨rfl, hclasses⟩
  have hmap := makes_mapAll_after hnext hg₁ hclasses ds
  rw [hf] at hmap
  refine hmap.bind ?_
  rintro _ model₂ hg₂ ⟨rfl, hl⟩
  have hroot₂ : model₂.document.root = projectId config :=
    hg₂.root.trans (hg₁.root.trans hroot)
  have hnext₂ : model₂.document.next = relationshipStart config ds :=
    hg₂.next.trans (congrArg (· + _) (hg₁.next.trans (congrArg (· + 2) hnext)))
  have hb : ∀ entry ∈ entries config ds, model₂.document.Has entry.id := by
    intro entry hentry
    have hbounds := Declaration.bounds_of_mem_entries hentry
    refine ⟨?_, ?_⟩
    · rw [hroot₂, projectId]
      simp only
      omega
    · rw [hnext₂, relationshipStart, classNodes, upTo_of_findSome?_eq_none hf,
        Declaration.length_chain_nodes hf]
      exact hbounds.2
  -- the store is complete before the first relationship is drawn
  refine (makes_drawWith (makes_drawDiagrams hg₂.sound hroot₂ hnext₂ hl hb)).bind_pure ?_
  rintro - diagrams model₃ - ⟨⟨hreport, hmachine, hcollaboration⟩, hclasses₃⟩
  exact ⟨rfl, hreport, hmachine, hcollaboration, by rw [hclasses₃, hl.bindings, bindings]⟩

end Steps

/-! ## The document -/

section Document

variable {config : AssemblyConfig} {ds : List Declaration}

/-- The document before the first step. -/
def startDocument (config : AssemblyConfig) : Document :=
  ⟨⟨config.seed, 1⟩, #[projectNode config], Nat.one_pos⟩

lemma new_eq (config : AssemblyConfig) :
    Document.new (.new config.seed) .project config.project = .ok (startDocument config) := by
  have hnext : (IdAllocator.new config.seed).next? =
      some (projectId config, ⟨config.seed, 1⟩) := by
    have hroom : (IdAllocator.new config.seed).seed.toNat + 0 < UInt64.size :=
      config.seed.toNat_lt
    exact if_pos hroom
  rw [Document.new, hnext]
  rfl

lemma exists_new (config : AssemblyConfig) :
    ∃ doc, Document.new (.new config.seed) .project config.project = .ok doc ∧ doc.Sound ∧
      doc.outline = [projectNode config] ∧ doc.ids.seed = config.seed ∧
      doc.root = projectId config ∧ doc.next = config.seed.toNat + 1 :=
  ⟨_, new_eq config, Document.sound_new (new_eq config), rfl, rfl, rfl, rfl⟩

/-- An assembly follows the blueprint if its outline is the blueprint with names replaced, and if it
names the nodes of the model, the state machine and the collaboration. -/
structure Follows (config : AssemblyConfig) (ds : List Declaration) (a : Assembly) : Prop where
  sound : a.document.Sound
  outline : a.document.outline = (blueprint config ds).map (Node.resolve (bindings config ds))
  model : a.model = modelId config
  stateMachine : a.stateMachine =
    if (triggers ds).isEmpty then none else some ⟨stateMachineStart config ds⟩
  collaboration : a.collaboration =
    if (messages ds).isEmpty then none else some ⟨interactionStart config ds⟩

namespace Follows

variable {a : Assembly}

lemma root (h : Follows config ds a) : a.document.root = projectId config :=
  Document.root_eq_of_head? (by rw [h.outline]; rfl)

lemma size (h : Follows config ds a) : a.document.size = (blueprint config ds).length := by
  rw [← Document.length_outline, h.outline, List.length_map]

/-- The nodes are numbered from the seed on. -/
lemma ids (h : Follows config ds a) : a.document.nodes.toList.map Node.id =
    (List.range (blueprint config ds).length).map fun i => ⟨config.seed.toNat + i⟩ := by
  have hids : a.document.outline.map Node.id = a.document.nodes.toList.map Node.id := by
    simp [Document.outline, Function.comp_def]
  rw [← hids, h.sound.numbered, h.size, h.root]
  rfl

end Follows

lemma isSettled_of_mem_modelNodes {node : Node} (h : node ∈ modelNodes config) :
    node.IsSettled := by
  rcases List.mem_pair.mp h with rfl | rfl
  · exact NodeDraft.isSettled_node (by simp [modelDraft]) _ _ _
  · exact NodeDraft.isSettled_node (by simp [diagramDraft, Value.IsSettled]) _ _ _

lemma isSettled_of_mem_diagramNodes {node : Node} (h : node ∈ diagramNodes config ds) :
    node.IsSettled := by
  simp only [diagramNodes, List.mem_append] at h
  rcases h with h | h | h
  · obtain ⟨r, -, n, -, hn, -⟩ := exists_of_mem_chain h
    exact Relationship.isSettled_of_mem_nodes hn
  · exact StateMachine.isSettled_of_mem_nodes h
  · exact Interaction.isSettled_of_mem_nodes h

/-- In the blueprint names stand only in the nodes of the declarations, which hang below the
model. -/
lemma hangs_classNodes (config : AssemblyConfig) (ds : List Declaration) :
    Document.Hangs (modelId config) (classNodes config ds) :=
  hangs_chain (fun d _ n => d.hangs_nodes (modelId config) n) _

/-- In a document with the nodes of the blueprint the names are below the model. -/
lemma mem_subtree_or_isSettled {doc : Document} (hs : doc.Sound)
    (hout : doc.outline = blueprint config ds) :
    ∀ node ∈ doc.outline, node.id ∈ doc.subtree (modelId config) ∨ node.IsSettled := by
  have hmodel : (modelDraft config).node (modelId config) (projectId config) .ownedElements ∈
      doc.outline := by
    simp [hout, blueprint, modelNodes]
  obtain ⟨model, hm, hbare⟩ := List.mem_map.mp hmodel
  have hid : model.id = modelId config := congrArg Node.id hbare
  have hsub : classNodes config ds ⊆ doc.outline := by
    intro node hn
    simp [hout, blueprint, hn]
  intro node hn
  simp only [hout, blueprint, List.mem_cons, List.mem_append] at hn
  rcases hn with rfl | hn | hn | hn
  · exact .inr (by simp [projectNode, Node.IsSettled])
  · exact .inr (isSettled_of_mem_modelNodes hn)
  · rw [← hid]
    exact .inl (hs.mem_subtree_of_hangs hm hsub (hid ▸ hangs_classNodes config ds) hn)
  · exact .inr (isSettled_of_mem_diagramNodes hn)

/-! ## The outcome -/

/-- A blank name is an error if there are identifiers for the nodes before it. -/
lemma assemble_of_fault {e : ModelError} (hf : ds.findSome? Declaration.fault? = some e) :
    assemble config ds = .error
      (if config.seed.toNat + 3 + (classNodes config ds).length ≤ UInt64.size then e
        else .idsExhausted config.seed) := by
  obtain ⟨doc, hnew, hs, -, hseed, hroot, hnext⟩ := exists_new config
  have hlength : (modelNodes config ++ classNodes config ds).length =
      2 + (classNodes config ds).length := by
    rw [List.length_append]
    rfl
  rw [assemble_eq_ofRun hnew]
  cases makes_steps_of_fault hs hroot hnext hf with
  | failed hroom hrun =>
    rw [hlength] at hroom
    rw [hrun, if_pos (by simp at hroom; omega)]
    rfl
  | full hroom hrun =>
    rw [hlength] at hroom
    rw [hrun, if_neg (by simp at hroom; omega), Canvas.document_model, hseed]
    rfl

lemma length_blueprint (config : AssemblyConfig) (ds : List Declaration) :
    (blueprint config ds).length =
      3 + (classNodes config ds).length + (diagramNodes config ds).length := by
  simp only [blueprint, modelNodes, List.length_cons, List.length_append, List.length_nil]
  omega

lemma assemble_of_full (hf : ds.findSome? Declaration.fault? = none)
    (hroom : UInt64.size < config.seed.toNat + (blueprint config ds).length) :
    assemble config ds = .error (.idsExhausted config.seed) := by
  obtain ⟨doc, hnew, hs, -, hseed, hroot, hnext⟩ := exists_new config
  rw [assemble_eq_ofRun hnew]
  rw [length_blueprint] at hroom
  cases makes_steps hs hroot hnext hf with
  | done hrun hg _ =>
    have hbounded := hg.sound.bounded
    rw [hg.next] at hbounded
    simp [hnext, modelNodes] at hbounded
    omega
  | full _ hrun =>
    rw [hrun, Canvas.document_model, hseed]
    rfl

/-- If no name is blank and there are enough identifiers, then there is an assembly, and it follows
the blueprint. -/
lemma assemble_of_room (hf : ds.findSome? Declaration.fault? = none)
    (hroom : config.seed.toNat + (blueprint config ds).length ≤ UInt64.size) :
    ∃ a, assemble config ds = .ok a ∧ Follows config ds a := by
  obtain ⟨doc, hnew, hs, hout, hseed, hroot, hnext⟩ := exists_new config
  rw [assemble_eq_ofRun hnew]
  rw [length_blueprint] at hroom
  cases makes_steps hs hroot hnext hf with
  | @done _ result model hrun hg h =>
    obtain ⟨hmodel, -, hmachine, hcollaboration, hbindings⟩ := h
    obtain ⟨id, diagrams⟩ := result
    have houtline : model.document.outline = blueprint config ds := hg.outline.trans (by
      rw [Canvas.document_model, hout]
      rfl)
    simp only at hmodel hmachine hcollaboration
    rw [hrun, hmodel]
    refine ⟨_, rfl, ?_, ?_, rfl, hmachine, hcollaboration⟩
    · exact hg.sound.resolveSymbols _ _
    · rw [hbindings, ← houtline]
      exact hg.sound.outline_resolveSymbols _ (mem_subtree_or_isSettled hg.sound houtline)
  | full hfull _ =>
    simp [hnext, modelNodes] at hfull
    omega

lemma follows_of_ok {a : Assembly} (h : assemble config ds = .ok a) :
    ds.findSome? Declaration.fault? = none ∧ Follows config ds a := by
  cases hf : ds.findSome? Declaration.fault? with
  | some e =>
    rw [assemble_of_fault hf] at h
    cases h
  | none =>
    refine ⟨rfl, ?_⟩
    rcases Nat.lt_or_ge UInt64.size (config.seed.toNat + (blueprint config ds).length) with hr | hr
    · rw [assemble_of_full hf hr] at h
      cases h
    · obtain ⟨b, hb, hfollows⟩ := assemble_of_room hf hr
      rw [hb] at h
      cases h
      exact hfollows

/-- An assembly draws a class model and diagrams if it comes from a run of the steps that ends with
these.  The document of the model still has names. -/
structure Draws (config : AssemblyConfig) (ds : List Declaration) (a : Assembly)
    (model : ClassModel) (diagrams : Diagrams) : Prop where
  run : ∀ doc, Document.new (.new config.seed) .project config.project = .ok doc →
    Attempt.run (steps config ds) { document := doc } = (.ok (a.model, diagrams), model)
  sound : model.document.Sound
  outline : model.document.outline = blueprint config ds
  bindings : model.classes.bindings = bindings config ds
  unresolved : diagrams.report.unresolved = unresolved config ds
  eq : a =
    { document := (model.document.resolveSymbols (modelId config) model.classes.bindings).1
      model := modelId config
      resolved := (model.document.resolveSymbols (modelId config) model.classes.bindings).2
      stateMachine := diagrams.stateMachine
      collaboration := diagrams.collaboration
      diagnostics := diagrams.report.unresolved }

lemma exists_draws_of_ok {a : Assembly} (h : assemble config ds = .ok a) :
    ∃ model diagrams, Draws config ds a model diagrams := by
  obtain ⟨hf, hfollows⟩ := follows_of_ok h
  obtain ⟨doc, hnew, hs, hout, -, hroot, hnext⟩ := exists_new config
  obtain ⟨⟨id, diagrams⟩, model, hrun, hresult⟩ := exists_run_of_ok hnew h
  have hmakes := makes_steps hs hroot hnext hf
  cases hmakes with
  | full _ hfull =>
    rw [hrun] at hfull
    cases hfull
  | @done _ result model' hrun' hg hp =>
    rw [hrun] at hrun'
    cases hrun'
    obtain ⟨hid, hreport, -, -, hbindings⟩ := hp
    obtain rfl : id = modelId config := hid
    have houtline : model.document.outline = blueprint config ds := hg.outline.trans (by
      rw [Canvas.document_model, hout]
      rfl)
    have ha := (Except.ok.inj hresult).symm
    refine ⟨model, diagrams, ?_, hg.sound, houtline, hbindings, hreport, ha⟩
    intro doc' hnew'
    cases hnew.symm.trans hnew'
    rw [hrun, ha]

namespace Draws

variable {a : Assembly} {model : ClassModel} {diagrams : Diagrams}

/-- The document of the assembly is that of the model with names replaced in all nodes. -/
lemma nodes (h : Draws config ds a model diagrams) : a.document.nodes.toList =
    model.document.nodes.toList.map (Node.resolve (Assembly.bindings config ds)) := by
  rw [h.eq, h.bindings]
  exact h.sound.toList_resolveSymbols_of_settled _ (mem_subtree_or_isSettled h.sound h.outline)

lemma ids (h : Draws config ds a model diagrams) : a.document.ids = model.document.ids := by
  rw [h.eq]
  exact (h.sound.foldl_resolveNode _ _ 0).2.1

/-- All names of the document that are bound are counted. -/
lemma resolved (h : Draws config ds a model diagrams) :
    a.resolved = model.document.resolvableCount (Assembly.bindings config ds) := by
  rw [h.eq, h.bindings]
  exact h.sound.count_resolveSymbols _ (mem_subtree_or_isSettled h.sound h.outline)

/-- The names that are bound can be counted in the blueprint. -/
lemma resolved_eq_sum (h : Draws config ds a model diagrams) : a.resolved =
    ((blueprint config ds).map (Node.resolvableCount (Assembly.bindings config ds))).sum := by
  rw [h.resolved, Document.resolvableCount, ← h.outline, Document.outline, List.map_map]
  rfl

lemma diagnostics (h : Draws config ds a model diagrams) :
    a.diagnostics = Assembly.unresolved config ds := by
  rw [h.eq, ← h.unresolved]

end Draws

end Document

end JavaUml.Assembly
