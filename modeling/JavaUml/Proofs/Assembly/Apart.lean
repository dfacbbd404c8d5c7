/-
# The diagrams of a model do not interfere

The class model, the state machine and the interaction are drawn into one document, with one source
of identifiers.  Nevertheless each of them is what it would be without the others.  What is drawn
later leaves what is there as it is, but for one more child of the root; and what is drawn into two
documents is the same, but for the numbers that the new nodes begin with (`Document.Beside`).

So without messages the document is what comes before the collaboration, and without triggers the
numbers in the collaboration are smaller by the number of nodes of the state machine
(`diagrams_apart`).  Names have no part in this: the nodes for classes, states and participants are
looked up in different tables.
-/
import JavaUml.Proofs.Assembly.References
import JavaUml.Proofs.Assembly.Stages
import JavaUml.Proofs.Drawing.Strokes

namespace JavaUml

open Document (Beside)

/-! ## Diagrams beside other nodes -/

section Diagrams

variable {base base' : List Node} {start start' : ℕ}

/-- A node without references is attached below a new node. -/
lemma Agree.attach_beside_plain {parent : NodeId} (hp : start ≤ parent.value) (slot : Slot)
    {draft : NodeDraft} (hd : draft.slots.Nodup)
    (hfields : ∀ field ∈ draft.fields, ∀ id, field.2 ≠ .reference id) :
    Agree (Beside base base' start start')
      (fun id id' => id' = id.shifted start start' ∧ start ≤ id.value)
      (Drawing.attach parent slot draft)
      (Drawing.attach (parent.shifted start start') slot draft) := by
  have hattach : Agree (Beside base base' start start') _ (Drawing.attach parent slot draft) _ :=
    Agree.attach_beside hp slot hd
  rwa [NodeDraft.relabel, FieldList.relabel_eq_self hfields] at hattach

variable {doc doc' after after' : Document}

lemma StateMachine.agree_drawVertex_beside (states : StateRegistry) {region : NodeId}
    (hr : start ≤ region.value) (name : String) :
    Agree (Beside base base' start start') (fun id id' => id' = id.shifted start start')
      (drawVertex states region name) (drawVertex states (region.shifted start start') name) := by
  unfold drawVertex
  cases states.kind? name with
  | none => exact .of_throw _ _
  | some kind =>
    refine (Agree.attach_beside_plain hr .vertices ?_ ?_).imp fun _ _ h => h.1
    · cases kind <;> exact .nil
    · cases kind <;> simp [VertexKind.draft]

lemma StateMachine.agree_drawTransition_beside {region : NodeId} (hr : start ≤ region.value)
    (source target : NodeId) (label : String) :
    Agree (Beside base base' start start') Eq (drawTransition region source target label)
      (drawTransition (region.shifted start start') (source.shifted start start')
        (target.shifted start start') label) := by
  refine (Agree.attach_beside hr .transitions (by exact .nil)).bind ?_
  rintro transition _ ⟨rfl, ht⟩
  refine (Agree.attach_beside_plain ht .triggers (by exact .nil) (by simp)).bind ?_
  exact fun _ _ _ => .pure rfl

/-- A state machine that is drawn in two documents is the same beside what was there before. -/
lemma StateMachine.beside_of_draw (h : doc.Sound) (h' : doc'.Sound) (hroot : doc'.root = doc.root)
    {name : String} {states : StateRegistry} (hne : states.isEmpty = false)
    {machine machine' : Option NodeId}
    (hrun : Attempt.run (draw name states) doc = (.ok machine, after))
    (hrun' : Attempt.run (draw name states) doc' = (.ok machine', after')) :
    Beside doc.hosting doc'.hosting doc.next doc'.next after after' := by
  unfold draw at hrun hrun'
  rw [if_neg (by simp [hne])] at hrun hrun'
  obtain ⟨root, doc₀, hget, hrun⟩ := Attempt.exists_of_run_bind hrun
  obtain ⟨root', doc₀', hget', hrun'⟩ := Attempt.exists_of_run_bind hrun'
  cases hget
  cases hget'
  obtain ⟨id, doc₁, hattach, hrun⟩ := Attempt.exists_of_run_bind hrun
  obtain ⟨id', doc₁', hattach', hrun'⟩ := Attempt.exists_of_run_bind hrun'
  obtain ⟨rfl, rfl, hbeside⟩ := Document.beside_of_attach_root h h' hroot (by exact .nil) (by simp)
    (Attempt.eq_ok_of_run_step hattach) (Attempt.eq_ok_of_run_step hattach')
  suffices hrest : Agree (Beside doc.hosting doc'.hosting doc.next doc'.next)
      (fun _ _ => True) _ _ from (hrest hbeside hrun hrun').1
  refine (Agree.attach_beside_plain (Nat.le_refl _) .regions (by decide) (by simp)).bind ?_
  rintro region _ ⟨rfl, hr⟩
  exact (Agree.edges (agree_drawVertex_beside states hr) (agree_drawTransition_beside hr)
    states.edges .empty).bind fun _ _ _ => .pure trivial

lemma Interaction.agree_drawLifeline_beside (participants : ParticipantRegistry)
    {interaction : NodeId} (hi : start ≤ interaction.value) (name : String) :
    Agree (Beside base base' start start') (fun id id' => id' = id.shifted start start')
      (drawLifeline participants interaction name)
      (drawLifeline participants (interaction.shifted start start') name) := by
  unfold drawLifeline
  cases participants.kind? name with
  | none => exact .of_throw _ _
  | some kind =>
    exact (Agree.attach_beside_plain hi .participants (by exact .nil) (by simp)).imp
      fun _ _ h => h.1

lemma Interaction.agree_drawMessage_beside {interaction : NodeId} (hi : start ≤ interaction.value)
    (source target : NodeId) (label : String) :
    Agree (Beside base base' start start') Eq (drawMessage interaction source target label)
      (drawMessage (interaction.shifted start start') (source.shifted start start')
        (target.shifted start start') label) :=
  (Agree.attach_beside hi .messages (by exact .nil)).bind fun _ _ _ => .pure rfl

/-- An interaction that is drawn in two documents is the same beside what was there before. -/
lemma Interaction.beside_of_draw (h : doc.Sound) (h' : doc'.Sound) (hroot : doc'.root = doc.root)
    {names : Names} {participants : ParticipantRegistry} (hne : participants.isEmpty = false)
    {collaboration collaboration' : Option NodeId}
    (hrun : Attempt.run (draw names participants) doc = (.ok collaboration, after))
    (hrun' : Attempt.run (draw names participants) doc' = (.ok collaboration', after')) :
    Beside doc.hosting doc'.hosting doc.next doc'.next after after' := by
  unfold draw at hrun hrun'
  rw [if_neg (by simp [hne])] at hrun hrun'
  obtain ⟨root, doc₀, hget, hrun⟩ := Attempt.exists_of_run_bind hrun
  obtain ⟨root', doc₀', hget', hrun'⟩ := Attempt.exists_of_run_bind hrun'
  cases hget
  cases hget'
  obtain ⟨id, doc₁, hattach, hrun⟩ := Attempt.exists_of_run_bind hrun
  obtain ⟨id', doc₁', hattach', hrun'⟩ := Attempt.exists_of_run_bind hrun'
  obtain ⟨rfl, rfl, hbeside⟩ := Document.beside_of_attach_root h h' hroot (by exact .nil) (by simp)
    (Attempt.eq_ok_of_run_step hattach) (Attempt.eq_ok_of_run_step hattach')
  suffices hrest : Agree (Beside doc.hosting doc'.hosting doc.next doc'.next)
      (fun _ _ => True) _ _ from (hrest hbeside hrun hrun').1
  refine (Agree.attach_beside_plain (Nat.le_refl _) .ownedElements (by exact .nil)
    (by simp)).bind ?_
  rintro interaction _ ⟨rfl, hi⟩
  refine (Agree.attach_beside_plain hi .ownedElements (by exact .nil) (by simp)).bind
    fun _ _ _ => ?_
  refine (Agree.declareSlot_beside hi .participants).bind fun _ _ _ => ?_
  refine (Agree.declareSlot_beside hi .messages).bind fun _ _ _ => ?_
  exact (Agree.edges (agree_drawLifeline_beside participants hi) (agree_drawMessage_beside hi)
    participants.edges .empty).bind fun _ _ _ => .pure trivial

end Diagrams

/-- Other identifiers do not put names into fields. -/
lemma Node.IsSettled.relabel {node : Node} (h : node.IsSettled) (f : NodeId → NodeId) :
    (node.relabel f).IsSettled := by
  intro field hfield name hname
  obtain ⟨old, hold, rfl⟩ := List.mem_map.mp hfield
  have hvalue := h old hold
  cases hv : old.2 with
  | symbol name => exact hvalue name hv
  | _ =>
    rw [hv] at hname
    cases hname

namespace Assembly

variable {config : AssemblyConfig} {ds : List Declaration} {a a' : Assembly}

/-! ## What the diagrams leave -/

namespace Staged

variable {doc machineDoc after : Document}

lemma machine (h : Staged config ds a doc machineDoc after) (hframe : IsFrame config doc) :
    doc.Grows machineDoc (StateMachine.nodes doc.root config.stateMachine doc.next (triggers ds)) :=
  ((StateMachine.makes_draw hframe.sound config.stateMachine (triggers ds)).of_run h.stateMachine).1

lemma interaction (h : Staged config ds a doc machineDoc after) (hframe : IsFrame config doc) :
    machineDoc.Grows after
        (Interaction.nodes machineDoc.root config.interaction machineDoc.next (messages ds)) ∧
      a.collaboration = if (messages ds).isEmpty then none else some ⟨machineDoc.next⟩ :=
  (Interaction.makes_draw (h.machine hframe).sound config.interaction (messages ds)).of_run
    h.collaboration

/-- Without triggers there is no state machine. -/
lemma of_triggers_eq_nil (h : Staged config ds a doc machineDoc after) (ht : triggers ds = []) :
    doc = machineDoc ∧ a.stateMachine = none := by
  have hrun := h.stateMachine
  rw [ht] at hrun
  obtain ⟨hnone, hdoc⟩ := Prod.mk.inj (show (Except.ok none, doc) = _ from hrun)
  exact ⟨hdoc, (Except.ok.inj hnone).symm⟩

/-- Without messages there is no interaction. -/
lemma of_messages_eq_nil (h : Staged config ds a doc machineDoc after) (hm : messages ds = []) :
    machineDoc = after ∧ a.collaboration = none := by
  have hrun := h.collaboration
  rw [hm] at hrun
  obtain ⟨hnone, hdoc⟩ := Prod.mk.inj (show (Except.ok none, machineDoc) = _ from hrun)
  exact ⟨hdoc, (Except.ok.inj hnone).symm⟩

/-- An interaction is drawn beside the nodes that are there before it. -/
lemma nodes_of_messages (h : Staged config ds a doc machineDoc after) (hframe : IsFrame config doc)
    (hm : messages ds ≠ []) :
    ∃ new, a.document.nodes.toList = (machineDoc.hosting ++ new).map
        (Node.resolve (bindings config ds)) ∧
      (∀ node ∈ machineDoc.hosting, node.id.value < machineDoc.next) ∧
      ∀ node ∈ new, machineDoc.next ≤ node.id.value := by
  have hs := (h.machine hframe).sound
  have hne : ((messages ds).foldl ParticipantRegistry.addMessage .empty).isEmpty = false :=
    Registry.isEmpty_foldl_connect (fun _ => ()) hm
  have hbeside := Interaction.beside_of_draw hs hs rfl hne h.collaboration h.collaboration
  obtain ⟨new, hnew, -⟩ := hbeside.new
  have hbounds := hbeside.sound.bounds_of_append hnew
  rw [hbeside.length] at hbounds
  exact ⟨new, by rw [h.nodes, hnew], hbounds⟩

/-- Beside the root, the nodes of the frame are in the assembly as they are, but for the names that
are replaced. -/
lemma mem_of_frame (h : Staged config ds a doc machineDoc after) (hframe : IsFrame config doc)
    {node : Node} (hn : node ∈ doc.nodes.toList) (hid : node.id ≠ doc.root) :
    node.resolve (bindings config ds) ∈ a.document.nodes.toList := by
  have hg := h.machine hframe
  have hmachine : node ∈ machineDoc.nodes.toList := by
    by_cases ht : triggers ds = []
    · rwa [← (h.of_triggers_eq_nil ht).1]
    · have hne : ((triggers ds).foldl StateRegistry.addTransition .empty).isEmpty = false :=
        Registry.isEmpty_foldl_connect VertexKind.ofName ht
      obtain ⟨new, hnew, -⟩ := (StateMachine.beside_of_draw hframe.sound hframe.sound rfl hne
        h.stateMachine h.stateMachine).new
      rw [hnew]
      exact List.mem_append_left _ (Document.mem_hosting hn hid)
  by_cases hm : messages ds = []
  · rw [h.nodes, ← (h.of_messages_eq_nil hm).1]
    exact List.mem_map_of_mem hmachine
  · obtain ⟨new, hnew, -⟩ := h.nodes_of_messages hframe hm
    rw [hnew]
    exact List.mem_map_of_mem
      (List.mem_append_left _ (Document.mem_hosting hmachine (hg.root ▸ hid)))

end Staged

/-- Without messages what comes before the collaboration is left. -/
lemma nodes_without_messages (h : assemble config ds = .ok a)
    (h' : assemble config (ds.map (Declaration.without .message)) = .ok a') :
    a'.stateMachine = a.stateMachine ∧ a'.collaboration = none ∧
      (a.collaboration = none → a'.document = a.document) ∧
      ∀ collaboration, a.collaboration = some collaboration →
        a'.document.nodes.toList =
          (a.document.nodes.toList.filter fun node => node.id.value < collaboration.value).map
            fun node => if node.id = a.document.root then
              { node with children := node.children.erase collaboration } else node := by
  obtain ⟨doc, machineDoc, after, machineDoc', after', hframe, hs, hs'⟩ :=
    exists_staged_without .message h h'
  have hmachine := hs'.stateMachine
  rw [triggers_without, if_neg (by decide)] at hmachine
  obtain ⟨hmachineEq, rfl⟩ := Prod.mk.inj (hs.stateMachine.symm.trans hmachine)
  obtain ⟨rfl, hnone⟩ := hs'.of_messages_eq_nil (by rw [messages_without, if_pos rfl])
  obtain ⟨hg, hcollaboration⟩ := hs.interaction hframe
  have hframe' := hframe.of_grows (hs.machine hframe)
  have hnodes' := hs'.nodes
  rw [bindings_without] at hnodes'
  refine ⟨(Except.ok.inj hmachineEq).symm, hnone, fun hempty => ?_, fun collaboration hsome => ?_⟩
  · cases hmessages : messages ds with
    | nil =>
      obtain ⟨rfl, -⟩ := hs.of_messages_eq_nil hmessages
      exact Document.eq_of_nodes (hs'.ids.trans hs.ids.symm)
        (Array.ext' (hnodes'.trans hs.nodes.symm))
    | cons e es =>
      rw [hcollaboration, hmessages] at hempty
      cases hempty
  · cases hmessages : messages ds with
    | nil =>
      rw [hcollaboration, hmessages] at hsome
      cases hsome
    | cons e es =>
      obtain rfl : ⟨machineDoc.next⟩ = collaboration := by
        rw [hcollaboration, hmessages] at hsome
        exact Option.some.inj hsome
      obtain ⟨new, hnew, hold, hlater⟩ := hs.nodes_of_messages hframe (by simp [hmessages])
      have hroot : a.document.root = machineDoc.root := by
        rw [(follows_of_ok h).2.root, hframe'.root]
      have hbefore : (machineDoc.hosting ++ new).filter
          (fun node => node.id.value < machineDoc.next) = machineDoc.hosting := by
        rw [List.filter_append, List.filter_eq_self.mpr (by simpa using hold),
          List.filter_eq_nil_iff.mpr (by simpa using hlater), List.append_nil]
      have hfilter : ((machineDoc.hosting ++ new).map (Node.resolve (bindings config ds))).filter
          (fun node => node.id.value < machineDoc.next) =
          machineDoc.hosting.map (Node.resolve (bindings config ds)) := by
        rw [List.filter_map]
        exact congrArg (List.map _) hbefore
      rw [hnodes', hnew, hfilter, hframe'.hosting_eq, List.map_map, List.map_map, hroot]
      refine List.map_congr_left fun node hn => ?_
      by_cases hid : node.id = machineDoc.root
      · -- the collaboration is no child from before
        have hnot : (⟨machineDoc.next⟩ : NodeId) ∉ node.children := by
          intro hmem
          obtain ⟨child, hc, -, hchild⟩ := (hframe'.sound.mem_children_iff hn).mp hmem
          have hlt := (hframe'.sound.has_of_mem hc).2
          rw [hchild] at hlt
          exact Nat.lt_irrefl _ hlt
        simp [hid, Node.resolve, List.erase_append_right _ hnot]
      · simp [hid, Node.resolve]

/-- What is below the model does not depend on the diagrams. -/
lemma subtree_model_eq {ds' : List Declaration} {doc machineDoc after machineDoc' after' : Document}
    (hframe : IsFrame config doc) (hs : Staged config ds a doc machineDoc after)
    (hs' : Staged config ds' a' doc machineDoc' after')
    (hb : bindings config ds' = bindings config ds)
    (h : Follows config ds a) (h' : Follows config ds' a') :
    a'.document.subtree a'.model = a.document.subtree a.model ∧
      ∀ id ∈ a.document.subtree a.model, a'.document.get? id = a.document.get? id := by
  -- in both documents there are the nodes of the frame
  have hnode : ∀ id, doc.Has id → id ≠ doc.root → ∃ node ∈ doc.nodes.toList, node.id = id ∧
      node.resolve (bindings config ds) ∈ a.document.nodes.toList ∧
      node.resolve (bindings config ds) ∈ a'.document.nodes.toList := by
    intro id hid hne
    obtain ⟨node, hn, rfl⟩ := hframe.sound.exists_of_has hid
    exact ⟨node, hn, rfl, hs.mem_of_frame hframe hn hne, hb ▸ hs'.mem_of_frame hframe hn hne⟩
  have hmodel : doc.Has (modelId config) ∧ modelId config ≠ doc.root := by
    obtain ⟨rest, hout⟩ := hframe.outline
    have hmem : (modelDraft config).node (modelId config) (projectId config) .ownedElements ∈
        doc.outline := by
      simp [hout, modelNodes]
    obtain ⟨model, hn, hbare⟩ := List.mem_map.mp hmem
    have hid : model.id = modelId config := congrArg Node.id hbare
    refine ⟨hid ▸ hframe.sound.has_of_mem hn, ?_⟩
    rw [hframe.root, modelId, projectId]
    simp
  have hhas : a.document.Has (modelId config) := by
    obtain ⟨model, -, hid, hmem, -⟩ := hnode _ hmodel.1 hmodel.2
    have hfound := h.sound.has_of_mem hmem
    rwa [show (model.resolve (bindings config ds)).id = modelId config from hid] at hfound
  have hsubtree := h.sound.subtree_eq_map h'.sound (f := fun id => id)
    (P := fun id => doc.Has id ∧ id ≠ doc.root) ?_ _ hhas hmodel
  · rw [h.model, h'.model]
    refine ⟨by simpa using hsubtree.1, fun id hid => ?_⟩
    obtain ⟨node, -, rfl, hn, hn'⟩ := hnode id (hsubtree.2 id hid).1 (hsubtree.2 id hid).2
    exact (h'.sound.get?_of_mem hn').trans (h.sound.get?_of_mem hn).symm
  · rintro found hfound ⟨hhas, hne⟩
    obtain ⟨node, hn, hid, hmem, hmem'⟩ := hnode found.id hhas hne
    obtain rfl := h.sound.eq_of_id_eq hmem hfound hid
    refine ⟨_, hmem', rfl, (List.map_id _).symm, fun child hc => ?_⟩
    obtain ⟨c, hcmem, hparent, rfl⟩ := (hframe.sound.mem_children_iff hn).mp hc
    refine ⟨hframe.sound.has_of_mem hcmem, fun hroot => ?_⟩
    obtain ⟨hle, hlt⟩ := hframe.sound.parent_lt hcmem hparent
    rw [hroot] at hlt
    exact Nat.not_lt.mpr hle hlt

/-- The number of nodes of the state machine of some declarations. -/
def stateMachineSize (ds : List Declaration) : ℕ :=
  if triggers ds = [] then 0 else 2 + (endNames (triggers ds)).length + 2 * (triggers ds).length

/-- What is below a node in one assembly is below the lowered node in another one, with all its
identifiers lowered by the same number.  The parent of the uppermost node, which is not below it,
stays. -/
structure Lowers (k : ℕ) (a a' : Assembly) (top : NodeId) : Prop where
  le : ∀ id ∈ a.document.subtree top, k ≤ id.value
  subtree : a'.document.subtree (top.lowered k) =
    (a.document.subtree top).map (NodeId.lowered k)
  nodes : ∀ id ∈ a.document.subtree top, ∀ node, a.document.get? id = some node →
    a'.document.get? (id.lowered k) = some { node.relabel (NodeId.lowered k) with
      parent := if id = top then node.parent else node.parent.map (NodeId.lowered k) }

section Collaboration

variable {ds' : List Declaration} {doc machineDoc after after' : Document}

/-- The state machine stands between the frame and the collaboration. -/
lemma Staged.next_machine (h : Staged config ds a doc machineDoc after)
    (hframe : IsFrame config doc) : machineDoc.next = doc.next + stateMachineSize ds := by
  rw [(h.machine hframe).next, StateMachine.length_nodes, stateMachineSize, endNames]
  simp only [List.isEmpty_iff]

/-- With and without a state machine before it the same interaction is drawn, under identifiers that
are shifted. -/
lemma Staged.exists_interaction (hs : Staged config ds a doc machineDoc after)
    (hs' : Staged config ds' a' doc doc after') (hframe : IsFrame config doc)
    (hm : messages ds ≠ []) (hm' : messages ds' = messages ds)
    (hb : bindings config ds' = bindings config ds) :
    ∃ new, a.document.nodes.toList =
        machineDoc.hosting.map (Node.resolve (bindings config ds)) ++ new ∧
      a'.document.nodes.toList = doc.hosting.map (Node.resolve (bindings config ds)) ++
        new.map (Node.relabel (NodeId.shifted machineDoc.next doc.next)) ∧
      new.map Node.bare =
        Interaction.nodes machineDoc.root config.interaction machineDoc.next (messages ds) := by
  have hgm := hs.machine hframe
  have hne : ((messages ds).foldl ParticipantRegistry.addMessage .empty).isEmpty = false :=
    Registry.isEmpty_foldl_connect (fun _ => ()) hm
  have hrun' := hs'.collaboration
  rw [hm'] at hrun'
  obtain ⟨new, hnew, hnew'⟩ := (Interaction.beside_of_draw hgm.sound hframe.sound hgm.root.symm hne
    hs.collaboration hrun').new
  have hbare : new.map Node.bare =
      Interaction.nodes machineDoc.root config.interaction machineDoc.next (messages ds) := by
    have hout := (hs.interaction hframe).1.outline
    rw [Document.outline, hnew, List.map_append] at hout
    refine (List.append_inj hout ?_).2
    simp [Document.hosting, Document.outline]
  -- the nodes of the interaction hold no names
  have hsettled : ∀ node ∈ new, node.IsSettled := by
    intro node hn
    have hmem : node.bare ∈ new.map Node.bare := List.mem_map_of_mem hn
    rw [hbare] at hmem
    have hsettled : node.bare.IsSettled := Interaction.isSettled_of_mem_nodes hmem
    exact hsettled
  refine ⟨new, ?_, ?_, hbare⟩
  · rw [hs.nodes, hnew, List.map_append]
    congr 1
    exact (List.map_congr_left fun node hn => (hsettled node hn).resolve _).trans (List.map_id _)
  · rw [hs'.nodes, hb, hnew', List.map_append, List.map_map]
    congr 1
    exact List.map_congr_left fun node hn => ((hsettled node hn).relabel _).resolve _

/-- Without the state machine all identifiers below the collaboration are lowered by the number of
its nodes. -/
lemma Staged.lowers (hs : Staged config ds a doc machineDoc after)
    (hs' : Staged config ds' a' doc doc after') (hframe : IsFrame config doc)
    (hm : messages ds ≠ []) (hm' : messages ds' = messages ds)
    (hb : bindings config ds' = bindings config ds) (h : a.document.Sound)
    (h' : a'.document.Sound) (hroot : a.document.root = projectId config) :
    Lowers (stateMachineSize ds) a a' ⟨machineDoc.next⟩ := by
  obtain ⟨new, hnew, hnew', hbare⟩ := hs.exists_interaction hs' hframe hm hm' hb
  have hk := hs.next_machine hframe
  have hgm := hs.machine hframe
  obtain ⟨hold, hbounds⟩ := h.bounds_of_append hnew
  have hstart : a.document.root.value +
      (machineDoc.hosting.map (Node.resolve (bindings config ds))).length = machineDoc.next := by
    rw [List.length_map, ← machineDoc.length_hosting, hroot, hgm.root, hframe.root]
  rw [hstart] at hold hbounds
  have hmem_new : ∀ node ∈ a.document.nodes.toList, machineDoc.next ≤ node.id.value →
      node ∈ new := by
    intro node hn hle
    rw [hnew] at hn
    exact (List.mem_append.mp hn).resolve_left fun hmem => Nat.not_lt.mpr hle (hold node hmem)
  have hshift : ∀ id : NodeId, machineDoc.next ≤ id.value →
      id.shifted machineDoc.next doc.next = id.lowered (stateMachineSize ds) :=
    fun _ => NodeId.shifted_eq_lowered hk
  have hchildren : ∀ node ∈ new, ∀ child ∈ node.children, machineDoc.next ≤ child.value := by
    intro node hn child hc
    have hmem : node ∈ a.document.nodes.toList := by
      rw [hnew]
      exact List.mem_append_right _ hn
    obtain ⟨c, hcmem, hparent, rfl⟩ := (h.mem_children_iff hmem).mp hc
    exact Nat.le_trans (hbounds node hn) (Nat.le_of_lt (h.parent_lt hcmem hparent).2)
  have hreferences : ∀ node ∈ new, ∀ key id, (key, Value.reference id) ∈ node.fields →
      machineDoc.next ≤ id.value := by
    intro node hn key id hf
    have hmem : node.bare ∈ new.map Node.bare := List.mem_map_of_mem hn
    rw [hbare] at hmem
    obtain ⟨-, -, -, -, -, -, lifeline, hl, rfl, -⟩ := Interaction.reference_of_mem_nodes hmem hf
    rw [← hbare] at hl
    obtain ⟨found, hfound, rfl⟩ := List.mem_map.mp hl
    exact hbounds found hfound
  obtain ⟨top, ht, htop⟩ : ∃ top ∈ a.document.nodes.toList, top.id = ⟨machineDoc.next⟩ := by
    have hmem : (Interaction.collaborationDraft config.interaction).node ⟨machineDoc.next⟩
        machineDoc.root .ownedElements ∈ new.map Node.bare := by
      rw [hbare, Interaction.nodes, if_neg (by simpa using hm)]
      exact List.mem_cons_self
    obtain ⟨top, ht, he⟩ := List.mem_map.mp hmem
    refine ⟨top, ?_, congrArg Node.id he⟩
    rw [hnew]
    exact List.mem_append_right _ ht
  have himage : ∀ node ∈ new, node.relabel (NodeId.shifted machineDoc.next doc.next) ∈
      a'.document.nodes.toList := by
    intro node hn
    rw [hnew']
    exact List.mem_append_right _ (List.mem_map_of_mem hn)
  have hsubtree := h.subtree_eq_map h' (f := NodeId.lowered (stateMachineSize ds))
    (P := fun id => machineDoc.next ≤ id.value) ?_ _
    (htop ▸ h.has_of_mem ht) (Nat.le_refl _)
  · refine ⟨fun id hid => ?_, hsubtree.1, fun id hid node hget => ?_⟩
    · have hle := hsubtree.2 id hid
      omega
    · obtain ⟨hn, rfl⟩ := h.get?_eq_some_iff.mp hget
      have hle := hsubtree.2 _ hid
      have hin := hmem_new node hn hle
      have hparent : node.parent.map (NodeId.shifted machineDoc.next doc.next) =
          if node.id = ⟨machineDoc.next⟩ then node.parent
          else node.parent.map (NodeId.lowered (stateMachineSize ds)) := by
        cases hp : node.parent with
        | none => simp
        | some parent =>
          split
          · next heq =>
            -- the collaboration is below the root, which stays
            have hlt := (h.parent_lt hn hp).2
            rw [heq] at hlt
            rw [Option.map_some, NodeId.shifted_of_lt hlt]
          · next hne =>
            have hbelow : a.document.Below top.id node.id :=
              (h.mem_subtree_iff ht).mp (htop ▸ hid)
            have hup := h.below_le (h.below_parent hn hbelow (htop ▸ hne) hp)
            rw [htop] at hup
            rw [Option.map_some, Option.map_some, hshift parent hup]
      have heq : node.relabel (NodeId.shifted machineDoc.next doc.next) =
          { node.relabel (NodeId.lowered (stateMachineSize ds)) with
            parent := if node.id = ⟨machineDoc.next⟩ then node.parent
              else node.parent.map (NodeId.lowered (stateMachineSize ds)) } := by
        rw [Node.relabel, Node.relabel, hparent, hshift _ hle,
          List.map_congr_left fun child hc => hshift child (hchildren node hin child hc),
          FieldList.relabel_congr fun key id hf => hshift id (hreferences node hin key id hf)]
      rw [← heq, ← hshift _ hle]
      exact h'.get?_of_mem (himage node hin)
  · intro node hn hle
    have hin := hmem_new node hn hle
    exact ⟨_, himage node hin, hshift _ hle,
      List.map_congr_left fun child hc => hshift child (hchildren node hin child hc),
      hchildren node hin⟩

end Collaboration

/-! ## Each diagram on its own -/

/-- Without triggers the collaboration is the same with lower identifiers. -/
lemma collaboration_without_triggers (h : assemble config ds = .ok a)
    (h' : assemble config (ds.map (Declaration.without .trigger)) = .ok a') :
    a'.stateMachine = none ∧
      a'.collaboration = a.collaboration.map (NodeId.lowered (stateMachineSize ds)) ∧
      ∀ collaboration, a.collaboration = some collaboration →
        Lowers (stateMachineSize ds) a a' collaboration := by
  obtain ⟨doc, machineDoc, after, machineDoc', after', hframe, hs, hs'⟩ :=
    exists_staged_without .trigger h h'
  obtain ⟨rfl, hnone⟩ := hs'.of_triggers_eq_nil (by rw [triggers_without, if_pos rfl])
  have hmessages : messages (ds.map (Declaration.without .trigger)) = messages ds := by
    rw [messages_without, if_neg (by decide)]
  have hcollaboration := (hs.interaction hframe).2
  have hcollaboration' := (hs'.interaction hframe).2
  rw [hmessages] at hcollaboration'
  refine ⟨hnone, ?_, fun collaboration hsome => ?_⟩
  · rw [hcollaboration, hcollaboration']
    split
    · rfl
    · rw [Option.map_some, NodeId.lowered, hs.next_machine hframe, Nat.add_sub_cancel]
  · have hm : messages ds ≠ [] := by
      intro hm
      rw [hcollaboration, hm] at hsome
      cases hsome
    obtain rfl : ⟨machineDoc.next⟩ = collaboration := by
      rw [hcollaboration, if_neg (by simpa using hm)] at hsome
      exact Option.some.inj hsome
    exact hs.lowers hs' hframe hm hmessages (bindings_without .trigger config ds)
      (follows_of_ok h).2.sound (follows_of_ok h').2.sound (follows_of_ok h).2.root

/-- The diagrams of an assembly do not interfere.

Without the annotations for messages there is an assembly as well, with the nodes that come before
the collaboration; only the root has one child less.  Without the annotations for triggers there is
an assembly as well, in which what is below the model is the same, and the collaboration is the same
with identifiers that are smaller by the number of nodes of the state machine. -/
theorem diagrams_apart (h : assemble config ds = .ok a) :
    (∃ a', assemble config (ds.map (Declaration.without .message)) = .ok a' ∧
      a'.model = a.model ∧ a'.stateMachine = a.stateMachine ∧ a'.collaboration = none ∧
      (a.collaboration = none → a'.document = a.document) ∧
      ∀ collaboration, a.collaboration = some collaboration →
        a'.document.nodes.toList =
          (a.document.nodes.toList.filter fun node => node.id.value < collaboration.value).map
            fun node => if node.id = a.document.root then
              { node with children := node.children.erase collaboration } else node) ∧
    ∃ a', assemble config (ds.map (Declaration.without .trigger)) = .ok a' ∧
      a'.model = a.model ∧
      a'.document.subtree a'.model = a.document.subtree a.model ∧
      (∀ id ∈ a.document.subtree a.model, a'.document.get? id = a.document.get? id) ∧
      a'.stateMachine = none ∧
      a'.collaboration = a.collaboration.map (NodeId.lowered (stateMachineSize ds)) ∧
      ∀ collaboration, a.collaboration = some collaboration →
        Lowers (stateMachineSize ds) a a' collaboration := by
  have hfollows := (follows_of_ok h).2
  constructor
  · obtain ⟨a', h'⟩ := exists_assemble_without .message h
    obtain ⟨hmachine, hnone, hsame, hnodes⟩ := nodes_without_messages h h'
    exact ⟨a', h', (follows_of_ok h').2.model.trans hfollows.model.symm, hmachine, hnone, hsame,
      hnodes⟩
  · obtain ⟨a', h'⟩ := exists_assemble_without .trigger h
    obtain ⟨hnone, hcollaboration, hlowers⟩ := collaboration_without_triggers h h'
    obtain ⟨doc, machineDoc, after, machineDoc', after', hframe, hs, hs'⟩ :=
      exists_staged_without .trigger h h'
    obtain ⟨hsubtree, hget⟩ := subtree_model_eq hframe hs hs' (bindings_without .trigger config ds)
      hfollows (follows_of_ok h').2
    exact ⟨a', h', (follows_of_ok h').2.model.trans hfollows.model.symm, hsubtree, hget, hnone,
      hcollaboration, hlowers⟩

/-- A class, a state and a participant with the same name, where the state and the participant have
edges to themselves. -/
theorem diagrams_apart_of_shared_name :
    let ds : List Declaration :=
      [{ kind := .classType, name := "A"
         members := [.field ⟨"f", [], .named "A"⟩,
           .method ⟨"m", [], .named "A", [], [.group .trigger [⟨"A", .many ["A", "B"]⟩],
             .single .message ⟨"A", .many ["B", "A"]⟩]⟩] },
       { kind := .interfaceType, name := "B", parents := ["A"] }]
    ∃ a, assemble { seed := 1 } ds = .ok a ∧
      a.stateMachine = some ⟨13⟩ ∧ a.collaboration = some ⟨21⟩ ∧
      (∃ a', assemble { seed := 1 } (ds.map (Declaration.without .message)) = .ok a' ∧
        a'.stateMachine = some ⟨13⟩ ∧ a'.collaboration = none ∧
        a'.document.nodes.toList =
          (a.document.nodes.toList.filter fun node => node.id.value < 21).map
            fun node => if node.id = a.document.root then
              { node with children := node.children.erase ⟨21⟩ } else node) ∧
      ∃ a', assemble { seed := 1 } (ds.map (Declaration.without .trigger)) = .ok a' ∧
        a'.document.subtree a'.model = a.document.subtree a.model ∧
        a'.stateMachine = none ∧ a'.collaboration = some ⟨13⟩ ∧ Lowers 8 a a' ⟨21⟩ := by
  intro ds
  obtain ⟨a, ha, -⟩ := @assemble_of_nodeCount_le { seed := 1 } ds (by decide) (by decide)
  have hread : (assemble { seed := 1 } ds).toOption.map
      (fun a => (a.stateMachine, a.collaboration)) = some (some ⟨13⟩, some ⟨21⟩) := by
    decide +kernel
  simp only [ha, Except.toOption, Option.map_some, Option.some.injEq, Prod.mk.injEq] at hread
  obtain ⟨hmachine, hcollaboration⟩ := hread
  have hsize : stateMachineSize ds = 8 := by decide
  obtain ⟨⟨b, hb, -, hbmachine, hbnone, -, hbnodes⟩, c, hc, -, hsubtree, -, hcnone, hclowered,
    hlowers⟩ := diagrams_apart ha
  rw [hsize, hcollaboration] at hclowered
  rw [hsize] at hlowers
  exact ⟨a, ha, hmachine, hcollaboration, ⟨b, hb, hbmachine.trans hmachine, hbnone,
    hbnodes _ hcollaboration⟩, c, hc, hsubtree, hcnone, hclowered, hlowers _ hcollaboration⟩

end Assembly

end JavaUml
