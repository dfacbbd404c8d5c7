/-
# Interactions as they are drawn

An interaction is drawn from a registry that any calls have filled, into a document that any calls
have led to.  If there are no messages, nothing is drawn.  Else a collaboration with one interaction
is added below the root (`IsDrawn`): the interaction has one sequence diagram, a lifeline for each
name at an end of a message, in the order in which the names first occur, and a message for each
record in order (`draw_lifelines_and_messages`).
-/
import JavaUml.Proofs.Document.Children
import JavaUml.Proofs.Document.Reachable
import JavaUml.Proofs.Drawing.Strokes
import JavaUml.Proofs.Interaction
import JavaUml.Proofs.Registry.Calls

namespace JavaUml.Interaction

/-! ## What is drawn -/

/-- The number of nodes of a collaboration. -/
def nodeCount (es : List Edge) : ℕ := 3 + (endNames es).length + es.length

/-- A node is the lifeline for a name. -/
def IsLifeline (name : String) (node : Node) : Prop :=
  node.kind = .lifeline ∧ node.name = some name ∧ node.fields = []

/-- A node is the message for an edge in an interaction: it leads from the lifeline with the name of
the source to the lifeline with the name of the target, which were both made before it. -/
def IsMessage (doc : Document) (interaction : NodeId) (e : Edge) (node : Node) : Prop :=
  node.kind = .message ∧ node.name = some e.label ∧
  ∃ source ∈ doc.childrenIn interaction .participants,
    ∃ target ∈ doc.childrenIn interaction .participants,
      source.name = some e.source ∧ target.name = some e.target ∧
      source.id.value < node.id.value ∧ target.id.value < node.id.value ∧
      node.fields = [("source", .reference source.id), ("target", .reference target.id)]

/-- A node is an interaction with a sequence diagram, a lifeline for each name, a message for each
edge, and nothing else. -/
structure IsInteraction (doc : Document) (names : Names) (es : List Edge) (node : Node) : Prop where
  kind : node.kind = .interaction
  name : node.name = some names.interaction
  slot : node.slot = some .ownedElements
  diagram : ∃ diagram, doc.childrenIn node.id .ownedElements = [diagram] ∧
    diagram.kind = .sequenceDiagram ∧ diagram.name = some names.diagram
  lifelines : List.Forall₂ IsLifeline (endNames es) (doc.childrenIn node.id .participants)
  messages : List.Forall₂ (IsMessage doc node.id) es (doc.childrenIn node.id .messages)
  only : ∀ child ∈ doc.childrenOf node.id, child.slot = some .ownedElements ∨
    child.slot = some .participants ∨ child.slot = some .messages

/-- A document is another one with a collaboration below the root. -/
structure IsDrawn (doc after : Document) (id : NodeId) (names : Names) (es : List Edge) : Prop where
  /-- The nodes that were there stay as they are, and no others are added than those of the
  collaboration. -/
  added : ∃ nodes, after.outline = doc.outline ++ nodes ∧ nodes.length = nodeCount es
  collaboration : ∃ node : Node, (after.childrenOf doc.root).map Node.bare =
      (doc.childrenOf doc.root).map Node.bare ++ [node] ∧
    node.id = id ∧ node.kind = .collaboration ∧ node.name = some names.collaboration ∧
    node.slot = some .ownedElements
  interaction : ∃ node, after.childrenOf id = [node] ∧ IsInteraction after names es node

/-! ## The nodes by their collections -/

section Nodes

variable {interaction : NodeId} {n : ℕ} {es : List Edge}

/-- The strokes of the messages of an interaction. -/
abbrev messageStrokes (interaction : NodeId) (n : ℕ) (es : List Edge) : List Stroke :=
  strokes (lifelineNode interaction) (messageNodes interaction) n .empty es

/-- The node of the message of a stroke. -/
def messageOf (interaction : NodeId) (s : Stroke) : Node :=
  (messageDraft s.source s.target s.label).node ⟨s.start⟩ interaction .messages

/-- The nodes of the edges are in the interaction. -/
lemma parent_of_mem_edgeNodes {node : Node}
    (h : node ∈ edgeNodes (lifelineNode interaction) (messageNodes interaction) n .empty es) :
    node.parent = some interaction ∧
      (node.slot = some .participants ∨ node.slot = some .messages) := by
  rcases exists_stroke_of_mem _ _ h with ⟨k, name, rfl⟩ | ⟨s, hs, hlink, -⟩
  · exact ⟨rfl, .inl rfl⟩
  · rw [List.mem_singleton.mp hlink]
    exact ⟨rfl, .inr rfl⟩

lemma filter_lifelines :
    (edgeNodes (lifelineNode interaction) (messageNodes interaction) n .empty es).filter
        (fun node => decide (node.parent = some interaction) && node.slot == some .participants) =
      (vertexNumbers (messageStrokes interaction n es)).map
        fun v => lifelineNode interaction v.1 v.2 := by
  refine filter_edgeNodes_vertices (fun k name => by simp [lifelineNode, NodeDraft.node]) ?_
  intro s hs node hn
  rw [List.mem_singleton.mp hn]
  simp [NodeDraft.node]

lemma filter_messages :
    (edgeNodes (lifelineNode interaction) (messageNodes interaction) n .empty es).filter
        (fun node => decide (node.parent = some interaction) && node.slot == some .messages) =
      (messageStrokes interaction n es).map (messageOf interaction) := by
  refine filter_edgeNodes_links (fun k name => by simp [lifelineNode, NodeDraft.node]) ?_
  intro s hs
  simp [Stroke.linkNodes, messageNodes, NodeDraft.node, messageOf]

end Nodes

/-! ## The document with the nodes -/

section Document

variable {doc after : Document} {names : Names} {es : List Edge}

/-- The nodes that a collaboration adds to a document. -/
abbrev addedNodes (doc : Document) (names : Names) (es : List Edge) : List Node :=
  (collaborationDraft names).node ⟨doc.next⟩ doc.root .ownedElements ::
    (interactionDraft names).node ⟨doc.next + 1⟩ ⟨doc.next⟩ .ownedElements ::
    (diagramDraft names).node ⟨doc.next + 2⟩ ⟨doc.next + 1⟩ .ownedElements ::
    edgeNodes (lifelineNode ⟨doc.next + 1⟩) (messageNodes ⟨doc.next + 1⟩) (doc.next + 3) .empty es

/-- What stands below the interaction is neither the collaboration nor the interaction. -/
lemma filter_addedNodes {p : Node → Bool} {parent : NodeId}
    (hp : ∀ node : Node, p node = true → node.parent = some parent)
    (hparent : doc.next < parent.value) :
    (addedNodes doc names es).filter p =
      ((diagramDraft names).node ⟨doc.next + 2⟩ ⟨doc.next + 1⟩ .ownedElements ::
        edgeNodes (lifelineNode ⟨doc.next + 1⟩) (messageNodes ⟨doc.next + 1⟩) (doc.next + 3)
          .empty es).filter p := by
  have hlt := doc.root_lt_next
  rw [addedNodes, List.filter_cons_of_neg, List.filter_cons_of_neg]
  · intro h
    have hvalue : doc.next = parent.value := congrArg NodeId.value (Option.some.inj (hp _ h))
    omega
  · intro h
    have hvalue : doc.root.value = parent.value := congrArg NodeId.value (Option.some.inj (hp _ h))
    omega

/-- No node but the first three is below the root or the collaboration. -/
lemma filter_edgeNodes_eq_nil {parent : NodeId} (hparent : parent.value ≤ doc.next) :
    (edgeNodes (lifelineNode ⟨doc.next + 1⟩) (messageNodes ⟨doc.next + 1⟩) (doc.next + 3) .empty
      es).filter (fun node => decide (node.parent = some parent)) = [] := by
  refine List.filter_eq_nil_iff.mpr fun node hn hp => ?_
  have hinteraction := (parent_of_mem_edgeNodes hn).1.symm.trans (of_decide_eq_true hp)
  have hvalue : doc.next + 1 = parent.value := congrArg NodeId.value (Option.some.inj hinteraction)
  omega

lemma filter_addedNodes_root :
    (addedNodes doc names es).filter (fun node => decide (node.parent = some doc.root)) =
      [(collaborationDraft names).node ⟨doc.next⟩ doc.root .ownedElements] := by
  have hlt := doc.root_lt_next
  have hne : ∀ k, doc.next ≤ k → (⟨k⟩ : NodeId) ≠ doc.root := by
    intro k hk he
    have hvalue : k = doc.root.value := congrArg NodeId.value he
    omega
  rw [addedNodes, List.filter_cons_of_pos (by simp [NodeDraft.node]),
    List.filter_cons_of_neg (by simpa [NodeDraft.node] using hne _ (Nat.le_refl _)),
    List.filter_cons_of_neg (by simpa [NodeDraft.node] using hne _ (Nat.le_succ _)),
    filter_edgeNodes_eq_nil (Nat.le_of_lt hlt)]

lemma filter_addedNodes_collaboration :
    (addedNodes doc names es).filter (fun node => decide (node.parent = some ⟨doc.next⟩)) =
      [(interactionDraft names).node ⟨doc.next + 1⟩ ⟨doc.next⟩ .ownedElements] := by
  have hlt := doc.root_lt_next
  have hne : doc.root ≠ ⟨doc.next⟩ := by
    intro he
    have hvalue : doc.root.value = doc.next := congrArg NodeId.value he
    omega
  have hnil := @filter_edgeNodes_eq_nil doc es ⟨doc.next⟩ (Nat.le_refl _)
  rw [addedNodes, List.filter_cons_of_neg (by simpa [NodeDraft.node] using hne),
    List.filter_cons_of_pos (by simp [NodeDraft.node]),
    List.filter_cons_of_neg (by simp [NodeDraft.node]), hnil]

variable (g : doc.Grows after (addedNodes doc names es)) (h : doc.Sound)

include g h

lemma map_bare_lifelines : (after.childrenIn ⟨doc.next + 1⟩ .participants).map Node.bare =
    (vertexNumbers (messageStrokes ⟨doc.next + 1⟩ (doc.next + 3) es)).map
      fun v => lifelineNode ⟨doc.next + 1⟩ v.1 v.2 := by
  rw [g.map_bare_childrenIn_new h (Nat.le_succ _), filter_addedNodes _ (Nat.lt_succ_self _),
    List.filter_cons_of_neg (by simp [NodeDraft.node]), filter_lifelines]
  simp +contextual

lemma map_bare_messages : (after.childrenIn ⟨doc.next + 1⟩ .messages).map Node.bare =
    (messageStrokes ⟨doc.next + 1⟩ (doc.next + 3) es).map (messageOf ⟨doc.next + 1⟩) := by
  rw [g.map_bare_childrenIn_new h (Nat.le_succ _), filter_addedNodes _ (Nat.lt_succ_self _),
    List.filter_cons_of_neg (by simp [NodeDraft.node]), filter_messages]
  simp +contextual

lemma map_bare_diagram : (after.childrenIn ⟨doc.next + 1⟩ .ownedElements).map Node.bare =
    [(diagramDraft names).node ⟨doc.next + 2⟩ ⟨doc.next + 1⟩ .ownedElements] := by
  rw [g.map_bare_childrenIn_new h (Nat.le_succ _), filter_addedNodes _ (Nat.lt_succ_self _),
    List.filter_cons_of_pos (by simp [NodeDraft.node]), List.cons.injEq]
  · refine ⟨rfl, List.filter_eq_nil_iff.mpr fun node hn => ?_⟩
    rcases (parent_of_mem_edgeNodes hn).2 with hslot | hslot <;> simp [hslot]
  · simp +contextual

lemma forall₂_isLifeline : List.Forall₂ IsLifeline (endNames es)
    (after.childrenIn ⟨doc.next + 1⟩ .participants) := by
  have hnames := map_snd_vertexNumbers (lifelineNode ⟨doc.next + 1⟩)
    (messageNodes ⟨doc.next + 1⟩) (doc.next + 3) .empty es
  rw [NameTable.fresh_empty] at hnames
  exact forall₂_of_vertices (map_bare_lifelines g h) hnames fun v _ node hbare =>
    ⟨congrArg Node.kind hbare, congrArg Node.name hbare, congrArg Node.fields hbare⟩

/-- A node with the fields of a stroke is the message for its edge. -/
lemma isMessage_of_bare {e : Edge} {s : Stroke} (hlabel : s.label = e.label)
    (hsource : IsNamed .empty (vertexNumbers (messageStrokes ⟨doc.next + 1⟩ (doc.next + 3) es))
      s.start e.source s.source)
    (htarget : IsNamed .empty (vertexNumbers (messageStrokes ⟨doc.next + 1⟩ (doc.next + 3) es))
      s.start e.target s.target) {node : Node} (hbare : node.bare = messageOf ⟨doc.next + 1⟩ s) :
    IsMessage after ⟨doc.next + 1⟩ e node := by
  have hid : node.id = ⟨s.start⟩ := congrArg Node.id hbare
  have hname : node.name = some s.label := congrArg Node.name hbare
  have hfields : node.fields = [("source", .reference s.source), ("target", .reference s.target)] :=
    congrArg Node.fields hbare
  have hnamed {lifeline : String} {id : NodeId} := @exists_of_isNamed _ _ _ (map_bare_lifelines g h)
    (fun _ _ => rfl) (fun _ _ => rfl) s.start lifeline id
  obtain ⟨source, hsmem, hsname, hsid, hslt⟩ := hnamed hsource
  obtain ⟨target, htmem, htname, htid, htlt⟩ := hnamed htarget
  rw [hlabel] at hname
  rw [← hsid, ← htid] at hfields
  rw [IsMessage, hid]
  exact ⟨congrArg Node.kind hbare, hname,
    source, hsmem, target, htmem, hsname, htname, hslt, htlt, hfields⟩

lemma forall₂_isMessage : List.Forall₂ (IsMessage after ⟨doc.next + 1⟩) es
    (after.childrenIn ⟨doc.next + 1⟩ .messages) :=
  forall₂_of_links (map_bare_messages g h)
    (forall₂_strokes (lifelineNode ⟨doc.next + 1⟩) (messageNodes ⟨doc.next + 1⟩) (doc.next + 3)
      .empty es)
    fun _ _ ⟨_, hlabel, hsource, htarget⟩ _ hbare =>
      isMessage_of_bare g h hlabel hsource htarget hbare

lemma exists_interaction :
    ∃ node, after.childrenOf ⟨doc.next⟩ = [node] ∧ IsInteraction after names es node := by
  have hnew : doc.next ≤ (⟨doc.next⟩ : NodeId).value := Nat.le_refl _
  have hchildren := g.map_bare_childrenOf_new h hnew
  rw [filter_addedNodes_collaboration, List.map_eq_singleton_iff] at hchildren
  obtain ⟨interaction, hinteraction, hbare⟩ := hchildren
  have hid : interaction.id = ⟨doc.next + 1⟩ := congrArg Node.id hbare
  obtain ⟨diagram, hdiagram, hdbare⟩ := List.map_eq_singleton_iff.mp (map_bare_diagram g h)
  refine ⟨interaction, hinteraction, congrArg Node.kind hbare, congrArg Node.name hbare,
    congrArg Node.slot hbare, ?_, ?_, ?_, ?_⟩ <;> rw [hid]
  · exact ⟨diagram, hdiagram, congrArg Node.kind hdbare, congrArg Node.name hdbare⟩
  · exact forall₂_isLifeline g h
  · exact forall₂_isMessage g h
  · intro child hchild
    have hmem : child.bare ∈ (after.childrenOf ⟨doc.next + 1⟩).map Node.bare :=
      List.mem_map_of_mem hchild
    rw [g.map_bare_childrenOf_new h (Nat.le_succ _), filter_addedNodes _ (Nat.lt_succ_self _),
      List.mem_filter] at hmem
    · rcases List.mem_cons.mp hmem.1 with he | hmem
      · exact .inl (congrArg Node.slot he)
      · exact .inr (parent_of_mem_edgeNodes hmem).2
    · simp

/-- What is drawn is a collaboration. -/
lemma isDrawn_of_grows (hes : es ≠ []) : IsDrawn doc after ⟨doc.next⟩ names es := by
  refine ⟨⟨_, g.outline, ?_⟩, ?_, exists_interaction g h⟩
  · have hlength := length_nodes doc.root names doc.next es
    have hempty : es.isEmpty = false := by simpa using hes
    rw [hempty] at hlength
    rw [nodeCount, endNames]
    rwa [nodes, hempty] at hlength
  · rw [g.map_bare_childrenOf h, filter_addedNodes_root]
    exact ⟨_, rfl, rfl, rfl, rfl, rfl⟩

end Document

/-! ## Drawing from a registry -/

/-- An interaction is drawn from the registry that any calls have filled into the document that any
calls have led to.  Without messages nothing happens.  Otherwise, if there are enough identifiers
left, the collaboration is added below the root, with a lifeline for each name at an end of a
message and a message for each record. -/
theorem draw_lifelines_and_messages {doc : Document} (hdoc : doc.Reachable)
    (calls : List (Registry.Call Unit)) (names : Names) :
    (Registry.edgesSince calls = [] →
      (draw names (.ofCalls (fun _ => ()) calls)).run doc = (.ok none, doc)) ∧
    (Registry.edgesSince calls ≠ [] →
      doc.ids.seed.toNat + doc.ids.used + nodeCount (Registry.edgesSince calls) ≤ 2 ^ 64 →
      ∃ collaboration after,
        (draw names (.ofCalls (fun _ => ()) calls)).run doc = (.ok (some collaboration), after) ∧
        IsDrawn doc after collaboration names (Registry.edgesSince calls)) := by
  have hs := hdoc.sound
  have hedges : (Registry.ofCalls (fun _ => ()) calls).edges = Registry.edgesSince calls :=
    Registry.edges_ofCalls calls
  have hregistered : ∀ name ∈ (Registry.ofCalls (fun _ => ()) calls).edges.flatMap Edge.ends,
      (Registry.ofCalls (fun _ => ()) calls).kind? name = some () := by
    intro name hname
    rw [hedges] at hname
    rw [Registry.kind?_ofCalls]
    exact Option.eq_some_of_isSome (Registry.isSome_firstKind? hname)
  have hmakes := makes_draw_of_registered hs names hregistered
  rw [hedges] at hmakes
  refine ⟨fun hnil => ?_, fun hne hroom => ?_⟩
  · have hempty : (Registry.ofCalls (fun _ => ()) calls).isEmpty = true := by
      rw [Registry.isEmpty, hedges, hnil]
      rfl
    rw [Attempt.run_drawing, draw, if_pos hempty]
    rfl
  · have hempty : (Registry.edgesSince calls).isEmpty = false := by simpa using hne
    have hlength := length_nodes doc.root names doc.next (Registry.edgesSince calls)
    rw [hs.allocated, nodeCount, endNames] at hroom
    rw [hempty] at hlength hmakes
    rw [nodes, hempty] at hmakes
    cases hmakes with
    | done hrun hg hcollaboration =>
      rw [hcollaboration] at hrun
      exact ⟨_, _, hrun, isDrawn_of_grows hg hs hne⟩
    | full hfull _ =>
      rw [nodes, hempty] at hlength
      rw [hlength] at hfull
      have hsize : UInt64.size = 2 ^ 64 := rfl
      simp only [Canvas.document_eq, Bool.false_eq_true, if_false] at hfull
      omega

/-- Neither what was added before the registry was cleared nor a participant without messages is
drawn; a message may lead from a lifeline to itself, and may come twice. -/
theorem draw_lifelines_and_messages_of_self_message :
    let calls : List (Registry.Call Unit) :=
      [.connect ⟨"old", "older", "m()"⟩, .clear, .ensure "unused", .connect ⟨"b", "b", "m()"⟩,
        .connect ⟨"a", "b", "n()"⟩, .connect ⟨"b", "b", "m()"⟩]
    ∃ doc : Document, doc.Reachable ∧ ∃ collaboration after,
      (draw {} (.ofCalls (fun _ => ()) calls)).run doc = (.ok (some collaboration), after) ∧
      IsDrawn doc after collaboration {}
        [⟨"b", "b", "m()"⟩, ⟨"a", "b", "n()"⟩, ⟨"b", "b", "m()"⟩] ∧
      endNames [⟨"b", "b", "m()"⟩, ⟨"a", "b", "n()"⟩, ⟨"b", "b", "m()"⟩] = ["b", "a"] := by
  intro calls
  have hdoc : Document.Reachable _ :=
    .new (show Document.new (.new 0xFFFFFFFFFFFFFFF7) .project "p" = .ok _ from rfl)
  have hedges : Registry.edgesSince calls =
      [⟨"b", "b", "m()"⟩, ⟨"a", "b", "n()"⟩, ⟨"b", "b", "m()"⟩] := by
    decide
  obtain ⟨-, hdraw⟩ := draw_lifelines_and_messages hdoc calls {}
  rw [hedges] at hdraw
  obtain ⟨collaboration, after, hrun, hdrawn⟩ := hdraw (by decide) (by decide)
  exact ⟨_, hdoc, collaboration, after, hrun, hdrawn, by decide⟩

end JavaUml.Interaction
