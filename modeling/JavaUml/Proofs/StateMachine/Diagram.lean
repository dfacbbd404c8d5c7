/-
# State machines as they are drawn

A state machine is drawn from a registry that any calls have filled, into a document that any calls
have led to.  If there are no transitions, nothing is drawn.  Else one machine with one region is
added below the root (`IsDrawn`): the region has a vertex for each name at an end of a transition,
in the order in which the names first occur, and a transition for each record in order
(`draw_states_and_transitions`).

What is drawn is known as a list of nodes; the statements about the document are read off this list,
since the children of a new node are those nodes of the list that name it as their parent.
-/
import JavaUml.Proofs.Document.Children
import JavaUml.Proofs.Document.Reachable
import JavaUml.Proofs.Drawing.Strokes
import JavaUml.Proofs.Registry.Calls
import JavaUml.Proofs.StateMachine

namespace JavaUml

/-- A node is of the type that a vertex of a kind has, and has its fields. -/
def VertexKind.Describes (node : Node) : VertexKind → Prop
  | .initial => node.kind = .pseudostate ∧ node.fields = [("kind", .text "initial")]
  | .final => node.kind = .finalState ∧ node.fields = []
  | .state => node.kind = .state ∧ node.fields = []

namespace StateMachine

/-! ## What is drawn -/

/-- The number of nodes of a state machine. -/
def nodeCount (es : List Edge) : ℕ := 2 + (endNames es).length + 2 * es.length

/-- A node is the vertex for a name. -/
def IsVertex (kind? : String → Option VertexKind) (name : String) (node : Node) : Prop :=
  node.name = some name ∧ ∃ kind, kind? name = some kind ∧ kind.Describes node

/-- A node is the transition for an edge in a region: it leads from the vertex with the name of the
source to the vertex with the name of the target, which were both made before it, and it has one
event with the same label. -/
def IsTransition (doc : Document) (region : NodeId) (e : Edge) (node : Node) : Prop :=
  node.kind = .transition ∧ node.name = some e.label ∧
  (∃ source ∈ doc.childrenIn region .vertices, ∃ target ∈ doc.childrenIn region .vertices,
    source.name = some e.source ∧ target.name = some e.target ∧
    source.id.value < node.id.value ∧ target.id.value < node.id.value ∧
    node.fields = [("source", .reference source.id), ("target", .reference target.id)]) ∧
  ∃ event, doc.childrenOf node.id = [event] ∧ event.kind = .event ∧ event.name = some e.label ∧
    event.slot = some .triggers

/-- A node is a region with a vertex for each name, a transition for each edge, and nothing else. -/
structure IsRegion (doc : Document) (kind? : String → Option VertexKind) (es : List Edge)
    (node : Node) : Prop where
  kind : node.kind = .region
  slot : node.slot = some .regions
  vertices : List.Forall₂ (IsVertex kind?) (endNames es) (doc.childrenIn node.id .vertices)
  transitions : List.Forall₂ (IsTransition doc node.id) es (doc.childrenIn node.id .transitions)
  only : ∀ child ∈ doc.childrenOf node.id,
    child.slot = some .vertices ∨ child.slot = some .transitions

/-- A document is another one with a state machine below the root. -/
structure IsDrawn (doc after : Document) (id : NodeId) (name : String)
    (kind? : String → Option VertexKind) (es : List Edge) : Prop where
  /-- The nodes that were there stay as they are, and no others are added than those of the state
  machine. -/
  added : ∃ nodes, after.outline = doc.outline ++ nodes ∧ nodes.length = nodeCount es
  machine : ∃ node : Node, (after.childrenOf doc.root).map Node.bare =
      (doc.childrenOf doc.root).map Node.bare ++ [node] ∧
    node.id = id ∧ node.kind = .stateMachine ∧ node.name = some name ∧
    node.slot = some .ownedElements
  region : ∃ node, after.childrenOf id = [node] ∧ IsRegion after kind? es node

/-! ## The nodes by their parents -/

section Nodes

variable {kindOf : String → VertexKind} {region : NodeId} {n : ℕ} {es : List Edge}

/-- The strokes of the transitions of a region. -/
abbrev regionStrokes (kindOf : String → VertexKind) (region : NodeId) (n : ℕ) (es : List Edge) :
    List Stroke :=
  strokes (vertexNodeOf kindOf region) (transitionNodes region) n .empty es

/-- The node of the transition of a stroke. -/
def transitionOf (region : NodeId) (s : Stroke) : Node :=
  (transitionDraft s.source s.target s.label).node ⟨s.start⟩ region .transitions

/-- The node of the event of a stroke. -/
def eventOf (s : Stroke) : Node := (eventDraft s.label).node ⟨s.start + 1⟩ ⟨s.start⟩ .triggers

/-- The nodes of the edges are in the region, or they are events. -/
lemma parent_of_mem_edgeNodes {node : Node}
    (h : node ∈ edgeNodes (vertexNodeOf kindOf region) (transitionNodes region) n .empty es) :
    (node.parent = some region ∧ (node.slot = some .vertices ∨ node.slot = some .transitions)) ∨
      ∃ s ∈ regionStrokes kindOf region n es, node = eventOf s := by
  rcases exists_stroke_of_mem _ _ h with ⟨k, name, rfl⟩ | ⟨s, hs, hlink, -⟩
  · exact .inl ⟨rfl, .inl rfl⟩
  · rcases List.mem_pair.mp hlink with rfl | rfl
    · exact .inl ⟨rfl, .inr rfl⟩
    · exact .inr ⟨s, hs, rfl⟩

lemma event_mem_edgeNodes {s : Stroke} (h : s ∈ regionStrokes kindOf region n es) :
    eventOf s ∈ edgeNodes (vertexNodeOf kindOf region) (transitionNodes region) n .empty es := by
  rw [edgeNodes_eq, List.mem_flatMap]
  exact ⟨s, h, List.mem_append_right _ (List.mem_pair.mpr (.inr rfl))⟩

/-- An event is below a transition, and not in the region. -/
lemma event_parent_ne (hr : region.value < n) {s : Stroke}
    (h : s ∈ regionStrokes kindOf region n es) : (eventOf s).parent ≠ some region := by
  have hle := le_start h
  intro hp
  have hvalue : s.start = region.value := congrArg NodeId.value (Option.some.inj hp)
  omega

lemma filter_vertices :
    (edgeNodes (vertexNodeOf kindOf region) (transitionNodes region) n .empty es).filter
        (fun node => decide (node.parent = some region) && node.slot == some .vertices) =
      (vertexNumbers (regionStrokes kindOf region n es)).map
        fun v => vertexNodeOf kindOf region v.1 v.2 := by
  refine filter_edgeNodes_vertices (fun k name => by simp [vertexNodeOf, NodeDraft.node]) ?_
  intro s hs node hn
  rcases List.mem_pair.mp hn with rfl | rfl
  · simp [NodeDraft.node]
  · simp [NodeDraft.node]

lemma filter_transitions :
    (edgeNodes (vertexNodeOf kindOf region) (transitionNodes region) n .empty es).filter
        (fun node => decide (node.parent = some region) && node.slot == some .transitions) =
      (regionStrokes kindOf region n es).map (transitionOf region) := by
  refine filter_edgeNodes_links (fun k name => by simp [vertexNodeOf, NodeDraft.node]) ?_
  intro s hs
  simp [Stroke.linkNodes, transitionNodes, NodeDraft.node, transitionOf]

end Nodes

/-! ## The document with the nodes -/

section Document

variable {doc after : Document} {name : String} {kindOf : String → VertexKind} {es : List Edge}

/-- The nodes that a state machine adds to a document. -/
abbrev addedNodes (doc : Document) (name : String) (kindOf : String → VertexKind)
    (es : List Edge) : List Node :=
  (machineDraft name).node ⟨doc.next⟩ doc.root .ownedElements ::
    regionDraft.node ⟨doc.next + 1⟩ ⟨doc.next⟩ .regions ::
    edgeNodes (vertexNodeOf kindOf ⟨doc.next + 1⟩) (transitionNodes ⟨doc.next + 1⟩) (doc.next + 2)
      .empty es

lemma name_draft (kind : VertexKind) (name : String) : (kind.draft name).name = some name := by
  cases kind <;> rfl

/-- The nodes of the edges are below the region. -/
lemma next_lt_parent {node : Node}
    (h : node ∈ edgeNodes (vertexNodeOf kindOf ⟨doc.next + 1⟩) (transitionNodes ⟨doc.next + 1⟩)
      (doc.next + 2) .empty es) {parent : NodeId} (hp : node.parent = some parent) :
    doc.next < parent.value := by
  rcases parent_of_mem_edgeNodes h with ⟨hregion, -⟩ | ⟨s, hs, rfl⟩
  · obtain rfl := Option.some.inj (hregion.symm.trans hp)
    exact Nat.lt_succ_self _
  · obtain rfl := Option.some.inj hp
    have hle := le_start hs
    simp only
    omega

lemma filter_addedNodes_root :
    (addedNodes doc name kindOf es).filter (fun node => decide (node.parent = some doc.root)) =
      [(machineDraft name).node ⟨doc.next⟩ doc.root .ownedElements] := by
  have hlt := doc.root_lt_next
  have hregion : (⟨doc.next⟩ : NodeId) ≠ doc.root := fun h => by
    rw [← h] at hlt
    exact Nat.lt_irrefl _ hlt
  rw [addedNodes, List.filter_cons_of_pos (by simp [NodeDraft.node]),
    List.filter_cons_of_neg (by simpa [NodeDraft.node] using hregion), List.cons.injEq]
  refine ⟨rfl, List.filter_eq_nil_iff.mpr fun node hn hp => ?_⟩
  have := next_lt_parent hn (of_decide_eq_true hp)
  omega

lemma filter_addedNodes_machine :
    (addedNodes doc name kindOf es).filter (fun node => decide (node.parent = some ⟨doc.next⟩)) =
      [regionDraft.node ⟨doc.next + 1⟩ ⟨doc.next⟩ .regions] := by
  have hlt := doc.root_lt_next
  have hmachine : doc.root ≠ ⟨doc.next⟩ := fun h => by
    rw [h] at hlt
    exact Nat.lt_irrefl _ hlt
  rw [addedNodes, List.filter_cons_of_neg (by simpa [NodeDraft.node] using hmachine),
    List.filter_cons_of_pos (by simp [NodeDraft.node]), List.cons.injEq]
  refine ⟨rfl, List.filter_eq_nil_iff.mpr fun node hn hp => ?_⟩
  exact Nat.lt_irrefl _ (next_lt_parent hn (of_decide_eq_true hp))

/-- The machine and the region are not in the region. -/
lemma filter_addedNodes_region {p : Node → Bool}
    (hp : ∀ node : Node, p node = true → node.parent = some ⟨doc.next + 1⟩) :
    (addedNodes doc name kindOf es).filter p =
      (edgeNodes (vertexNodeOf kindOf ⟨doc.next + 1⟩) (transitionNodes ⟨doc.next + 1⟩)
        (doc.next + 2) .empty es).filter p := by
  have hlt := doc.root_lt_next
  rw [addedNodes, List.filter_cons_of_neg, List.filter_cons_of_neg]
  · intro h
    have hvalue : doc.next = doc.next + 1 := congrArg NodeId.value (Option.some.inj (hp _ h))
    omega
  · intro h
    have hvalue : doc.root.value = doc.next + 1 :=
      congrArg NodeId.value (Option.some.inj (hp _ h))
    omega

variable (g : doc.Grows after (addedNodes doc name kindOf es)) (h : doc.Sound)

include g h

lemma map_bare_vertices : (after.childrenIn ⟨doc.next + 1⟩ .vertices).map Node.bare =
    (vertexNumbers (regionStrokes kindOf ⟨doc.next + 1⟩ (doc.next + 2) es)).map
      fun v => vertexNodeOf kindOf ⟨doc.next + 1⟩ v.1 v.2 := by
  rw [g.map_bare_childrenIn_new h (Nat.le_succ _), filter_addedNodes_region, filter_vertices]
  simp +contextual

lemma map_bare_transitions : (after.childrenIn ⟨doc.next + 1⟩ .transitions).map Node.bare =
    (regionStrokes kindOf ⟨doc.next + 1⟩ (doc.next + 2) es).map (transitionOf ⟨doc.next + 1⟩) := by
  rw [g.map_bare_childrenIn_new h (Nat.le_succ _), filter_addedNodes_region, filter_transitions]
  simp +contextual

lemma forall₂_isVertex {kind? : String → Option VertexKind}
    (hk : ∀ name ∈ es.flatMap Edge.ends, kind? name = some (kindOf name)) :
    List.Forall₂ (IsVertex kind?) (endNames es)
      (after.childrenIn ⟨doc.next + 1⟩ .vertices) := by
  have hnames := map_snd_vertexNumbers (vertexNodeOf kindOf ⟨doc.next + 1⟩)
    (transitionNodes ⟨doc.next + 1⟩) (doc.next + 2) .empty es
  rw [NameTable.fresh_empty] at hnames
  refine forall₂_of_vertices (map_bare_vertices g h) hnames fun v hv node hbare => ?_
  have hmem : v.2 ∈ es.flatMap Edge.ends := by
    rw [← List.mem_eraseDups, ← hnames]
    exact List.mem_map_of_mem hv
  have hname : node.name = ((kindOf v.2).draft v.2).name := congrArg Node.name hbare
  have hkind : node.kind = ((kindOf v.2).draft v.2).kind := congrArg Node.kind hbare
  have hfields : node.fields = ((kindOf v.2).draft v.2).fields := congrArg Node.fields hbare
  refine ⟨hname.trans (name_draft _ _), kindOf v.2, hk _ hmem, ?_⟩
  cases hv : kindOf v.2 <;> rw [hv] at hkind hfields <;> exact ⟨hkind, hfields⟩

/-- A transition has its event as its only child. -/
lemma exists_event {s : Stroke} (hs : s ∈ regionStrokes kindOf ⟨doc.next + 1⟩ (doc.next + 2) es) :
    ∃ event, after.childrenOf ⟨s.start⟩ = [event] ∧ event.bare = eventOf s := by
  have hle := le_start hs
  have hnew : doc.next ≤ (⟨s.start⟩ : NodeId).value := Nat.le_trans (Nat.le_add_right _ 2) hle
  have hchildren := g.map_bare_childrenOf_new h hnew
  have hevent : eventOf s ∈ (after.childrenOf ⟨s.start⟩).map Node.bare := by
    rw [hchildren, List.mem_filter]
    exact ⟨List.mem_cons_of_mem _ (List.mem_cons_of_mem _ (event_mem_edgeNodes hs)),
      decide_eq_true rfl⟩
  obtain ⟨event, he, hbare⟩ := List.mem_map.mp hevent
  refine ⟨event, g.sound.childrenOf_eq_singleton he fun other ho => ?_, hbare⟩
  -- any other child would be an event with the same number
  have hother : other.bare ∈ (after.childrenOf ⟨s.start⟩).map Node.bare := List.mem_map_of_mem ho
  have hid : event.id = ⟨s.start + 1⟩ := congrArg Node.id hbare
  rw [hchildren, List.mem_filter, decide_eq_true_eq] at hother
  obtain ⟨hmem, hparent⟩ := hother
  have hroot := doc.root_lt_next
  rcases List.mem_cons.mp hmem with hm | hmem
  · rw [hm] at hparent
    have hvalue : doc.root.value = s.start := congrArg NodeId.value (Option.some.inj hparent)
    omega
  rcases List.mem_cons.mp hmem with hm | hmem
  · rw [hm] at hparent
    have hvalue : doc.next = s.start := congrArg NodeId.value (Option.some.inj hparent)
    omega
  rcases parent_of_mem_edgeNodes hmem with ⟨hregion, -⟩ | ⟨s', -, hs'⟩
  · have hvalue : doc.next + 1 = s.start :=
      congrArg NodeId.value (Option.some.inj (hregion.symm.trans hparent))
    omega
  · rw [hs'] at hparent
    have hvalue : s'.start = s.start := congrArg NodeId.value (Option.some.inj hparent)
    have hid' : other.id = ⟨s'.start + 1⟩ := congrArg Node.id hs'
    rw [hid, hid', hvalue]

/-- A node with the fields of a stroke is the transition for its edge. -/
lemma isTransition_of_bare {e : Edge} {s : Stroke}
    (hs : s ∈ regionStrokes kindOf ⟨doc.next + 1⟩ (doc.next + 2) es) (hlabel : s.label = e.label)
    (hsource : IsNamed .empty
      (vertexNumbers (regionStrokes kindOf ⟨doc.next + 1⟩ (doc.next + 2) es)) s.start e.source
      s.source)
    (htarget : IsNamed .empty
      (vertexNumbers (regionStrokes kindOf ⟨doc.next + 1⟩ (doc.next + 2) es)) s.start e.target
      s.target) {node : Node} (hbare : node.bare = transitionOf ⟨doc.next + 1⟩ s) :
    IsTransition after ⟨doc.next + 1⟩ e node := by
  have hid : node.id = ⟨s.start⟩ := congrArg Node.id hbare
  have hname : node.name = some s.label := congrArg Node.name hbare
  have hfields : node.fields = [("source", .reference s.source), ("target", .reference s.target)] :=
    congrArg Node.fields hbare
  have hnamed {vertex : String} {id : NodeId} := @exists_of_isNamed _ _ _ (map_bare_vertices g h)
    (fun _ _ => rfl) (fun _ _ => name_draft _ _) s.start vertex id
  obtain ⟨source, hsmem, hsname, hsid, hslt⟩ := hnamed hsource
  obtain ⟨target, htmem, htname, htid, htlt⟩ := hnamed htarget
  obtain ⟨event, hevent, hebare⟩ := exists_event g h hs
  have hename : event.name = some s.label := congrArg Node.name hebare
  rw [hlabel] at hname hename
  rw [← hsid, ← htid] at hfields
  rw [IsTransition, hid]
  exact ⟨congrArg Node.kind hbare, hname,
    ⟨source, hsmem, target, htmem, hsname, htname, hslt, htlt, hfields⟩,
    event, hevent, congrArg Node.kind hebare, hename, congrArg Node.slot hebare⟩

lemma forall₂_isTransition : List.Forall₂ (IsTransition after ⟨doc.next + 1⟩) es
    (after.childrenIn ⟨doc.next + 1⟩ .transitions) :=
  forall₂_of_links (map_bare_transitions g h)
    (forall₂_strokes (vertexNodeOf kindOf ⟨doc.next + 1⟩) (transitionNodes ⟨doc.next + 1⟩)
      (doc.next + 2) .empty es)
    fun _ _ ⟨hs, hlabel, hsource, htarget⟩ _ hbare =>
      isTransition_of_bare g h hs hlabel hsource htarget hbare

lemma exists_region {kind? : String → Option VertexKind}
    (hk : ∀ name ∈ es.flatMap Edge.ends, kind? name = some (kindOf name)) :
    ∃ node, after.childrenOf ⟨doc.next⟩ = [node] ∧ IsRegion after kind? es node := by
  have hnew : doc.next ≤ (⟨doc.next⟩ : NodeId).value := Nat.le_refl _
  have hchildren := g.map_bare_childrenOf_new h hnew
  rw [filter_addedNodes_machine, List.map_eq_singleton_iff] at hchildren
  obtain ⟨region, hregion, hbare⟩ := hchildren
  have hid : region.id = ⟨doc.next + 1⟩ := congrArg Node.id hbare
  refine ⟨region, hregion, congrArg Node.kind hbare, congrArg Node.slot hbare, ?_, ?_, ?_⟩
  · rw [hid]
    exact forall₂_isVertex g h hk
  · rw [hid]
    exact forall₂_isTransition g h
  · intro child hchild
    rw [hid] at hchild
    have hmem : child.bare ∈ (after.childrenOf ⟨doc.next + 1⟩).map Node.bare :=
      List.mem_map_of_mem hchild
    rw [g.map_bare_childrenOf_new h (Nat.le_succ _), filter_addedNodes_region, List.mem_filter,
      decide_eq_true_eq] at hmem
    · rcases parent_of_mem_edgeNodes hmem.1 with ⟨-, hslot⟩ | ⟨s, hs, he⟩
      · exact hslot
      · rw [he] at hmem
        exact absurd hmem.2 (event_parent_ne (Nat.lt_succ_self _) hs)
    · simp

/-- What is drawn is a state machine. -/
lemma isDrawn_of_grows {kind? : String → Option VertexKind} (hes : es ≠ [])
    (hk : ∀ name ∈ es.flatMap Edge.ends, kind? name = some (kindOf name)) :
    IsDrawn doc after ⟨doc.next⟩ name kind? es := by
  refine ⟨⟨_, g.outline, ?_⟩, ?_, exists_region g h hk⟩
  · have hlength := length_nodesOf kindOf doc.root name doc.next es
    have hempty : es.isEmpty = false := by simpa using hes
    rw [hempty] at hlength
    rw [nodeCount, endNames]
    rwa [nodesOf, hempty] at hlength
  · rw [g.map_bare_childrenOf h, filter_addedNodes_root]
    exact ⟨_, rfl, rfl, rfl, rfl, rfl⟩

end Document

/-! ## Drawing from a registry -/

/-- A state machine is drawn from the registry that any calls have filled into the document that any
calls have led to.  Without transitions nothing happens.  Otherwise, if there are enough identifiers
left, the machine is added below the root, with a vertex for each name at an end of a transition and
a transition for each record.  A vertex has the kind of the first entry for its name, which is told
by the name if the name was not added with a kind. -/
theorem draw_states_and_transitions {doc : Document} (hdoc : doc.Reachable)
    (calls : List (Registry.Call VertexKind)) (name : String) :
    (Registry.edgesSince calls = [] →
      (draw name (.ofCalls VertexKind.ofName calls)).run doc = (.ok none, doc)) ∧
    (Registry.edgesSince calls ≠ [] →
      doc.ids.seed.toNat + doc.ids.used + nodeCount (Registry.edgesSince calls) ≤ 2 ^ 64 →
      ∃ machine after,
        (draw name (.ofCalls VertexKind.ofName calls)).run doc = (.ok (some machine), after) ∧
        IsDrawn doc after machine name (Registry.firstKind? VertexKind.ofName calls)
          (Registry.edgesSince calls)) ∧
    ∀ vertex ∈ endNames (Registry.edgesSince calls),
      (∀ kind, .add vertex kind ∉ Registry.sinceClear calls) →
      Registry.firstKind? VertexKind.ofName calls vertex = some (VertexKind.ofName vertex) := by
  have hs := hdoc.sound
  have hedges : (Registry.ofCalls VertexKind.ofName calls).edges = Registry.edgesSince calls :=
    Registry.edges_ofCalls calls
  -- every name at an end of an edge has some kind in the registry
  have hkinds : ∀ vertex ∈ (Registry.edgesSince calls).flatMap Edge.ends,
      Registry.firstKind? VertexKind.ofName calls vertex =
        some ((Registry.firstKind? VertexKind.ofName calls vertex).getD .state) := by
    intro vertex hv
    obtain ⟨kind, hkind⟩ := Option.isSome_iff_exists.mp (Registry.isSome_firstKind? hv)
    rw [hkind]
    rfl
  have hmakes := makes_draw_of_kinds hs name fun vertex hv =>
    (Registry.kind?_ofCalls calls vertex).trans (hkinds vertex (hedges ▸ hv))
  rw [hedges] at hmakes
  refine ⟨fun hnil => ?_, fun hne hroom => ?_, fun vertex hv hnot => ?_⟩
  · have hempty : (Registry.ofCalls VertexKind.ofName calls).isEmpty = true := by
      rw [Registry.isEmpty, hedges, hnil]
      rfl
    rw [Attempt.run_drawing, draw, if_pos hempty]
    rfl
  · have hempty : (Registry.edgesSince calls).isEmpty = false := by simpa using hne
    have hlength := length_nodesOf (fun vertex =>
      (Registry.firstKind? VertexKind.ofName calls vertex).getD .state) doc.root name doc.next
      (Registry.edgesSince calls)
    rw [hs.allocated, nodeCount, endNames] at hroom
    rw [hempty] at hlength hmakes
    rw [nodesOf, hempty] at hmakes
    cases hmakes with
    | done hrun hg hmachine =>
      rw [hmachine] at hrun
      exact ⟨_, _, hrun, isDrawn_of_grows hg hs hne hkinds⟩
    | full hfull _ =>
      rw [nodesOf, hempty] at hlength
      rw [hlength] at hfull
      have hsize : UInt64.size = 2 ^ 64 := rfl
      simp only [Canvas.document_eq, Bool.false_eq_true, if_false] at hfull
      omega
  · have hmem : vertex ∈ (Registry.edgesSince calls).flatMap Edge.ends := List.mem_eraseDups.mp hv
    rw [hkinds vertex hmem]
    exact congrArg some (Registry.firstKind?_of_not_added hnot (hkinds vertex hmem))

/-- What was added before the registry was cleared is not drawn, and neither is a state without
transitions.  A name that was added as a final state is one, and it may lead to itself. -/
theorem draw_states_and_transitions_of_final_loop :
    let calls : List (Registry.Call VertexKind) :=
      [.connect ⟨"old", "older", "m()"⟩, .clear, .add "A" .final, .ensure "unused",
        .connect ⟨"A", "InitState", "m()"⟩, .connect ⟨"A", "A", "m()"⟩]
    ∃ doc : Document, doc.Reachable ∧ ∃ machine after,
      (draw "M" (.ofCalls VertexKind.ofName calls)).run doc = (.ok (some machine), after) ∧
      IsDrawn doc after machine "M" (Registry.firstKind? VertexKind.ofName calls)
        [⟨"A", "InitState", "m()"⟩, ⟨"A", "A", "m()"⟩] ∧
      endNames [⟨"A", "InitState", "m()"⟩, ⟨"A", "A", "m()"⟩] = ["A", "InitState"] ∧
      Registry.firstKind? VertexKind.ofName calls "A" = some .final ∧
      Registry.firstKind? VertexKind.ofName calls "InitState" = some .initial := by
  intro calls
  have hdoc : Document.Reachable _ :=
    .new (show Document.new (.new 0xFFFFFFFFFFFFFFF7) .project "p" = .ok _ from rfl)
  have hnames :
      endNames [⟨"A", "InitState", "m()"⟩, ⟨"A", "A", "m()"⟩] = ["A", "InitState"] := by
    decide
  have hedges : Registry.edgesSince calls = [⟨"A", "InitState", "m()"⟩, ⟨"A", "A", "m()"⟩] := by
    decide
  obtain ⟨-, hdraw, hkind⟩ := draw_states_and_transitions hdoc calls "M"
  rw [hedges, hnames] at hkind
  rw [hedges] at hdraw
  obtain ⟨machine, after, hrun, hdrawn⟩ := hdraw (by decide) (by decide)
  have hadded : ∀ kind, .add "InitState" kind ∉ Registry.sinceClear calls := by
    intro kind
    cases kind <;> decide
  exact ⟨_, hdoc, machine, after, hrun, hdrawn, hnames, by decide, hkind _ (by decide) hadded⟩

end StateMachine

end JavaUml
