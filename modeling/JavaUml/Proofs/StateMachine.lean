/-
# The nodes of a state machine

A state machine that is drawn from triggers has one region, and in this a vertex for every name at
an end of a trigger and a transition with its event for every trigger.  Every name is registered
before it is drawn, so that drawing can only fail for want of identifiers (`makes_draw`).
-/
import JavaUml.Proofs.Document.Sweep
import JavaUml.Proofs.Drawing.Edges
import JavaUml.StateMachine

namespace JavaUml.StateMachine

/-! ## Nodes -/

/-- What the node of a state machine starts with. -/
def machineDraft (name : String) : NodeDraft := { kind := .stateMachine, name := some name }

/-- What the node of a region starts with. -/
def regionDraft : NodeDraft := { kind := .region, slots := [.vertices, .transitions] }

/-- What the node of a transition starts with. -/
def transitionDraft (source target : NodeId) (label : String) : NodeDraft :=
  { kind := .transition, name := some label
    fields := [("source", .reference source), ("target", .reference target)] }

/-- What the node of an event starts with. -/
def eventDraft (label : String) : NodeDraft := { kind := .event, name := some label }

/-- The node for a name in a region, for any kinds of the names. -/
def vertexNodeOf (kindOf : String → VertexKind) (region : NodeId) (n : ℕ) (name : String) : Node :=
  ((kindOf name).draft name).node ⟨n⟩ region .vertices

/-- The node for a name in a region, of the kind that the name tells. -/
def vertexNode (region : NodeId) (n : ℕ) (name : String) : Node :=
  vertexNodeOf VertexKind.ofName region n name

/-- The nodes for a transition in a region. -/
def transitionNodes (region : NodeId) (n : ℕ) (source target : NodeId) (label : String) :
    List Node :=
  [(transitionDraft source target label).node ⟨n⟩ region .transitions,
    (eventDraft label).node ⟨n + 1⟩ ⟨n⟩ .triggers]

/-- The nodes for a state machine, for any kinds of the names. -/
def nodesOf (kindOf : String → VertexKind) (root : NodeId) (name : String) (n : ℕ)
    (es : List Edge) : List Node :=
  if es.isEmpty then []
  else
    (machineDraft name).node ⟨n⟩ root .ownedElements ::
      regionDraft.node ⟨n + 1⟩ ⟨n⟩ .regions ::
      edgeNodes (vertexNodeOf kindOf ⟨n + 1⟩) (transitionNodes ⟨n + 1⟩) (n + 2) .empty es

/-- The nodes for a state machine in which the names tell the kinds. -/
def nodes (root : NodeId) (name : String) (n : ℕ) (es : List Edge) : List Node :=
  nodesOf VertexKind.ofName root name n es

lemma length_nodesOf (kindOf : String → VertexKind) (root : NodeId) (name : String) (n : ℕ)
    (es : List Edge) : (nodesOf kindOf root name n es).length =
      if es.isEmpty then 0 else 2 + (es.flatMap Edge.ends).eraseDups.length + 2 * es.length := by
  unfold nodesOf
  split
  · rfl
  · have hlink : ∀ k a b label, (transitionNodes ⟨n + 1⟩ k a b label).length = 2 :=
      fun _ _ _ _ => rfl
    rw [List.length_cons, List.length_cons, length_edgeNodes hlink, NameTable.fresh_empty]
    omega

lemma length_nodes (root : NodeId) (name : String) (n : ℕ) (es : List Edge) :
    (nodes root name n es).length =
      if es.isEmpty then 0 else 2 + (es.flatMap Edge.ends).eraseDups.length + 2 * es.length :=
  length_nodesOf VertexKind.ofName root name n es

/-- The nodes of a state machine are the machine, its region with the vertices and transitions, and
the events.  Both ends of a transition are vertices of the same region. -/
lemma cases_of_mem_nodes {root : NodeId} {name : String} {n : ℕ} {es : List Edge} {node : Node}
    (h : node ∈ nodes root name n es) :
    node = (machineDraft name).node ⟨n⟩ root .ownedElements ∨
      regionDraft.node ⟨n + 1⟩ ⟨n⟩ .regions ∈ nodes root name n es ∧
        (node = regionDraft.node ⟨n + 1⟩ ⟨n⟩ .regions ∨
          (∃ k vertex, node = vertexNode ⟨n + 1⟩ k vertex) ∨
          (∃ k source target label,
            node = (transitionDraft ⟨source⟩ ⟨target⟩ label).node ⟨k⟩ ⟨n + 1⟩ .transitions ∧
            (∃ vertex, vertexNode ⟨n + 1⟩ source vertex ∈ nodes root name n es) ∧
            ∃ vertex, vertexNode ⟨n + 1⟩ target vertex ∈ nodes root name n es) ∨
          ∃ k label, node = (eventDraft label).node ⟨k + 1⟩ ⟨k⟩ .triggers) := by
  unfold nodes nodesOf at h ⊢
  split at h
  · cases h
  · next hes =>
    rw [if_neg hes]
    rcases List.mem_cons.mp h with rfl | h
    · exact .inl rfl
    · refine .inr ⟨List.mem_cons_of_mem _ List.mem_cons_self, ?_⟩
      rcases List.mem_cons.mp h with rfl | h
      · exact .inl rfl
      · right
        rcases mem_edgeNodes h with hvertex | ⟨k, a, b, label, hlink, ha, hb⟩
        · exact .inl hvertex
        · right
          rcases List.mem_pair.mp hlink with rfl | rfl
          · -- the table is empty at the beginning, so that both ends are vertices that were made
            obtain ⟨source, x, rfl, hx⟩ := ha.exists_of_empty
            obtain ⟨target, y, rfl, hy⟩ := hb.exists_of_empty
            exact .inl ⟨k, source, target, label, rfl,
              ⟨x, List.mem_cons_of_mem _ (List.mem_cons_of_mem _ hx)⟩,
              y, List.mem_cons_of_mem _ (List.mem_cons_of_mem _ hy)⟩
          · exact .inr ⟨k, label, rfl⟩

lemma isVertex_vertexNode (region : NodeId) (n : ℕ) (name : String) :
    (vertexNode region n name).kind.isVertex = true := by
  rw [vertexNode, vertexNodeOf, NodeDraft.node]
  cases VertexKind.ofName name <;> rfl

/-- The fields of a vertex hold a text, if anything. -/
lemma exists_text_of_mem_vertexNode {region : NodeId} {n : ℕ} {name : String}
    {field : String × Value} (h : field ∈ (vertexNode region n name).fields) :
    ∃ s, field.2 = .text s := by
  rw [vertexNode, vertexNodeOf, NodeDraft.node] at h
  cases hkind : VertexKind.ofName name <;> rw [hkind] at h
  · rw [List.mem_singleton.mp h]
    exact ⟨_, rfl⟩
  · cases h
  · cases h

lemma isSettled_of_mem_nodes {root : NodeId} {name : String} {n : ℕ} {es : List Edge}
    {node : Node} (h : node ∈ nodes root name n es) : node.IsSettled := by
  rcases cases_of_mem_nodes h with
    rfl | ⟨-, rfl | ⟨k, vertex, rfl⟩ | ⟨k, a, b, label, rfl, -, -⟩ | ⟨k, label, rfl⟩⟩
  · exact NodeDraft.isSettled_node (by simp [machineDraft]) _ _ _
  · exact NodeDraft.isSettled_node (by simp [regionDraft]) _ _ _
  · intro field hfield
    obtain ⟨s, hs⟩ := exists_text_of_mem_vertexNode hfield
    simp [hs, Value.IsSettled]
  · exact NodeDraft.isSettled_node (by simp [transitionDraft, Value.IsSettled]) _ _ _
  · exact NodeDraft.isSettled_node (by simp [eventDraft]) _ _ _

/-! ## Drawing -/

variable {doc : Document}

lemma makes_drawVertex (hs : doc.Sound) {region : NodeId} (hr : doc.Has region)
    {states : StateRegistry} {kindOf : String → VertexKind} {name : String}
    (hk : states.kind? name = some (kindOf name)) :
    Makes (drawVertex states region name) doc [vertexNodeOf kindOf region doc.next name] none
      (fun id _ => id = ⟨doc.next⟩) := by
  have hslots : ((kindOf name).draft name).slots.Nodup := by
    cases kindOf name <;> exact .nil
  unfold drawVertex
  rw [hk]
  exact .attach hs hr .vertices _ hslots

lemma makes_drawTransition (hs : doc.Sound) {region : NodeId} (hr : doc.Has region)
    (source target : NodeId) (label : String) :
    Makes (drawTransition region source target label) doc
      (transitionNodes region doc.next source target label) none (fun _ _ => True) := by
  refine (Makes.attach hs hr .transitions (transitionDraft source target label) .nil).bind ?_
  rintro _ doc₁ hg₁ rfl
  have hs₁ : doc₁.Sound := hg₁.sound
  have hevent := Makes.attach hs₁ (hg₁.has_new Nat.zero_lt_one) .triggers (eventDraft label) .nil
  rw [show doc₁.next = doc.next + 1 from hg₁.next] at hevent
  exact hevent.bind_pure fun _ _ _ _ _ => trivial

/-- A state machine is drawn below the root, unless there are no transitions.  Every name must be
registered. -/
lemma makes_draw_of_kinds (hs : doc.Sound) (name : String) {states : StateRegistry}
    {kindOf : String → VertexKind}
    (hk : ∀ name ∈ states.edges.flatMap Edge.ends, states.kind? name = some (kindOf name)) :
    Makes (draw name states) doc (nodesOf kindOf doc.root name doc.next states.edges) none
      (fun machine _ => machine = if states.edges.isEmpty then none else some ⟨doc.next⟩) := by
  unfold draw nodesOf Registry.isEmpty
  cases hes : states.edges with
  | nil => exact .pure hs rfl
  | cons e es =>
    rw [hes] at hk
    simp only [List.isEmpty_cons, Bool.false_eq_true, if_false]
    refine (Makes.root hs).bind ?_
    rintro _ doc - ⟨rfl, rfl⟩
    refine (Makes.attach hs doc.has_root .ownedElements (machineDraft name) .nil).bind ?_
    rintro _ doc₁ hg₁ rfl
    have hs₁ : doc₁.Sound := hg₁.sound
    have hnext₁ : doc₁.next = doc.next + 1 := hg₁.next
    have hregion := Makes.attach hs₁ (hg₁.has_new Nat.zero_lt_one) .regions regionDraft (by decide)
    rw [hnext₁] at hregion
    refine hregion.bind ?_
    rintro _ doc₂ hg₂ rfl
    have hs₂ : doc₂.Sound := hg₂.sound
    have hnext₂ : doc₂.next = doc.next + 2 := hg₂.next.trans (congrArg (· + 1) hnext₁)
    have hr : doc₂.Has ⟨doc.next + 1⟩ := hnext₁ ▸ hg₂.has_new Nat.zero_lt_one
    have hedges := makes_edges
      (fun name hname _ hs hr => makes_drawVertex hs hr (hk name hname))
      (fun _ hs hr => makes_drawTransition hs hr) hs₂ hr .empty
    rw [hnext₂] at hedges
    exact hedges.bind_pure fun _ _ _ _ _ => rfl

/-- The states of a state machine are those at the ends of its transitions. -/
lemma kind?_foldl_addTransition {es : List Edge} {name : String}
    (h : name ∈ es.flatMap Edge.ends) :
    (es.foldl StateRegistry.addTransition .empty).kind? name = some (VertexKind.ofName name) :=
  Registry.kind?_foldl_connect VertexKind.ofName es (fun _ _ hk => by cases hk) (.inr h)

/-- A state machine is drawn below the root, unless there are no transitions. -/
lemma makes_draw (hs : doc.Sound) (name : String) (es : List Edge) :
    Makes (draw name (es.foldl StateRegistry.addTransition .empty)) doc
      (nodes doc.root name doc.next es) none
      (fun machine _ => machine = if es.isEmpty then none else some ⟨doc.next⟩) := by
  have hregistered : (es.foldl StateRegistry.addTransition .empty).edges = es :=
    Registry.edges_foldl_connect VertexKind.ofName es .empty
  have hkinds : ∀ name ∈ (es.foldl StateRegistry.addTransition .empty).edges.flatMap Edge.ends,
      (es.foldl StateRegistry.addTransition .empty).kind? name = some (VertexKind.ofName name) :=
    fun _ hname => kind?_foldl_addTransition (hregistered ▸ hname)
  have hdraw := makes_draw_of_kinds hs name hkinds
  rwa [hregistered] at hdraw

end JavaUml.StateMachine
