/-
# The nodes of an interaction

An interaction that is drawn from messages has a sequence diagram, a lifeline for every name at an
end of a message, and the messages.  As with state machines every name is registered before it is
drawn (`makes_draw`).
-/
import JavaUml.Interaction
import JavaUml.Proofs.Document.Sweep
import JavaUml.Proofs.Drawing.Edges

namespace JavaUml.Interaction

/-! ## Nodes -/

/-- What the node of a collaboration starts with. -/
def collaborationDraft (names : Names) : NodeDraft :=
  { kind := .collaboration, name := some names.collaboration }

/-- What the node of an interaction starts with. -/
def interactionDraft (names : Names) : NodeDraft :=
  { kind := .interaction, name := some names.interaction }

/-- What the node of a sequence diagram starts with. -/
def diagramDraft (names : Names) : NodeDraft :=
  { kind := .sequenceDiagram, name := some names.diagram }

/-- What the node of a lifeline starts with. -/
def lifelineDraft (name : String) : NodeDraft := { kind := .lifeline, name := some name }

/-- What the node of a message starts with. -/
def messageDraft (source target : NodeId) (label : String) : NodeDraft :=
  { kind := .message, name := some label
    fields := [("source", .reference source), ("target", .reference target)] }

/-- The node for a name in an interaction. -/
def lifelineNode (interaction : NodeId) (n : ℕ) (name : String) : Node :=
  (lifelineDraft name).node ⟨n⟩ interaction .participants

/-- The node for a message in an interaction. -/
def messageNodes (interaction : NodeId) (n : ℕ) (source target : NodeId) (label : String) :
    List Node :=
  [(messageDraft source target label).node ⟨n⟩ interaction .messages]

/-- The nodes for an interaction. -/
def nodes (root : NodeId) (names : Names) (n : ℕ) (es : List Edge) : List Node :=
  if es.isEmpty then []
  else
    (collaborationDraft names).node ⟨n⟩ root .ownedElements ::
      (interactionDraft names).node ⟨n + 1⟩ ⟨n⟩ .ownedElements ::
      (diagramDraft names).node ⟨n + 2⟩ ⟨n + 1⟩ .ownedElements ::
      edgeNodes (lifelineNode ⟨n + 1⟩) (messageNodes ⟨n + 1⟩) (n + 3) .empty es

lemma length_nodes (root : NodeId) (names : Names) (n : ℕ) (es : List Edge) :
    (nodes root names n es).length =
      if es.isEmpty then 0 else 3 + (es.flatMap Edge.ends).eraseDups.length + es.length := by
  unfold nodes
  split
  · rfl
  · have hlink : ∀ k a b label, (messageNodes ⟨n + 1⟩ k a b label).length = 1 :=
      fun _ _ _ _ => rfl
    rw [List.length_cons, List.length_cons, List.length_cons, length_edgeNodes hlink,
      NameTable.fresh_empty]
    omega

/-- The nodes of an interaction are the collaboration, the interaction with its diagram, the
lifelines and the messages.  Both ends of a message are lifelines of the same interaction. -/
lemma cases_of_mem_nodes {root : NodeId} {names : Names} {n : ℕ} {es : List Edge} {node : Node}
    (h : node ∈ nodes root names n es) :
    node = (collaborationDraft names).node ⟨n⟩ root .ownedElements ∨
      (interactionDraft names).node ⟨n + 1⟩ ⟨n⟩ .ownedElements ∈ nodes root names n es ∧
        (node = (interactionDraft names).node ⟨n + 1⟩ ⟨n⟩ .ownedElements ∨
          node = (diagramDraft names).node ⟨n + 2⟩ ⟨n + 1⟩ .ownedElements ∨
          (∃ k lifeline, node = lifelineNode ⟨n + 1⟩ k lifeline) ∨
          ∃ k source target label,
            node = (messageDraft ⟨source⟩ ⟨target⟩ label).node ⟨k⟩ ⟨n + 1⟩ .messages ∧
            (∃ lifeline, lifelineNode ⟨n + 1⟩ source lifeline ∈ nodes root names n es) ∧
            ∃ lifeline, lifelineNode ⟨n + 1⟩ target lifeline ∈ nodes root names n es) := by
  unfold nodes at h ⊢
  split at h
  · cases h
  · next hes =>
    rw [if_neg hes]
    rcases List.mem_cons.mp h with rfl | h
    · exact .inl rfl
    · refine .inr ⟨List.mem_cons_of_mem _ List.mem_cons_self, ?_⟩
      rcases List.mem_cons.mp h with rfl | h
      · exact .inl rfl
      · right
        rcases List.mem_cons.mp h with rfl | h
        · exact .inl rfl
        · right
          rcases mem_edgeNodes h with hlifeline | ⟨k, a, b, label, hlink, ha, hb⟩
          · exact .inl hlifeline
          · obtain ⟨source, x, rfl, hx⟩ := ha.exists_of_empty
            obtain ⟨target, y, rfl, hy⟩ := hb.exists_of_empty
            exact .inr ⟨k, source, target, label, List.mem_singleton.mp hlink,
              ⟨x, List.mem_cons_of_mem _ (List.mem_cons_of_mem _ (List.mem_cons_of_mem _ hx))⟩,
              y, List.mem_cons_of_mem _ (List.mem_cons_of_mem _ (List.mem_cons_of_mem _ hy))⟩

lemma isSettled_of_mem_nodes {root : NodeId} {names : Names} {n : ℕ} {es : List Edge}
    {node : Node} (h : node ∈ nodes root names n es) : node.IsSettled := by
  rcases cases_of_mem_nodes h with
    rfl | ⟨-, rfl | rfl | ⟨k, lifeline, rfl⟩ | ⟨k, a, b, label, rfl, -, -⟩⟩
  · exact NodeDraft.isSettled_node (by simp [collaborationDraft]) _ _ _
  · exact NodeDraft.isSettled_node (by simp [interactionDraft]) _ _ _
  · exact NodeDraft.isSettled_node (by simp [diagramDraft]) _ _ _
  · exact NodeDraft.isSettled_node (by simp [lifelineDraft]) _ _ _
  · exact NodeDraft.isSettled_node (by simp [messageDraft, Value.IsSettled]) _ _ _

/-! ## Drawing -/

variable {doc : Document}

lemma makes_drawLifeline (hs : doc.Sound) {interaction : NodeId} (hi : doc.Has interaction)
    {participants : ParticipantRegistry} {name : String}
    (hk : participants.kind? name = some ()) :
    Makes (drawLifeline participants interaction name) doc [lifelineNode interaction doc.next name]
      none (fun id _ => id = ⟨doc.next⟩) := by
  unfold drawLifeline
  rw [hk]
  exact .attach hs hi .participants (lifelineDraft name) .nil

lemma makes_drawMessage (hs : doc.Sound) {interaction : NodeId} (hi : doc.Has interaction)
    (source target : NodeId) (label : String) :
    Makes (drawMessage interaction source target label) doc
      (messageNodes interaction doc.next source target label) none (fun _ _ => True) :=
  (Makes.attach hs hi .messages (messageDraft source target label) .nil).bind_pure
    fun _ _ _ _ _ => trivial

/-- An interaction is drawn in a collaboration below the root, unless there are no messages.  Every
name must be registered. -/
lemma makes_draw_of_registered (hs : doc.Sound) (names : Names) {participants : ParticipantRegistry}
    (hk : ∀ name ∈ participants.edges.flatMap Edge.ends, participants.kind? name = some ()) :
    Makes (draw names participants) doc (nodes doc.root names doc.next participants.edges) none
      (fun collaboration _ =>
        collaboration = if participants.edges.isEmpty then none else some ⟨doc.next⟩) := by
  unfold draw nodes Registry.isEmpty
  cases hes : participants.edges with
  | nil => exact .pure hs rfl
  | cons e es =>
    rw [hes] at hk
    simp only [List.isEmpty_cons, Bool.false_eq_true, if_false]
    refine (Makes.root hs).bind ?_
    rintro _ doc - ⟨rfl, rfl⟩
    refine (Makes.attach hs doc.has_root .ownedElements (collaborationDraft names) .nil).bind ?_
    rintro _ doc₁ hg₁ rfl
    have hs₁ : doc₁.Sound := hg₁.sound
    have hnext₁ : doc₁.next = doc.next + 1 := hg₁.next
    have hinteraction := Makes.attach hs₁ (hg₁.has_new Nat.zero_lt_one) .ownedElements
      (interactionDraft names) .nil
    rw [hnext₁] at hinteraction
    refine hinteraction.bind ?_
    rintro _ doc₂ hg₂ rfl
    have hs₂ : doc₂.Sound := hg₂.sound
    have hnext₂ : doc₂.next = doc.next + 2 := hg₂.next.trans (congrArg (· + 1) hnext₁)
    have hi₂ : doc₂.Has ⟨doc.next + 1⟩ := hnext₁ ▸ hg₂.has_new Nat.zero_lt_one
    have hdiagram := Makes.attach hs₂ hi₂ .ownedElements (diagramDraft names) .nil
    rw [hnext₂] at hdiagram
    refine hdiagram.bind fun _ doc₃ hg₃ _ => ?_
    have hs₃ : doc₃.Sound := hg₃.sound
    have hnext₃ : doc₃.next = doc.next + 3 := hg₃.next.trans (congrArg (· + 1) hnext₂)
    -- declaring the collections makes no nodes
    refine (Makes.declareSlot hs₃ (hg₃.has hi₂) .participants).bind fun _ doc₄ hg₄ _ => ?_
    have hi₄ : doc₄.Has ⟨doc.next + 1⟩ := hg₄.has (hg₃.has hi₂)
    refine (Makes.declareSlot hg₄.sound hi₄ .messages).bind fun _ doc₅ hg₅ _ => ?_
    have hs₅ : doc₅.Sound := hg₅.sound
    have hnext₅ : doc₅.next = doc.next + 3 := (hg₅.next.trans hg₄.next).trans hnext₃
    have hedges := makes_edges
      (fun name hname _ hs hi => makes_drawLifeline hs hi (hk name hname))
      (fun _ hs hi => makes_drawMessage hs hi) hs₅ (hg₅.has hi₄) .empty
    rw [hnext₅] at hedges
    exact hedges.bind_pure fun _ _ _ _ _ => rfl

/-- The participants of an interaction are those at the ends of its messages. -/
lemma kind?_foldl_addMessage {es : List Edge} {name : String} (h : name ∈ es.flatMap Edge.ends) :
    (es.foldl ParticipantRegistry.addMessage .empty).kind? name = some () :=
  Registry.kind?_foldl_connect (fun _ => ()) es (fun _ _ _ => rfl) (.inr h)

/-- An interaction is drawn in a collaboration below the root, unless there are no messages. -/
lemma makes_draw (hs : doc.Sound) (names : Names) (es : List Edge) :
    Makes (draw names (es.foldl ParticipantRegistry.addMessage .empty)) doc
      (nodes doc.root names doc.next es) none
      (fun collaboration _ => collaboration = if es.isEmpty then none else some ⟨doc.next⟩) := by
  have hregistered : (es.foldl ParticipantRegistry.addMessage .empty).edges = es :=
    Registry.edges_foldl_connect (fun _ => ()) es .empty
  have hnames : ∀ name ∈ (es.foldl ParticipantRegistry.addMessage .empty).edges.flatMap Edge.ends,
      (es.foldl ParticipantRegistry.addMessage .empty).kind? name = some () :=
    fun _ hname => kind?_foldl_addMessage (hregistered ▸ hname)
  have hdraw := makes_draw_of_registered hs names hnames
  rwa [hregistered] at hdraw

end JavaUml.Interaction
