/-
# What an assembled model shows

The relationships that a model shows are read off its document: the kind from the node, and the
names from the nodes to which it leads.  They are those relationships of the declarations of which
both names are declared, in order (`Follows.emitted_eq`).  The vertices of its state machine and the
lifelines of its interaction have the names at the ends of the edges, each once, in the order in
which they first occur (`Follows.vertexNames_eq`, `Follows.lifelineNames_eq`).
-/
import JavaUml.Proofs.Assembly.Relationships
import JavaUml.Proofs.StateMachine.Diagram

namespace JavaUml

/-! ## Reading relationships -/

namespace Document

/-- The name of the node to which a field is a reference. -/
def referredName? (doc : Document) (node : Node) (key : String) : Option String :=
  match node.field? key with
  | some (.reference id) => (doc.get? id).bind Node.name
  | _ => none

/-- The relationship of a kind between the names to which a field of one node and a field of another
lead. -/
def relationshipBetween? (doc : Document) (kind : RelationshipKind) (source : Node)
    (sourceKey : String) (target : Node) (targetKey : String) : Option Relationship := do
  return ⟨kind, ← doc.referredName? source sourceKey, ← doc.referredName? target targetKey⟩

/-- The relationship for which a node stands, with the names of the nodes to which it leads. -/
def relationship? (doc : Document) (node : Node) : Option Relationship :=
  match node.kind with
  | .generalization => doc.relationshipBetween? .generalization node "source" node "target"
  | .interfaceRealization => doc.relationshipBetween? .realization node "source" node "target"
  | .association =>
    match doc.childrenIn node.id .endOne, doc.childrenIn node.id .endTwo with
    | [part], [whole] => doc.relationshipBetween? .aggregation part "reference" whole "reference"
    | _, _ => none
  | _ => none

end Document

namespace Assembly

/-- The relationships in the document of an assembly, in order. -/
def emitted (a : Assembly) : List Relationship :=
  a.document.nodes.toList.filterMap a.document.relationship?

/-- The names of the vertices in the document of an assembly, in order. -/
def vertexNames (a : Assembly) : List (Option String) :=
  (a.document.nodes.toList.filter fun node => node.kind.isVertex).map Node.name

/-- The names of the lifelines in the document of an assembly, in order. -/
def lifelineNames (a : Assembly) : List (Option String) :=
  (a.document.nodes.toList.filter fun node => node.kind == .lifeline).map Node.name

variable {config : AssemblyConfig} {ds : List Declaration} {a : Assembly}

/-- A class or interface is found under its identifier, and has the name for which it stands. -/
lemma Follows.get?_of_lastNamed (h : Follows config ds a) {name : String} {node : Node}
    (hn : a.lastNamed name = some node) :
    a.document.get? node.id = some node ∧ node.name = some name := by
  have hmem := mem_classifiers_of_lastNamed hn
  rw [h.classifiers_eq] at hmem
  have hname := List.find?_some hn
  exact ⟨h.sound.get?_of_mem (List.mem_of_mem_filter hmem), of_decide_eq_true hname⟩

lemma Follows.relationshipBetween?_of_lastNamed (h : Follows config ds a) {r : Relationship}
    {source target node other : Node} {sourceKey targetKey : String}
    (hs : a.lastNamed r.source = some source) (ht : a.lastNamed r.target = some target)
    (hsource : node.field? sourceKey = some (.reference source.id))
    (htarget : other.field? targetKey = some (.reference target.id)) :
    a.document.relationshipBetween? r.kind node sourceKey other targetKey = some r := by
  have hreferred : ∀ {name key} {named referring : Node}, a.lastNamed name = some named →
      referring.field? key = some (.reference named.id) →
      a.document.referredName? referring key = some name := by
    intro name key named referring hnamed hfield
    obtain ⟨hget, hname⟩ := h.get?_of_lastNamed hnamed
    rw [Document.referredName?, hfield]
    exact (congrArg (Option.bind · Node.name) hget).trans hname
  rw [Document.relationshipBetween?, hreferred hs hsource, hreferred ht htarget]
  rfl

/-- What depicts a relationship is read as this relationship. -/
lemma Follows.relationship?_of_depicts (h : Follows config ds a) {r : Relationship} {node : Node}
    (hd : r.Depicts a node) : a.document.relationship? node = some r := by
  obtain ⟨source, target, hs, ht, -, -, hd⟩ := hd
  cases hk : r.kind <;> rw [hk] at hd
  case aggregation =>
    obtain ⟨hkind, -, part, whole, hone, htwo, -, hpart, -, hwhole⟩ := hd
    rw [Document.relationship?, hkind, hone, htwo, ← hk]
    exact h.relationshipBetween?_of_lastNamed hs ht (by rw [Node.field?, hpart]; rfl)
      (by rw [Node.field?, hwhole]; rfl)
  all_goals
    obtain ⟨hkind, hfields⟩ := hd
    rw [Document.relationship?, hkind, ← hk]
    exact h.relationshipBetween?_of_lastNamed hs ht (by rw [Node.field?, hfields]; rfl)
      (by rw [Node.field?, hfields]; rfl)

lemma relationship?_of_not_isRelationship {doc : Document} {node : Node}
    (h : node.isRelationship = false) : doc.relationship? node = none := by
  unfold Document.relationship?
  cases hk : node.kind <;> first | rfl | simp [Node.isRelationship, hk] at h

/-- The relationships in the document are those of the declarations that are bound. -/
lemma Follows.emitted_eq (h : Follows config ds a) (hf : ds.findSome? Declaration.fault? = none) :
    a.emitted = (relationships ds).filter fun r => decide (IsDeclared ds r) := by
  have hdrawn : List.Forall₂ (Relationship.Drawn (bindings config ds) (relationshipNodes config ds))
      ((relationships ds).filter fun r =>
        ((bindings config ds).resolvePair r.source r.target).isSome)
      ((relationshipNodes config ds).filter Node.isRelationship) :=
    Relationship.forall₂_chain [] (relationships ds) fun _ hn => absurd hn List.not_mem_nil
  have hnodes : (a.document.nodes.toList.filter Node.isRelationship).map Node.bare =
      (relationshipNodes config ds).filter Node.isRelationship := by
    refine h.map_bare_filter_relationships (fun part node hbelongs hp => ?_) (fun _ => rfl)
      fun _ => rfl
    rw [← hbelongs.part]
    simp only [Node.isRelationship, Bool.or_eq_true, beq_iff_eq] at hp
    rcases hp with (hk | hk) | hk <;> rw [hk] <;> rfl
  rw [← hnodes, List.forall₂_map_right_iff] at hdrawn
  -- each of them is read off the node that depicts it
  have hread : ∀ {rs : List Relationship} {nodes : List Node},
      List.Forall₂ (fun r node => r.Drawn (bindings config ds) (relationshipNodes config ds)
        node.bare) rs nodes → nodes.filterMap a.document.relationship? = rs := by
    intro rs nodes hrs
    induction hrs with
    | nil => rfl
    | cons hr _ ih =>
      rw [List.filterMap_cons_some (h.relationship?_of_depicts (h.depicts_of_drawn hf hr)), ih]
  calc a.emitted
      = (a.document.nodes.toList.filter Node.isRelationship).filterMap
          a.document.relationship? := by
        rw [emitted, List.filterMap_filter]
        refine List.filterMap_congr fun node _ => ?_
        cases hn : node.isRelationship with
        | true => rfl
        | false => exact relationship?_of_not_isRelationship hn
    _ = (relationships ds).filter fun r =>
          ((bindings config ds).resolvePair r.source r.target).isSome := hread hdrawn
    _ = (relationships ds).filter fun r => decide (IsDeclared ds r) := by
        refine List.filter_congr fun r _ => ?_
        rw [Bool.eq_iff_iff, isSome_resolvePair_iff, decide_eq_true_iff]

/-! ## Reading names -/

/-- The nodes of names, if they can be told from those of edges, have the names at the ends of the
edges. -/
lemma map_name_filter_edgeNodes {vertex : ℕ → String → Node}
    {link : ℕ → NodeId → NodeId → String → List Node} {p : Node → Bool} {n : ℕ} {es : List Edge}
    (hname : ∀ k name, (vertex k name).name = some name) (hv : ∀ k name, p (vertex k name) = true)
    (hl : ∀ s ∈ strokes vertex link n .empty es, ∀ node ∈ s.linkNodes link, p node = false) :
    ((edgeNodes vertex link n .empty es).filter p).map Node.name = (endNames es).map some := by
  have hnames := map_snd_vertexNumbers vertex link n .empty es
  rw [NameTable.fresh_empty] at hnames
  rw [filter_edgeNodes_vertices hv hl, endNames, ← hnames, List.map_map, List.map_map]
  exact List.map_congr_left fun v _ => hname v.1 v.2

lemma Follows.map_name_filter (h : Follows config ds a) (part : Part) {p : NodeKind → Bool}
    (hp : ∀ kind, p kind = true → kind.part = part) :
    (a.document.nodes.toList.filter fun node => p node.kind).map Node.name =
      ((partNodes config ds part).filter fun node => p node.kind).map Node.name := by
  have hbare := congrArg (List.map Node.name)
    (h.map_bare_filter (p := fun node => p node.kind) (fun _ => rfl) fun _ => rfl)
  rw [filter_blueprint part fun other node hother hnode => hother.part.symm.trans (hp _ hnode),
    List.map_map, List.map_map] at hbare
  exact hbare

/-- The vertices have the names at the ends of the triggers. -/
lemma Follows.vertexNames_eq (h : Follows config ds a) :
    a.vertexNames = (endNames (triggers ds)).map some := by
  rw [vertexNames, h.map_name_filter .stateMachine (p := NodeKind.isVertex) fun kind hk => by
    cases kind <;> first | rfl | cases hk]
  change ((stateMachineNodes config ds).filter _).map _ = _
  unfold stateMachineNodes StateMachine.nodes StateMachine.nodesOf
  cases htriggers : triggers ds with
  | nil => rfl
  | cons e es =>
    refine map_name_filter_edgeNodes (fun k name => ?_)
      (fun k name => StateMachine.isVertex_vertexNode _ k name) fun s _ node hn => ?_
    · exact StateMachine.name_draft _ name
    · rcases List.mem_pair.mp hn with rfl | rfl <;> rfl

/-- The lifelines have the names at the ends of the messages. -/
lemma Follows.lifelineNames_eq (h : Follows config ds a) :
    a.lifelineNames = (endNames (messages ds)).map some := by
  rw [lifelineNames, h.map_name_filter .interaction (p := (· == .lifeline)) fun kind hk => by
    rw [eq_of_beq hk]; rfl]
  change ((interactionNodes config ds).filter _).map _ = _
  unfold interactionNodes Interaction.nodes
  cases hmessages : messages ds with
  | nil => rfl
  | cons e es =>
    refine map_name_filter_edgeNodes (fun _ _ => rfl) (fun _ _ => rfl) fun s _ node hn => ?_
    rw [List.mem_singleton.mp hn]
    rfl

end Assembly

end JavaUml
