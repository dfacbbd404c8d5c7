/-
# Relationships of an assembled model

Every declaration gives relationships between names: to what it extends, to what it implements, and
from each type that its fields mention.  Those of which both names are declared are in the document,
each as one node, in the order in which the declarations give them (`relationships_correspond`).

That nothing else is an end of an association is shown along the list of nodes: the ends that come
before an association have parents with smaller identifiers, and those that come after it have
parents with larger ones (`forall₂_chain`).
-/
import JavaUml.Proofs.Assembly.Outcome
import JavaUml.Proofs.Assembly.Parts

namespace JavaUml

/-- The names of the reference types in a type are its own name and those in its arguments, from
left to right.  A primitive type and the unbounded wildcard have none, whatever their arguments
are. -/
lemma TypeRef.referenceNames_eq (t : TypeRef) :
    t.referenceNames =
      if t.isPrimitive || t.name == "?" then []
      else t.name :: t.arguments.flatMap referenceNames := by
  have harguments : ∀ ts : List TypeRef,
      argumentReferenceNames ts = ts.flatMap referenceNames := by
    intro ts
    induction ts with
    | nil => rfl
    | cons t ts ih => rw [argumentReferenceNames, ih, List.flatMap_cons]
  obtain ⟨name, arguments, dimensions, wildcard⟩ := t
  have hreference : isReference ⟨name, arguments, dimensions, wildcard⟩ =
      !(isPrimitive ⟨name, arguments, dimensions, wildcard⟩ || name == "?") := by
    rw [isReference, Bool.not_or]
    rfl
  rw [referenceNames, harguments, hreference]
  cases isPrimitive ⟨name, arguments, dimensions, wildcard⟩ || name == "?" <;> rfl

/-- The relationships of a declaration in order: to the names that it extends, to those that it
implements, and from those in the types of its fields. -/
def Declaration.records (d : Declaration) : List Relationship :=
  d.parents.map (⟨.generalization, d.name, ·⟩) ++ d.interfaces.map (⟨.realization, d.name, ·⟩) ++
    d.fields.flatMap fun f => f.type.referenceNames.map (⟨.aggregation, ·, d.name⟩)

lemma Declaration.relationships_eq (d : Declaration) : d.relationships = d.records := by
  rw [relationships, aggregations_eq]
  rfl

/-! ## The nodes of relationships in a list -/

/-- Whether a node stands for a relationship. -/
def Node.isRelationship (node : Node) : Bool :=
  node.kind == .generalization || node.kind == .interfaceRealization || node.kind == .association

/-- Whether a node is in a collection of another node. -/
def Node.isIn (parent : NodeId) (slot : Slot) (node : Node) : Bool :=
  node.slot == some slot && decide (node.parent = some parent)

lemma Node.filter_isIn_eq_nil {nodes : List Node} {n : ℕ} {slot : Slot}
    (h : ∀ node ∈ nodes, node.slot = some slot → ∃ k, node.parent = some ⟨k⟩ ∧ k ≠ n) :
    nodes.filter (isIn ⟨n⟩ slot) = [] := by
  rw [List.filter_eq_nil_iff]
  intro node hn hin
  simp only [isIn, Bool.and_eq_true, beq_iff_eq, decide_eq_true_eq] at hin
  obtain ⟨k, hk, hne⟩ := h node hn hin.1
  rw [hin.2] at hk
  cases hk
  exact hne rfl

namespace Relationship

/-- In a list of nodes, a node is drawn for a relationship; if it is an association, then each of
its two collections has one end. -/
def Drawn (bindings : NameTable) (nodes : List Node) (r : Relationship) (node : Node) : Prop :=
  ∃ source target n, bindings.resolvePair r.source r.target = some (source, target) ∧
    match r.kind with
    | .generalization =>
      node = (directedDraft .generalization source target).node ⟨n⟩ source .ownedElements
    | .realization =>
      node = (directedDraft .interfaceRealization source target).node ⟨n⟩ source .ownedElements
    | .aggregation =>
      node = associationDraft.node ⟨n⟩ source .ownedElements ∧
      nodes.filter (Node.isIn ⟨n⟩ .endOne) = [(partDraft source).node ⟨n + 1⟩ ⟨n⟩ .endOne] ∧
      nodes.filter (Node.isIn ⟨n⟩ .endTwo) = [(wholeDraft target).node ⟨n + 2⟩ ⟨n⟩ .endTwo]

variable {bindings : NameTable}

/-- The ends of an association that is drawn have it as their parent. -/
lemma parent_of_mem_nodes {n : ℕ} {r : Relationship} {node : Node} (h : node ∈ r.nodes bindings n)
    {slot : Slot} (hslot : node.slot = some slot) (hs : slot.isSingular = true) :
    node.parent = some ⟨n⟩ := by
  obtain ⟨source, target, -, ⟨kind, -, rfl⟩ | ⟨-, rfl | rfl | rfl⟩⟩ := cases_of_mem_nodes h
  · cases hslot
    cases hs
  · cases hslot
    cases hs
  · rfl
  · rfl

/-- An end has an association as its parent that is drawn with it. -/
lemma parent_of_mem_chain {n : ℕ} {rs : List Relationship} {node : Node}
    (h : node ∈ chain (nodes bindings) n rs) {slot : Slot} (hslot : node.slot = some slot)
    (hs : slot.isSingular = true) : ∃ k, node.parent = some ⟨k⟩ ∧ n ≤ k := by
  obtain ⟨r, -, k, hk, hn, -⟩ := exists_of_mem_chain h
  exact ⟨k, parent_of_mem_nodes hn hslot hs, hk⟩

/-- Before and after the nodes of a relationship there is nothing in its own collections. -/
lemma filter_isIn_drawn {pre : List Node} {n : ℕ}
    (hpre : ∀ node ∈ pre, ∀ slot, node.slot = some slot → slot.isSingular = true →
      ∃ k, node.parent = some ⟨k⟩ ∧ k < n)
    (own : List Node) {m : ℕ} (hm : n < m) (rs : List Relationship) {slot : Slot}
    (hs : slot.isSingular = true) :
    (pre ++ own ++ chain (nodes bindings) m rs).filter (Node.isIn ⟨n⟩ slot) =
      own.filter (Node.isIn ⟨n⟩ slot) := by
  have hbefore : pre.filter (Node.isIn ⟨n⟩ slot) = [] := by
    refine Node.filter_isIn_eq_nil fun node hn hslot => ?_
    obtain ⟨k, hk, hlt⟩ := hpre node hn slot hslot hs
    exact ⟨k, hk, Nat.ne_of_lt hlt⟩
  have hafter : (chain (nodes bindings) m rs).filter (Node.isIn ⟨n⟩ slot) = [] := by
    refine Node.filter_isIn_eq_nil fun node hn hslot => ?_
    obtain ⟨k, hk, hle⟩ := parent_of_mem_chain hn hslot hs
    exact ⟨k, hk, Nat.ne_of_gt (Nat.lt_of_lt_of_le hm hle)⟩
  rw [List.filter_append, List.filter_append, hbefore, hafter, List.nil_append, List.append_nil]

/-- Of the nodes of a relationship that is bound one stands for it. -/
lemma exists_drawn {nodes : List Node} {r : Relationship} {source target : NodeId} {n : ℕ}
    (hpair : bindings.resolvePair r.source r.target = some (source, target))
    (hown : ∀ slot : Slot, slot.isSingular = true → nodes.filter (Node.isIn ⟨n⟩ slot) =
      (nodesBetween source target n r.kind).filter (Node.isIn ⟨n⟩ slot)) :
    ∃ head, (nodesBetween source target n r.kind).filter Node.isRelationship = [head] ∧
      Drawn bindings nodes r head := by
  have hone := hown .endOne rfl
  have htwo := hown .endTwo rfl
  unfold Drawn
  cases hkind : r.kind <;> rw [hkind] at hone htwo
  · exact ⟨_, rfl, source, target, n, hpair, rfl⟩
  · exact ⟨_, rfl, source, target, n, hpair, rfl⟩
  · refine ⟨_, rfl, source, target, n, hpair, rfl, ?_, ?_⟩
    · rw [hone]
      simp [nodesBetween, Node.isIn, NodeDraft.node]
    · rw [htwo]
      simp [nodesBetween, Node.isIn, NodeDraft.node]

/-- The relationships that are bound are drawn one after the other. -/
lemma forall₂_chain (pre : List Node) {n : ℕ} (rs : List Relationship)
    (hpre : ∀ node ∈ pre, ∀ slot, node.slot = some slot → slot.isSingular = true →
      ∃ k, node.parent = some ⟨k⟩ ∧ k < n) :
    List.Forall₂ (Drawn bindings (pre ++ chain (nodes bindings) n rs))
      (rs.filter fun r => (bindings.resolvePair r.source r.target).isSome)
      ((chain (nodes bindings) n rs).filter Node.isRelationship) := by
  induction rs generalizing pre n with
  | nil => exact .nil
  | cons r rs ih =>
    cases hpair : bindings.resolvePair r.source r.target with
    | none =>
      have hnone : r.nodes bindings n = [] := by rw [nodes, hpair]
      rw [List.filter_cons_of_neg (by simp [hpair]), chain, hnone]
      exact ih pre hpre
    | some pair =>
      obtain ⟨source, target⟩ := pair
      have hsome : r.nodes bindings n = nodesBetween source target n r.kind := by rw [nodes, hpair]
      rw [List.filter_cons_of_pos (by simp [hpair]), chain, hsome, length_nodesBetween,
        List.filter_append, ← List.append_assoc]
      have hsize : n < n + r.kind.size := by
        cases r.kind <;> simp [RelationshipKind.size]
      -- the nodes of this relationship join those that stand before the rest
      have hpre' : ∀ node ∈ pre ++ nodesBetween source target n r.kind, ∀ slot,
          node.slot = some slot → slot.isSingular = true →
          ∃ k, node.parent = some ⟨k⟩ ∧ k < n + r.kind.size := by
        intro node hn slot hslot hs
        rcases List.mem_append.mp hn with hn | hn
        · obtain ⟨k, hk, hlt⟩ := hpre node hn slot hslot hs
          exact ⟨k, hk, Nat.lt_add_right _ hlt⟩
        · rw [← hsome] at hn
          exact ⟨n, parent_of_mem_nodes hn hslot hs, hsize⟩
      obtain ⟨head, hfilter, hdrawn⟩ :=
        exists_drawn hpair fun slot hs => filter_isIn_drawn hpre _ hsize rs hs
      rw [hfilter]
      exact .cons hdrawn (ih _ hpre')

end Relationship

/-! ## The relationships of an assembly -/

/-- A node depicts a relationship: it belongs to the last class or interface with the name of the
source, and it refers to this one and to the last one with the name of the target.  An association
does so by its two ends, of which the second one tells that the reference is shared. -/
def Relationship.Depicts (a : Assembly) (r : Relationship) (node : Node) : Prop :=
  ∃ source target, a.lastNamed r.source = some source ∧ a.lastNamed r.target = some target ∧
    node.parent = some source.id ∧ node.slot = some .ownedElements ∧
    match r.kind with
    | .generalization => node.kind = .generalization ∧
      node.fields = [("source", .reference source.id), ("target", .reference target.id)]
    | .realization => node.kind = .interfaceRealization ∧
      node.fields = [("source", .reference source.id), ("target", .reference target.id)]
    | .aggregation => node.kind = .association ∧ node.fields = [] ∧
      ∃ part whole, a.document.childrenIn node.id .endOne = [part] ∧
        a.document.childrenIn node.id .endTwo = [whole] ∧
        part.kind = .associationEnd ∧ part.fields = [("reference", .reference source.id)] ∧
        whole.kind = .associationEnd ∧ whole.fields =
          [("reference", .reference target.id), ("aggregation", .text Aggregation.shared.word)]

namespace Assembly

variable {config : AssemblyConfig} {ds : List Declaration} {a : Assembly}

namespace Follows

/-- The nodes of relationships that pass a test are in the document as they are in the blueprint. -/
lemma map_bare_filter_relationships (h : Follows config ds a) {p : Node → Bool}
    (hp : ∀ part (node : Node), node.Belongs part → p node = true → part = .relationships)
    (hbare : ∀ node : Node, p node.bare = p node)
    (hresolve : ∀ node : Node, p (node.resolve (bindings config ds)) = p node) :
    (a.document.nodes.toList.filter p).map Node.bare = (relationshipNodes config ds).filter p := by
  rw [h.map_bare_filter hbare hresolve, filter_blueprint .relationships hp]
  refine (List.map_congr_left fun node hn => ?_).trans (List.map_id _)
  have hdiagram : node ∈ diagramNodes config ds :=
    List.mem_append_left _ (List.mem_of_mem_filter hn)
  exact (isSettled_of_mem_diagramNodes hdiagram).resolve _

lemma map_bare_childrenIn (h : Follows config ds a) (id : NodeId) {slot : Slot}
    (hs : slot.isSingular = true) :
    (a.document.childrenIn id slot).map Node.bare =
      (relationshipNodes config ds).filter (Node.isIn id slot) := by
  rw [Document.childrenIn, h.sound.childrenOf_eq, List.filter_filter]
  refine h.map_bare_filter_relationships (p := Node.isIn id slot) (fun part node hbelongs hp => ?_)
    (fun _ => rfl) fun _ => rfl
  have hslot : node.slot = some slot := by
    simpa using (Bool.and_eq_true_iff.mp hp).1
  rw [← hbelongs.part, hbelongs.singular slot hslot hs]
  rfl

lemma depicts_of_drawn (h : Follows config ds a) (hf : ds.findSome? Declaration.fault? = none)
    {r : Relationship} {node : Node}
    (hd : r.Drawn (bindings config ds) (relationshipNodes config ds) node.bare) :
    r.Depicts a node := by
  obtain ⟨source, target, n, hpair, hd⟩ := hd
  obtain ⟨hsource, htarget⟩ := NameTable.resolvePair_eq_some_iff.mp hpair
  obtain ⟨sourceNode, hs, rfl⟩ := h.exists_lastNamed hf hsource
  obtain ⟨targetNode, ht, rfl⟩ := h.exists_lastNamed hf htarget
  refine ⟨sourceNode, targetNode, hs, ht, ?_⟩
  cases hkind : r.kind <;> rw [hkind] at hd
  · refine ⟨congrArg Node.parent hd, congrArg Node.slot hd, congrArg Node.kind hd,
      congrArg Node.fields hd⟩
  · refine ⟨congrArg Node.parent hd, congrArg Node.slot hd, congrArg Node.kind hd,
      congrArg Node.fields hd⟩
  · obtain ⟨hnode, hone, htwo⟩ := hd
    have hid : node.id = ⟨n⟩ := congrArg Node.id hnode
    rw [← hid, ← h.map_bare_childrenIn node.id rfl, List.map_eq_singleton_iff] at hone htwo
    obtain ⟨part, hpart, hpartbare⟩ := hone
    obtain ⟨whole, hwhole, hwholebare⟩ := htwo
    exact ⟨congrArg Node.parent hnode, congrArg Node.slot hnode, congrArg Node.kind hnode,
      congrArg Node.fields hnode, part, whole, hpart, hwhole, congrArg Node.kind hpartbare,
      congrArg Node.fields hpartbare, congrArg Node.kind hwholebare,
      congrArg Node.fields hwholebare⟩

end Follows

/-- The classes and interfaces of a model are the declarations in order.  The generalizations,
realizations and associations of a document, in the order of their identifiers, are one for each
relationship of the declarations of which both names are declared, in the order in which the
declarations give them, and there are no others. -/
theorem relationships_correspond (h : assemble config ds = .ok a) :
    (a.classifiers.map fun node => (node.kind, node.name)) =
      ds.map (fun d => (d.kind.nodeKind, some d.name)) ∧
    a.document.nodes.toList.Pairwise (fun node other => node.id.value < other.id.value) ∧
    List.Forall₂ (Relationship.Depicts a)
      ((ds.flatMap Declaration.records).filter fun r =>
        r.source ∈ ds.map Declaration.name ∧ r.target ∈ ds.map Declaration.name)
      (a.document.nodes.toList.filter Node.isRelationship) ∧
    (∀ t : TypeRef, t.referenceNames =
      if t.isPrimitive || t.name == "?" then []
      else t.name :: t.arguments.flatMap TypeRef.referenceNames) := by
  obtain ⟨hf, hfollows⟩ := follows_of_ok h
  refine ⟨?_, ?_, ?_, TypeRef.referenceNames_eq⟩
  -- the classes and interfaces
  · have hkinds := congrArg (List.map Prod.snd) (hfollows.map_classifiers hf)
    rw [List.map_map, List.map_map] at hkinds
    exact hkinds.trans (Declaration.map_entries (fun kind name => (kind.nodeKind, some name)) _ ds)
  -- the order of the nodes is that of their identifiers
  · have hids : (a.document.nodes.toList.map Node.id).Pairwise fun id other : NodeId =>
        id.value < other.value := by
      rw [hfollows.ids, List.pairwise_map]
      exact List.pairwise_lt_range.imp fun hlt => Nat.add_lt_add_left hlt _
    exact (List.pairwise_map (f := Node.id)).mp hids
  -- the correspondence, first with the blueprint and then with the document
  · have hdrawn : List.Forall₂
        (Relationship.Drawn (bindings config ds) (relationshipNodes config ds))
        ((relationships ds).filter fun r =>
          ((bindings config ds).resolvePair r.source r.target).isSome)
        ((relationshipNodes config ds).filter Node.isRelationship) :=
      Relationship.forall₂_chain [] (relationships ds) fun _ hn => absurd hn List.not_mem_nil
    have hrecords : ((relationships ds).filter fun r =>
        ((bindings config ds).resolvePair r.source r.target).isSome) =
        (ds.flatMap Declaration.records).filter fun r =>
          r.source ∈ ds.map Declaration.name ∧ r.target ∈ ds.map Declaration.name := by
      have hflat : relationships ds = ds.flatMap Declaration.records :=
        List.flatMap_congr fun d _ => d.relationships_eq
      rw [hflat]
      refine List.filter_congr fun r _ => ?_
      rw [Bool.eq_iff_iff, isSome_resolvePair_iff, decide_eq_true_iff, IsDeclared]
    have hnodes : (a.document.nodes.toList.filter Node.isRelationship).map Node.bare =
        (relationshipNodes config ds).filter Node.isRelationship := by
      refine hfollows.map_bare_filter_relationships (fun part node hbelongs hp => ?_)
        (fun _ => rfl) fun _ => rfl
      rw [← hbelongs.part]
      simp only [Node.isRelationship, Bool.or_eq_true, beq_iff_eq] at hp
      rcases hp with (hk | hk) | hk <;> rw [hk] <;> rfl
    rw [hrecords, ← hnodes, List.forall₂_map_right_iff] at hdrawn
    exact hdrawn.imp fun r node hd => hfollows.depicts_of_drawn hf hd

/-- Of the relationships of a class whose field has the type `List<B, Map<A>, ?<A>>`, those to names
that are not declared and the one inside the wildcard are left out.  The name `B` is declared after
the class, and twice. -/
theorem relationships_correspond_of_nested_types :
    let nested : TypeRef := { name := "List", arguments := [.named "B",
      { name := "Map", arguments := [.named "A"] }, { name := "?", arguments := [.named "A"] }] }
    let ds : List Declaration :=
      [{ kind := .classType, name := "A", parents := ["B"], interfaces := ["C"]
         members := [.field ⟨"f", [], nested⟩] },
       { kind := .interfaceType, name := "B" }, { kind := .classType, name := "B" }]
    ∃ a, assemble {} ds = .ok a ∧ List.Forall₂ (Relationship.Depicts a)
      [⟨.generalization, "A", "B"⟩, ⟨.aggregation, "B", "A"⟩, ⟨.aggregation, "A", "A"⟩]
      (a.document.nodes.toList.filter Node.isRelationship) := by
  intro nested ds
  have hf : ds.findSome? Declaration.fault? = none := by decide
  obtain ⟨a, ha, -⟩ := @assemble_of_nodeCount_le {} ds hf (by decide)
  refine ⟨a, ha, ?_⟩
  have hrecords : ((ds.flatMap Declaration.records).filter fun r =>
      r.source ∈ ds.map Declaration.name ∧ r.target ∈ ds.map Declaration.name) =
      [⟨.generalization, "A", "B"⟩, ⟨.aggregation, "B", "A"⟩, ⟨.aggregation, "A", "A"⟩] := by
    decide
  rw [← hrecords]
  exact (relationships_correspond ha).2.2.1

end Assembly

end JavaUml
