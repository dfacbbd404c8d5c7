/-
# The nodes of relationships

A relationship of which both names are bound makes one node, or three if it is an association: the
association and its two ends.  A relationship with a name that is not bound makes nothing.  As the
bound names stand for nodes of the document, drawing relationships never meets an unknown node
(`Relationship.makes_drawAll`).
-/
import JavaUml.ClassModel.Relationships
import JavaUml.Proofs.Document.Relabel
import JavaUml.Proofs.Document.Sweep
import JavaUml.Proofs.Drawing.Makes

namespace JavaUml

lemma NameTable.resolvePair_eq_some_iff {table : NameTable} {source target : String}
    {a b : NodeId} : table.resolvePair source target = some (a, b) ↔
      table.resolve source = some a ∧ table.resolve target = some b := by
  simp only [resolvePair]
  cases table.resolve source <;> cases table.resolve target <;> simp

lemma NameTable.isSome_resolvePair_iff {table : NameTable} {source target : String} :
    (table.resolvePair source target).isSome = true ↔
      table.contains source = true ∧ table.contains target = true := by
  simp only [resolvePair, contains]
  cases table.resolve source <;> cases table.resolve target <;> simp

lemma NameTable.Relabels.resolvePair {f : NodeId → NodeId} {table table' : NameTable}
    (h : table.Relabels f table') (source target : String) :
    table'.resolvePair source target = (table.resolvePair source target).map (Prod.map f f) := by
  rw [NameTable.resolvePair, NameTable.resolvePair, h source, h target]
  cases table.resolve source <;> cases table.resolve target <;> rfl

/-- The number of nodes for a relationship of a kind. -/
def RelationshipKind.size : RelationshipKind → ℕ
  | .aggregation => 3
  | _ => 1

namespace Relationship

/-- What the node for a relationship with a direction starts with. -/
def directedDraft (kind : NodeKind) (source target : NodeId) : NodeDraft :=
  { kind, fields := [("source", .reference source), ("target", .reference target)] }

/-- What the node for an association starts with. -/
def associationDraft : NodeDraft := { kind := .association }

/-- What the end of an association for the type that is used starts with. -/
def partDraft (part : NodeId) : NodeDraft :=
  { kind := .associationEnd, fields := [("reference", .reference part)] }

/-- What the end of an association for the class that uses a type starts with. -/
def wholeDraft (whole : NodeId) : NodeDraft :=
  { kind := .associationEnd
    fields := [("reference", .reference whole), ("aggregation", .text Aggregation.shared.word)] }

/-- The nodes for a relationship between two nodes. -/
def nodesBetween (source target : NodeId) (n : ℕ) : RelationshipKind → List Node
  | .generalization =>
    [(directedDraft .generalization source target).node ⟨n⟩ source .ownedElements]
  | .realization =>
    [(directedDraft .interfaceRealization source target).node ⟨n⟩ source .ownedElements]
  | .aggregation =>
    [associationDraft.node ⟨n⟩ source .ownedElements,
      (partDraft source).node ⟨n + 1⟩ ⟨n⟩ .endOne,
      (wholeDraft target).node ⟨n + 2⟩ ⟨n⟩ .endTwo]

/-- The nodes for a relationship between two names. -/
def nodes (bindings : NameTable) (n : ℕ) (r : Relationship) : List Node :=
  match bindings.resolvePair r.source r.target with
  | some (source, target) => nodesBetween source target n r.kind
  | none => []

lemma length_nodesBetween (source target : NodeId) (n : ℕ) (kind : RelationshipKind) :
    (nodesBetween source target n kind).length = kind.size := by
  cases kind <;> rfl

lemma length_nodes (bindings : NameTable) (n : ℕ) (r : Relationship) :
    (r.nodes bindings n).length =
      if (bindings.resolvePair r.source r.target).isSome then r.kind.size else 0 := by
  unfold nodes
  cases bindings.resolvePair r.source r.target with
  | none => rfl
  | some pair => exact length_nodesBetween pair.1 pair.2 n r.kind

/-- The nodes of a relationship are between what its names are bound to: one with a direction, or
the association and its ends. -/
lemma cases_of_mem_nodes {bindings : NameTable} {n : ℕ} {r : Relationship} {node : Node}
    (h : node ∈ r.nodes bindings n) :
    ∃ source target, bindings.resolvePair r.source r.target = some (source, target) ∧
      ((∃ kind, (kind = .generalization ∨ kind = .interfaceRealization) ∧
          node = (directedDraft kind source target).node ⟨n⟩ source .ownedElements) ∨
        associationDraft.node ⟨n⟩ source .ownedElements ∈ r.nodes bindings n ∧
          (node = associationDraft.node ⟨n⟩ source .ownedElements ∨
            node = (partDraft source).node ⟨n + 1⟩ ⟨n⟩ .endOne ∨
            node = (wholeDraft target).node ⟨n + 2⟩ ⟨n⟩ .endTwo)) := by
  unfold nodes at h ⊢
  cases hpair : bindings.resolvePair r.source r.target with
  | none =>
    rw [hpair] at h
    cases h
  | some pair =>
    obtain ⟨source, target⟩ := pair
    rw [hpair] at h
    refine ⟨source, target, rfl, ?_⟩
    cases hk : r.kind <;> rw [hk] at h <;>
      simp only [nodesBetween, List.mem_cons, List.not_mem_nil, or_false] at h
    · exact .inl ⟨_, .inl rfl, h⟩
    · exact .inl ⟨_, .inr rfl, h⟩
    · exact .inr ⟨List.mem_cons_self, h⟩

/-- Relationships are drawn between nodes, and hold no names. -/
lemma isSettled_of_mem_nodes {bindings : NameTable} {n : ℕ} {r : Relationship} {node : Node}
    (h : node ∈ r.nodes bindings n) : node.IsSettled := by
  obtain ⟨source, target, -, ⟨kind, -, rfl⟩ | ⟨-, rfl | rfl | rfl⟩⟩ := cases_of_mem_nodes h
  · exact NodeDraft.isSettled_node (by simp [directedDraft, Value.IsSettled]) _ _ _
  · exact NodeDraft.isSettled_node (by simp [associationDraft]) _ _ _
  · exact NodeDraft.isSettled_node (by simp [partDraft, Value.IsSettled]) _ _ _
  · exact NodeDraft.isSettled_node (by simp [wholeDraft, Value.IsSettled]) _ _ _

/-! ## Drawing -/

variable {doc : Document}

lemma makes_drawDirected (hs : doc.Sound) {source : NodeId} (h : doc.Has source) (kind : NodeKind)
    (target : NodeId) :
    Makes (drawDirected kind source target) doc
      [(directedDraft kind source target).node ⟨doc.next⟩ source .ownedElements] none
      (fun _ _ => True) :=
  (Makes.attach hs h .ownedElements (directedDraft kind source target) .nil).bind_pure
    fun _ _ _ _ _ => trivial

lemma makes_drawAssociation (hs : doc.Sound) {part : NodeId} (h : doc.Has part)
    (whole : NodeId) :
    Makes (drawAssociation part whole) doc (nodesBetween part whole doc.next .aggregation) none
      (fun _ _ => True) := by
  refine (Makes.attach hs h .ownedElements associationDraft .nil).bind ?_
  rintro _ doc₁ hg₁ rfl
  have hassociation : doc₁.Has ⟨doc.next⟩ := hg₁.has_new Nat.zero_lt_one
  have hnext₁ : doc₁.next = doc.next + 1 := hg₁.next
  have hpart := Makes.attach hg₁.sound hassociation .endOne (partDraft part) .nil
  rw [Canvas.document_eq, hnext₁] at hpart
  refine hpart.bind fun _ doc₂ hg₂ _ => ?_
  have hnext₂ : doc₂.next = doc.next + 2 := hg₂.next.trans (congrArg (· + 1) hnext₁)
  have hwhole := Makes.attach hg₂.sound (hg₂.has hassociation) .endTwo (wholeDraft whole) .nil
  rw [Canvas.document_eq, hnext₂] at hwhole
  exact hwhole.bind_pure fun _ _ _ _ _ => trivial

lemma makes_drawBetween (hs : doc.Sound) {source : NodeId} (h : doc.Has source)
    (target : NodeId) (kind : RelationshipKind) :
    Makes (drawBetween source target kind) doc (nodesBetween source target doc.next kind) none
      (fun _ _ => True) := by
  cases kind with
  | generalization => exact makes_drawDirected hs h _ target
  | realization => exact makes_drawDirected hs h _ target
  | aggregation => exact makes_drawAssociation hs h target

/-- What is told about a relationship: nothing if both its names are bound. -/
def unresolved (bindings : NameTable) (reporting : Bool) (r : Relationship) :
    List UnresolvedRelationship :=
  if reporting ∧ bindings.resolvePair r.source r.target = none then [⟨r, r.missing bindings⟩]
  else []

lemma missing_relabel {f : NodeId → NodeId} {bindings bindings' : NameTable}
    (h : bindings.Relabels f bindings') (r : Relationship) :
    r.missing bindings' = r.missing bindings := by
  simp [missing, NameTable.contains, h _]

/-- What is told does not depend on the identifiers. -/
lemma unresolved_relabel {f : NodeId → NodeId} {bindings bindings' : NameTable}
    (h : bindings.Relabels f bindings') (reporting : Bool) (r : Relationship) :
    r.unresolved bindings' reporting = r.unresolved bindings reporting := by
  simp only [unresolved, missing_relabel h, h.resolvePair, Option.map_eq_none_iff]

/-- A relationship is drawn if both its names are bound, and dropped if not. -/
lemma makes_draw (hs : doc.Sound) {bindings : NameTable}
    (hb : ∀ name id, bindings.resolve name = some id → doc.Has id) (reporting : Bool)
    (report : RelationshipReport) (r : Relationship) :
    Makes (draw bindings reporting report r) doc (r.nodes bindings doc.next) none
      (fun report' _ =>
        report'.unresolved = report.unresolved ++ r.unresolved bindings reporting) := by
  unfold draw nodes unresolved
  cases hpair : bindings.resolvePair r.source r.target with
  | none => exact .pure hs (by cases reporting <;> simp)
  | some pair =>
    obtain ⟨source, target⟩ := pair
    have hsource := (NameTable.resolvePair_eq_some_iff.mp hpair).1
    exact (makes_drawBetween hs (hb _ _ hsource) target r.kind).bind_pure
      fun _ _ _ _ _ => by simp

/-- The relationships of a store make their nodes one after the other, and those that are dropped
are told in the same order. -/
lemma makes_drawAll (hs : doc.Sound) {store : ClassStore}
    (hb : ∀ name id, store.bindings.resolve name = some id → doc.Has id) (reporting : Bool) :
    Makes (drawAll reporting store) doc
      (chain (nodes store.bindings) doc.next store.relationships) none
      (fun report _ => report.unresolved =
        store.relationships.flatMap (unresolved store.bindings reporting)) := by
  refine (Makes.foldlM RelationshipReport.unresolved (unresolved store.bindings reporting)
    (fun (doc' : Document) => ∀ name id, store.bindings.resolve name = some id → doc'.Has id)
    (fun r report doc' hs' hb' => ?_) store.relationships ({} : RelationshipReport) doc hs hb).imp
    fun _ report _ _ h => h.1
  refine (makes_draw hs' hb' reporting report r).imp fun _ report' doc'' hg h => ⟨h, ?_⟩
  exact fun name id hid => hg.has (hb' name id hid)

end Relationship

end JavaUml
