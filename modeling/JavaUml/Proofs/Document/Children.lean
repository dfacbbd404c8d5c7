/-
# Children by the outline

The children of a node are those nodes of the outline that name it as their parent.  So where nodes
are added to a document, the children of the nodes can be read off what was added: nodes that were
there before keep their children and may get more, and the children of a new node are new.
-/
import JavaUml.Proofs.Document.Changes

namespace JavaUml.Document

variable {doc after : Document} {nodes : List Node} {id : NodeId}

namespace Sound

/-- The children of a node without their own children are those in the outline. -/
lemma map_bare_childrenOf (h : doc.Sound) (id : NodeId) :
    (doc.childrenOf id).map Node.bare =
      doc.outline.filter fun node => decide (node.parent = some id) := by
  rw [h.childrenOf_eq, outline, List.filter_map]
  rfl

lemma map_bare_childrenIn (h : doc.Sound) (id : NodeId) (slot : Slot) :
    (doc.childrenIn id slot).map Node.bare =
      doc.outline.filter fun node => decide (node.parent = some id) && node.slot == some slot := by
  rw [childrenIn, h.childrenOf_eq, List.filter_filter, outline, List.filter_map]
  congr 2
  funext node
  rw [Bool.and_comm]
  rfl

/-- No node of a document has a parent that is made later. -/
lemma parent_ne_of_next_le (h : doc.Sound) (hid : doc.next ≤ id.value) {node : Node}
    (hn : node ∈ doc.outline) : node.parent ≠ some id := by
  obtain ⟨kept, hkept, rfl⟩ := List.mem_map.mp hn
  intro hp
  have hlt := (h.parent_lt hkept hp).2
  have hnext := (h.has_of_mem hkept).2
  omega

/-- A node whose children can only be one node has this child. -/
lemma childrenOf_eq_singleton (h : doc.Sound) {node : Node} (hn : node ∈ doc.childrenOf id)
    (huniq : ∀ other ∈ doc.childrenOf id, other.id = node.id) : doc.childrenOf id = [node] := by
  have hnodup : (doc.childrenOf id).Nodup := by
    rw [h.childrenOf_eq]
    exact h.nodup_nodes.filter _
  have hmem : ∀ other ∈ doc.childrenOf id, other ∈ doc.nodes.toList :=
    fun other ho => (h.mem_childrenOf_iff.mp ho).1
  refine List.Perm.eq_singleton
    ((List.perm_ext_iff_of_nodup hnodup (List.nodup_singleton _)).mpr fun other => ?_)
  rw [List.mem_singleton]
  constructor
  · intro ho
    exact h.eq_of_id_eq (hmem other ho) (hmem node hn) (huniq other ho)
  · rintro rfl
    exact hn

end Sound

namespace Grows

/-- A node that was there keeps its children, and those that were added come behind them. -/
lemma map_bare_childrenOf (g : doc.Grows after nodes) (h : doc.Sound) (id : NodeId) :
    (after.childrenOf id).map Node.bare = (doc.childrenOf id).map Node.bare ++
      nodes.filter fun node => decide (node.parent = some id) := by
  rw [g.sound.map_bare_childrenOf, h.map_bare_childrenOf, g.outline, List.filter_append]

/-- The children of a node that was added were added. -/
lemma map_bare_childrenOf_new (g : doc.Grows after nodes) (h : doc.Sound)
    (hid : doc.next ≤ id.value) : (after.childrenOf id).map Node.bare =
      nodes.filter fun node => decide (node.parent = some id) := by
  have hold : doc.outline.filter (fun node => decide (node.parent = some id)) = [] :=
    List.filter_eq_nil_iff.mpr fun node hn => by simpa using h.parent_ne_of_next_le hid hn
  rw [g.map_bare_childrenOf h, h.map_bare_childrenOf, hold, List.nil_append]

lemma map_bare_childrenIn_new (g : doc.Grows after nodes) (h : doc.Sound)
    (hid : doc.next ≤ id.value) (slot : Slot) : (after.childrenIn id slot).map Node.bare =
      nodes.filter fun node => decide (node.parent = some id) && node.slot == some slot := by
  have hold : doc.outline.filter
      (fun node => decide (node.parent = some id) && node.slot == some slot) = [] :=
    List.filter_eq_nil_iff.mpr fun node hn => by
      simp [h.parent_ne_of_next_le hid hn]
  rw [g.sound.map_bare_childrenIn, g.outline, List.filter_append, hold, List.nil_append]

end Grows

end JavaUml.Document
