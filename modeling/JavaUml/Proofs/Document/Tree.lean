/-
# The tree of a document

The nodes of a document stand in an array, and each of them names its parent and lists its children.
That these two agree is an invariant of the whole array, `Document.Sound`: the identifiers are
consecutive, every node but the root has its parent among the nodes before it, and the children of a
node are the nodes with this parent, in the order of the array.

What a document says apart from lists of children and collections is its outline.  The invariant
fixes the children by the outline, so that a document can be described by the outline alone:

* `Document.Sound.get?_eq_some_iff`: looking up an identifier finds the node with this identifier;
* `Document.Sound.childrenOf_eq`: the children of a node are read off the parents of the others.
-/
import JavaUml.Document.Basic
import Mathlib.Data.List.Nodup
import Mathlib.Tactic.Common

namespace JavaUml

/-- A node without its collections and children. -/
def Node.bare (node : Node) : Node := { node with slots := [], children := [] }

@[simp] lemma Node.bare_id (node : Node) : node.bare.id = node.id := rfl

@[simp] lemma Node.bare_kind (node : Node) : node.bare.kind = node.kind := rfl

@[simp] lemma Node.bare_parent (node : Node) : node.bare.parent = node.parent := rfl

@[simp] lemma Node.bare_slot (node : Node) : node.bare.slot = node.slot := rfl

@[simp] lemma Node.bare_fields (node : Node) : node.bare.fields = node.fields := rfl

/-- The bare node that a draft becomes. -/
def NodeDraft.node (draft : NodeDraft) (id parent : NodeId) (slot : Slot) : Node :=
  { id, kind := draft.kind, name := draft.name, parent := some parent, slot := some slot
    fields := draft.fields }

/-- A node either is the root, or it has a parent with a smaller identifier and is in one of the
collections of this parent. -/
def Node.Placed (root : NodeId) (node : Node) : Prop :=
  (node.id = root ∧ node.parent = none) ∨
    ∃ parent slot, node.parent = some parent ∧ node.slot = some slot ∧
      root.value ≤ parent.value ∧ parent.value < node.id.value

/-- The identifiers of the nodes with a parent, in order. -/
def offspring (nodes : List Node) (id : NodeId) : List NodeId :=
  (nodes.filter fun node => node.parent = some id).map Node.id

lemma offspring_append (nodes more : List Node) (id : NodeId) :
    offspring (nodes ++ more) id = offspring nodes id ++ offspring more id := by
  simp [offspring]

lemma offspring_singleton (node : Node) (id : NodeId) :
    offspring [node] id = if node.parent = some id then [node.id] else [] := by
  by_cases h : node.parent = some id <;> simp [offspring, h]

namespace Document

/-- The nodes of a document without their collections and children. -/
def outline (doc : Document) : List Node := doc.nodes.toList.map Node.bare

/-- The number that the next node gets. -/
def next (doc : Document) : ℕ := doc.root.value + doc.size

/-- An identifier is one of a node of the document. -/
def Has (doc : Document) (id : NodeId) : Prop :=
  doc.root.value ≤ id.value ∧ id.value < doc.next

/-- The nodes of a document are a tree, in the order in which they were made. -/
structure Sound (doc : Document) : Prop where
  /-- The source of identifiers stands right behind the last node. -/
  allocated : doc.ids.seed.toNat + doc.ids.used = doc.next
  bounded : doc.next ≤ UInt64.size
  numbered : doc.outline.map Node.id = (List.range doc.size).map fun i => ⟨doc.root.value + i⟩
  placed : ∀ node ∈ doc.outline, node.Placed doc.root
  listed : ∀ node ∈ doc.nodes.toList, node.children = offspring doc.outline node.id
  nodup_slots : ∀ node ∈ doc.nodes.toList, node.slots.Nodup
  /-- The collection of a child is declared by its parent. -/
  declared : ∀ node ∈ doc.nodes.toList, ∀ child ∈ doc.outline,
    child.parent = some node.id → ∃ slot ∈ node.slots, child.slot = some slot

variable {doc doc' : Document}

lemma eq_of_nodes (hids : doc'.ids = doc.ids) (hnodes : doc'.nodes = doc.nodes) : doc' = doc := by
  cases doc
  cases doc'
  simp_all

/-! ## The root and the size -/

lemma length_outline (doc : Document) : doc.outline.length = doc.size := by
  simp [outline, size]

lemma size_pos (doc : Document) : 0 < doc.size := doc.nonempty

lemma head?_outline (doc : Document) : doc.outline.head? = some doc.rootNode.bare := by
  have h := doc.nonempty
  rw [outline, List.head?_map, List.head?_eq_getElem?, Array.getElem?_toList,
    Array.getElem?_eq_getElem h]
  rfl

lemma rootNode_mem (doc : Document) : doc.rootNode ∈ doc.nodes.toList := by
  simp [rootNode]

/-- The outline fixes the root. -/
lemma root_eq_of_head? {node : Node} (h : doc.outline.head? = some node) : doc.root = node.id := by
  rw [head?_outline] at h
  rw [← Option.some.inj h]
  rfl

lemma root_eq_of_outline {nodes : List Node} (h : doc'.outline = doc.outline ++ nodes) :
    doc'.root = doc.root := by
  have hhead : doc'.outline.head? = some doc.rootNode.bare := by
    rw [h, List.head?_append, head?_outline]
    rfl
  exact (root_eq_of_head? hhead).trans doc.rootNode.bare_id

lemma root_lt_next (doc : Document) : doc.root.value < doc.next :=
  Nat.lt_add_of_pos_right doc.size_pos

lemma has_root (doc : Document) : doc.Has doc.root := ⟨Nat.le_refl _, doc.root_lt_next⟩

/-! ## Looking up a node -/

lemma index?_eq_some_iff {id : NodeId} {i : ℕ} :
    doc.index? id = some i ↔ doc.Has id ∧ i = id.value - doc.root.value := by
  unfold index? Has next
  constructor
  · intro h
    split at h
    · next hc =>
      refine ⟨⟨hc.1, by omega⟩, ?_⟩
      simpa using h.symm
    · simp at h
  · rintro ⟨⟨h₁, h₂⟩, rfl⟩
    rw [if_pos ⟨h₁, by omega⟩]

lemma index?_eq_none_iff {id : NodeId} : doc.index? id = none ↔ ¬doc.Has id := by
  rw [Option.eq_none_iff_forall_ne_some]
  constructor
  · intro h hid
    exact h _ (index?_eq_some_iff.mpr ⟨hid, rfl⟩)
  · intro h i hi
    exact h (index?_eq_some_iff.mp hi).1

namespace Sound

lemma id_getElem (h : doc.Sound) {i : ℕ} (hi : i < doc.nodes.size) :
    doc.nodes[i].id = ⟨doc.root.value + i⟩ := by
  have hl : i < (doc.outline.map Node.id).length := by simpa [outline] using hi
  have he := List.getElem_of_eq h.numbered hl
  simpa [outline] using he

lemma getElem_of_index? (h : doc.Sound) {id : NodeId} {i : ℕ} (hi : doc.index? id = some i) :
    ∃ hlt : i < doc.nodes.size, doc.nodes[i].id = id := by
  obtain ⟨⟨h₁, h₂⟩, rfl⟩ := index?_eq_some_iff.mp hi
  have hlt : id.value - doc.root.value < doc.nodes.size := by
    simp only [next, size] at h₂
    omega
  exact ⟨hlt, by rw [h.id_getElem hlt, Nat.add_sub_cancel' h₁]⟩

/-- Looking up an identifier finds the node with this identifier, and nothing else. -/
lemma get?_eq_some_iff (h : doc.Sound) {id : NodeId} {node : Node} :
    doc.get? id = some node ↔ node ∈ doc.nodes.toList ∧ node.id = id := by
  simp only [get?, Option.bind_eq_some_iff]
  constructor
  · rintro ⟨i, hi, hn⟩
    obtain ⟨hlt, rfl⟩ := h.getElem_of_index? hi
    obtain rfl : doc.nodes[i] = node := by simpa [hlt] using hn
    exact ⟨by simp, rfl⟩
  · rintro ⟨hn, rfl⟩
    obtain ⟨i, hi, rfl⟩ := List.getElem_of_mem hn
    have hi' : i < doc.nodes.size := by simpa using hi
    have hid : (doc.nodes.toList[i]).id = ⟨doc.root.value + i⟩ := h.id_getElem hi'
    refine ⟨i, index?_eq_some_iff.mpr ?_, by simp⟩
    rw [hid]
    exact ⟨⟨Nat.le_add_right _ _, Nat.add_lt_add_left hi' _⟩, by simp⟩

lemma get?_of_mem (h : doc.Sound) {node : Node} (hn : node ∈ doc.nodes.toList) :
    doc.get? node.id = some node := h.get?_eq_some_iff.mpr ⟨hn, rfl⟩

/-- Two nodes with the same identifier are the same. -/
lemma eq_of_id_eq (h : doc.Sound) {node other : Node} (hn : node ∈ doc.nodes.toList)
    (ho : other ∈ doc.nodes.toList) (he : node.id = other.id) : node = other := by
  have h₁ := h.get?_of_mem hn
  rw [he, h.get?_of_mem ho] at h₁
  exact (Option.some.inj h₁).symm

lemma has_of_mem (h : doc.Sound) {node : Node} (hn : node ∈ doc.nodes.toList) :
    doc.Has node.id := by
  obtain ⟨i, hi, -⟩ := Option.bind_eq_some_iff.mp (h.get?_of_mem hn)
  exact (index?_eq_some_iff.mp hi).1

lemma exists_of_has (h : doc.Sound) {id : NodeId} (hid : doc.Has id) :
    ∃ node ∈ doc.nodes.toList, node.id = id := by
  obtain ⟨hlt, he⟩ := h.getElem_of_index? (index?_eq_some_iff.mpr ⟨hid, rfl⟩)
  exact ⟨_, by simp, he⟩

lemma get?_eq_none_iff (h : doc.Sound) {id : NodeId} : doc.get? id = none ↔ ¬doc.Has id := by
  constructor
  · intro hn hid
    obtain ⟨node, hmem, rfl⟩ := h.exists_of_has hid
    rw [h.get?_of_mem hmem] at hn
    simp at hn
  · intro hid
    rw [Option.eq_none_iff_forall_ne_some]
    intro node hn
    obtain ⟨hmem, rfl⟩ := h.get?_eq_some_iff.mp hn
    exact hid (h.has_of_mem hmem)

lemma nodup_ids (h : doc.Sound) : (doc.outline.map Node.id).Nodup := by
  rw [h.numbered]
  refine List.nodup_range.map fun i j hij => ?_
  simpa using hij

lemma nodup_map_id (h : doc.Sound) : (doc.nodes.toList.map Node.id).Nodup := by
  simpa [outline, Function.comp_def] using h.nodup_ids

lemma nodup_nodes (h : doc.Sound) : doc.nodes.toList.Nodup := h.nodup_map_id.of_map

/-! ## Parents and children -/

lemma placed_of_mem (h : doc.Sound) {node : Node} (hn : node ∈ doc.nodes.toList) :
    node.Placed doc.root :=
  h.placed node.bare (List.mem_map_of_mem hn)

/-- A parent comes before its children. -/
lemma parent_lt (h : doc.Sound) {node : Node} (hn : node ∈ doc.nodes.toList) {parent : NodeId}
    (hp : node.parent = some parent) :
    doc.root.value ≤ parent.value ∧ parent.value < node.id.value := by
  rcases h.placed_of_mem hn with ⟨-, hnone⟩ | ⟨p, slot, hp', -, h₁, h₂⟩
  · simp [hnone] at hp
  · obtain rfl : p = parent := by simpa [hp'] using hp
    exact ⟨h₁, h₂⟩

lemma has_parent (h : doc.Sound) {node : Node} (hn : node ∈ doc.nodes.toList) {parent : NodeId}
    (hp : node.parent = some parent) : doc.Has parent := by
  obtain ⟨h₁, h₂⟩ := h.parent_lt hn hp
  exact ⟨h₁, Nat.lt_trans h₂ (h.has_of_mem hn).2⟩

lemma parent_rootNode (h : doc.Sound) : doc.rootNode.parent = none := by
  rcases h.placed_of_mem doc.rootNode_mem with ⟨-, hparent⟩ | ⟨parent, slot, -, -, hle, hlt⟩
  · exact hparent
  · exact absurd hlt (Nat.not_lt.mpr hle)

lemma offspring_outline (doc : Document) (id : NodeId) :
    offspring doc.outline id =
      (doc.nodes.toList.filter fun node => node.parent = some id).map Node.id := by
  simp only [offspring, outline, List.filter_map, List.map_map]
  rfl

/-- A node lists another as its child if and only if it is the parent of the other. -/
lemma mem_children_iff (h : doc.Sound) {owner : Node} (ho : owner ∈ doc.nodes.toList)
    {child : NodeId} : child ∈ owner.children ↔
      ∃ node ∈ doc.nodes.toList, node.parent = some owner.id ∧ node.id = child := by
  rw [h.listed owner ho, offspring_outline]
  simp [and_assoc]

lemma nodup_children (h : doc.Sound) {owner : Node} (ho : owner ∈ doc.nodes.toList) :
    owner.children.Nodup := by
  rw [h.listed owner ho]
  exact h.nodup_ids.sublist (List.filter_sublist.map _)

/-- The children of a node are the nodes with this parent, in the order in which they were made. -/
lemma childrenOf_eq (h : doc.Sound) (id : NodeId) :
    doc.childrenOf id = doc.nodes.toList.filter fun node => node.parent = some id := by
  have hkept : ∀ nodes : List Node, (∀ node ∈ nodes, node ∈ doc.nodes.toList) →
      (nodes.map Node.id).filterMap doc.get? = nodes := by
    intro nodes hsub
    rw [List.filterMap_map]
    calc nodes.filterMap (doc.get? ∘ Node.id) = nodes.filterMap some :=
          List.filterMap_congr fun node hn => h.get?_of_mem (hsub node hn)
      _ = nodes := List.filterMap_some
  unfold childrenOf
  cases hg : doc.get? id with
  | some node =>
    obtain ⟨hn, rfl⟩ := h.get?_eq_some_iff.mp hg
    change node.children.filterMap doc.get? = _
    rw [h.listed node hn, offspring_outline]
    exact hkept _ fun node hmem => List.mem_of_mem_filter hmem
  | none =>
    symm
    rw [List.filter_eq_nil_iff]
    intro node hn hp
    exact h.get?_eq_none_iff.mp hg (h.has_parent hn (by simpa using hp))

lemma mem_childrenOf_iff (h : doc.Sound) {id : NodeId} {node : Node} :
    node ∈ doc.childrenOf id ↔ node ∈ doc.nodes.toList ∧ node.parent = some id := by
  rw [h.childrenOf_eq, List.mem_filter, decide_eq_true_eq]

lemma mem_childrenIn_iff (h : doc.Sound) {id : NodeId} {slot : Slot} {node : Node} :
    node ∈ doc.childrenIn id slot ↔
      node ∈ doc.nodes.toList ∧ node.parent = some id ∧ node.slot = some slot := by
  simp only [childrenIn, h.childrenOf_eq, List.mem_filter, decide_eq_true_eq, beq_iff_eq, and_assoc]

end Sound

end Document

end JavaUml
