/-
# Changes to a document

The operations on documents keep the tree sound.  Those that change a node in its place
(`Sound.modify`, `Sound.of_map`) touch neither identifiers nor parents nor children.  Adding a node
lengthens the outline by one node with the next number, and it fails if the parent is unknown or if
no number is left, and in no other case (`attach_of_not_has`, `Sound.attach_of_full`,
`Sound.attach_of_room`).
-/
import JavaUml.Document.Resolve
import JavaUml.Proofs.Document.Tree
import Mathlib.Data.List.Basic

namespace JavaUml

/-! ## Nodes that change in their place -/

/-- A node after a change has the place and the children from before, and declares at least the
collections from before. -/
structure Node.Keeps (node after : Node) : Prop where
  id : after.id = node.id
  parent : after.parent = node.parent
  slot : after.slot = node.slot
  children : after.children = node.children
  slots : node.slots ⊆ after.slots
  nodup : node.slots.Nodup → after.slots.Nodup

namespace Node

lemma Keeps.refl (node : Node) : node.Keeps node :=
  ⟨rfl, rfl, rfl, rfl, List.Subset.refl _, fun hnd => hnd⟩

lemma keeps_setField (key : String) (value : Value) (node : Node) :
    node.Keeps (node.setField key value) :=
  ⟨rfl, rfl, rfl, rfl, List.Subset.refl _, fun hnd => hnd⟩

lemma keeps_resolve (table : NameTable) (node : Node) : node.Keeps (node.resolve table) :=
  ⟨rfl, rfl, rfl, rfl, List.Subset.refl _, fun hnd => hnd⟩

lemma mem_slots_declareSlot (node : Node) (slot : Slot) : slot ∈ (node.declareSlot slot).slots := by
  unfold declareSlot
  split
  · assumption
  · simp

lemma keeps_declareSlot (node : Node) (slot : Slot) : node.Keeps (node.declareSlot slot) := by
  unfold declareSlot
  split
  · exact .refl node
  · next hnot =>
    refine ⟨rfl, rfl, rfl, rfl, List.subset_append_left _ _, fun hnd => ?_⟩
    rw [List.nodup_append]
    refine ⟨hnd, List.nodup_singleton slot, fun s hs t ht hst => hnot ?_⟩
    rwa [← List.mem_singleton.mp ht, ← hst]

@[simp] lemma adopt_bare (node : Node) (slot : Slot) (child : NodeId) :
    (node.adopt slot child).bare = node.bare := by
  unfold adopt declareSlot
  split <;> rfl

@[simp] lemma adopt_id (node : Node) (slot : Slot) (child : NodeId) :
    (node.adopt slot child).id = node.id := (keeps_declareSlot node slot).id

lemma adopt_children (node : Node) (slot : Slot) (child : NodeId) :
    (node.adopt slot child).children = node.children ++ [child] := by
  simp [adopt, (keeps_declareSlot node slot).children]

end Node

/-- In a list of nodes with different identifiers, changing the node at an index is changing the
node with its identifier. -/
lemma modify_eq_map {nodes : List Node} (hnd : (nodes.map Node.id).Nodup) {i : ℕ}
    (hi : i < nodes.length) (f : Node → Node) :
    nodes.modify i f = nodes.map fun node => if node.id = nodes[i].id then f node else node := by
  refine List.ext_getElem (by simp) fun j hj _ => ?_
  have hj' : j < nodes.length := by simpa using hj
  have hij : nodes[j].id = nodes[i].id ↔ i = j := by
    have hj'' : j < (nodes.map Node.id).length := by simpa using hj'
    have hi' : i < (nodes.map Node.id).length := by simpa using hi
    have hinj : (nodes.map Node.id)[j] = (nodes.map Node.id)[i] ↔ j = i := hnd.getElem_inj_iff
    rw [eq_comm (a := i)]
    simpa using hinj
  rw [List.getElem_modify, List.getElem_map]
  simp only [hij]

namespace Document

variable {doc doc' : Document}

namespace Sound

/-- A change of nodes in their places keeps a document sound. -/
lemma of_map (h : doc.Sound) {g : Node → Node} (hg : ∀ node : Node, node.Keeps (g node))
    (hn : doc'.nodes.toList = doc.nodes.toList.map g) (hi : doc'.ids = doc.ids) : doc'.Sound := by
  have hids : doc'.outline.map Node.id = doc.outline.map Node.id := by
    simp [outline, hn, Function.comp_def, (hg _).id]
  have hsize : doc'.size = doc.size := by simp [size, ← Array.length_toList, hn]
  have hroot : doc'.root = doc.root := by
    have h₁ := congrArg List.head? hids
    rw [List.head?_map, List.head?_map, head?_outline, head?_outline] at h₁
    exact Option.some.inj h₁
  have hnext : doc'.next = doc.next := by simp [next, hroot, hsize]
  have hoff : ∀ id, offspring doc'.outline id = offspring doc.outline id := by
    intro id
    simp only [offspring_outline, hn, List.filter_map, List.map_map, Function.comp_def,
      (hg _).id, (hg _).parent]
  -- every node afterwards was there before, in the same place of the tree
  have hback : ∀ child ∈ doc'.outline, ∃ old ∈ doc.outline,
      child.id = old.id ∧ child.parent = old.parent ∧ child.slot = old.slot := by
    intro child hc
    simp only [outline, hn, List.mem_map, exists_exists_and_eq_and] at hc ⊢
    obtain ⟨node, hnode, rfl⟩ := hc
    exact ⟨node, hnode, (hg node).id, (hg node).parent, (hg node).slot⟩
  refine ⟨by rw [hi, hnext]; exact h.allocated, by rw [hnext]; exact h.bounded,
    by rw [hids, hsize, hroot]; exact h.numbered, ?_, ?_, ?_, ?_⟩
  · intro child hc
    obtain ⟨old, hold, h₁, h₂, h₃⟩ := hback child hc
    have hp := h.placed old hold
    rwa [Node.Placed, ← h₁, ← h₂, ← h₃, ← hroot] at hp
  · intro node hmem
    rw [hn] at hmem
    obtain ⟨old, hold, rfl⟩ := List.mem_map.mp hmem
    rw [hoff, (hg old).children, (hg old).id, h.listed old hold]
  · intro node hmem
    rw [hn] at hmem
    obtain ⟨old, hold, rfl⟩ := List.mem_map.mp hmem
    exact (hg old).nodup (h.nodup_slots old hold)
  · intro node hmem child hc hparent
    rw [hn] at hmem
    obtain ⟨old, hold, rfl⟩ := List.mem_map.mp hmem
    obtain ⟨was, hwas, -, h₂, h₃⟩ := hback child hc
    rw [h₂, (hg old).id] at hparent
    obtain ⟨slot, hslot, hs⟩ := h.declared old hold was hwas hparent
    exact ⟨slot, (hg old).slots hslot, h₃.trans hs⟩

lemma toList_modifyAt (h : doc.Sound) {id : NodeId} {i : ℕ} (hi : doc.index? id = some i)
    (f : Node → Node) : (doc.modifyAt i f).nodes.toList =
      doc.nodes.toList.map fun node => if node.id = id then f node else node := by
  obtain ⟨hlt, rfl⟩ := h.getElem_of_index? hi
  have hnd : (doc.nodes.toList.map Node.id).Nodup := by
    simpa [outline, Function.comp_def] using h.nodup_ids
  exact Array.toList_modify.trans (modify_eq_map hnd (by simpa using hlt) f)

lemma modifyAt (h : doc.Sound) {id : NodeId} {i : ℕ} (hi : doc.index? id = some i)
    {f : Node → Node} (hf : ∀ node : Node, node.Keeps (f node)) : (doc.modifyAt i f).Sound := by
  refine h.of_map (g := fun node => if node.id = id then f node else node) (fun node => ?_)
    (h.toList_modifyAt hi f) rfl
  split
  · exact hf node
  · exact .refl node

end Sound

/-- Changing a node fails if it is not there, and in no other case. -/
lemma modify_eq (doc : Document) (id : NodeId) (f : Node → Node) :
    (¬doc.Has id ∧ doc.modify id f = .error (.unknownNode id)) ∨
      (doc.Has id ∧ ∃ i, doc.index? id = some i ∧ doc.modify id f = .ok (doc.modifyAt i f)) := by
  unfold modify
  cases hi : doc.index? id with
  | none => exact .inl ⟨index?_eq_none_iff.mp hi, rfl⟩
  | some i => exact .inr ⟨(index?_eq_some_iff.mp hi).1, i, rfl, rfl⟩

/-! ## New documents -/

lemma sound_new {ids : IdAllocator} {kind : NodeKind} {name : String}
    (h : Document.new ids kind name = .ok doc) : doc.Sound := by
  unfold Document.new IdAllocator.next? at h
  split at h
  · next id ids' hids =>
    cases h
    split at hids
    · next hroom =>
      cases hids
      refine ⟨?_, ?_, ?_, ?_, ?_, ?_, ?_⟩ <;>
        simp [outline, root, rootNode, size, next, Node.Placed, offspring]
      · omega
      · omega
    · cases hids
  · cases h

/-! ## Documents that grow -/

/-- A document has become another by adding nodes, of which the list gives the bare forms. -/
structure Grows (doc doc' : Document) (nodes : List Node) : Prop where
  sound : doc'.Sound
  outline : doc'.outline = doc.outline ++ nodes
  seed : doc'.ids.seed = doc.ids.seed

namespace Grows

variable {doc'' : Document} {nodes more : List Node}

lemma refl (h : doc.Sound) : doc.Grows doc [] := ⟨h, by simp, rfl⟩

lemma trans (g : doc.Grows doc' nodes) (g' : doc'.Grows doc'' more) :
    doc.Grows doc'' (nodes ++ more) :=
  ⟨g'.sound, by rw [g'.outline, g.outline, List.append_assoc], g'.seed.trans g.seed⟩

lemma root (g : doc.Grows doc' nodes) : doc'.root = doc.root := root_eq_of_outline g.outline

lemma size (g : doc.Grows doc' nodes) : doc'.size = doc.size + nodes.length := by
  rw [← length_outline, g.outline, List.length_append, length_outline]

lemma next (g : doc.Grows doc' nodes) : doc'.next = doc.next + nodes.length := by
  rw [Document.next, g.root, g.size, Document.next, Nat.add_assoc]

lemma has (g : doc.Grows doc' nodes) {id : NodeId} (h : doc.Has id) : doc'.Has id := by
  refine ⟨g.root ▸ h.1, ?_⟩
  rw [g.next]
  exact Nat.lt_add_right _ h.2

/-- The nodes that were added are in the document that has grown. -/
lemma has_new (g : doc.Grows doc' nodes) {i : ℕ} (hi : i < nodes.length) :
    doc'.Has ⟨doc.next + i⟩ := by
  refine ⟨?_, by rw [g.next]; exact Nat.add_lt_add_left hi _⟩
  rw [g.root]
  exact Nat.le_trans (Nat.le_add_right _ _) (Nat.le_add_right _ _)

end Grows

/-- A collection that is declared does not show in the outline. -/
lemma Sound.grows_declareSlot (h : doc.Sound) {id : NodeId} (hid : doc.Has id) (slot : Slot) :
    ∃ doc', doc.declareSlot id slot = .ok doc' ∧ doc.Grows doc' [] := by
  rcases doc.modify_eq id (Node.declareSlot slot) with ⟨hnot, -⟩ | ⟨-, i, hi, he⟩
  · exact absurd hid hnot
  · refine ⟨_, he, h.modifyAt hi fun node => node.keeps_declareSlot slot, ?_, rfl⟩
    rw [outline, h.toList_modifyAt hi, List.map_map, List.append_nil, outline]
    refine List.map_congr_left fun node _ => ?_
    simp only [Function.comp_apply]
    split
    · unfold Node.declareSlot
      split <;> rfl
    · rfl

/-! ## Adding a node -/

lemma attach_of_not_has {parent : NodeId} (hp : ¬doc.Has parent) (slot : Slot)
    (draft : NodeDraft) : doc.attach parent slot draft = .error (.unknownNode parent) := by
  simp [attach, index?_eq_none_iff.mpr hp]

namespace Sound

lemma next?_of_full (h : doc.Sound) (hf : UInt64.size ≤ doc.next) : doc.ids.next? = none := by
  rw [IdAllocator.next?, h.allocated, if_neg (by omega)]

lemma next?_of_room (h : doc.Sound) (hr : doc.next < UInt64.size) :
    doc.ids.next? = some (⟨doc.next⟩, { doc.ids with used := doc.ids.used + 1 }) := by
  rw [IdAllocator.next?, h.allocated, if_pos hr]

lemma attach_of_full (h : doc.Sound) {parent : NodeId} (hp : doc.Has parent)
    (hf : UInt64.size ≤ doc.next) (slot : Slot) (draft : NodeDraft) :
    doc.attach parent slot draft = .error (.idsExhausted doc.ids.seed) := by
  obtain ⟨i, hi⟩ : ∃ i, doc.index? parent = some i := ⟨_, index?_eq_some_iff.mpr ⟨hp, rfl⟩⟩
  simp [attach, hi, h.next?_of_full hf]

/-- The nodes after a node was added at the end, and taken over by its parent. -/
lemma toList_push_modifyAt (h : doc.Sound) {parent : NodeId} {i : ℕ}
    (hi : doc.index? parent = some i) (ids : IdAllocator) {node : Node}
    (hid : node.id = ⟨doc.next⟩) (f : Node → Node) :
    ((doc.push ids node).modifyAt i f).nodes.toList =
      (doc.nodes.toList.map fun old => if old.id = parent then f old else old) ++ [node] := by
  obtain ⟨hlt, rfl⟩ := h.getElem_of_index? hi
  -- the new number is beyond all that are in use
  have hnew : ∀ old ∈ doc.nodes.toList, old.id ≠ node.id := by
    intro old hold he
    have := (h.has_of_mem hold).2
    rw [he, hid] at this
    exact Nat.lt_irrefl _ this
  have hnd : ((doc.nodes.toList ++ [node]).map Node.id).Nodup := by
    rw [List.map_append, List.nodup_append]
    refine ⟨by simpa [outline, Function.comp_def] using h.nodup_ids, by simp, ?_⟩
    simpa using hnew
  have hi' : i < (doc.nodes.toList ++ [node]).length := by
    simpa using Nat.lt_succ_of_lt hlt
  have he : (doc.nodes.toList ++ [node])[i].id = doc.nodes[i].id := by
    rw [List.getElem_append_left (by simpa using hlt), Array.getElem_toList]
  have hm := modify_eq_map hnd hi' f
  rw [he, List.map_append, List.map_singleton,
    if_neg (Ne.symm (hnew doc.nodes[i] (by simp)))] at hm
  simpa [Document.modifyAt, Document.push] using hm

/-- Every node has its number, so that no number is a parent before it is a node. -/
lemma offspring_of_next_le (h : doc.Sound) {id : NodeId} (hid : doc.next ≤ id.value) :
    offspring doc.outline id = [] := by
  rw [offspring_outline, List.map_eq_nil_iff, List.filter_eq_nil_iff]
  intro node hn hp
  have hlt := (h.has_parent hn (by simpa using hp)).2
  omega

/-- A document in which a new node stands at the end, and in which its parent has taken it over,
has grown by this node. -/
lemma grows_of_adopt (h : doc.Sound) {parent : NodeId} (slot : Slot) {node : Node}
    (hp : doc.Has parent) (hr : doc.next < UInt64.size) (hid : node.id = ⟨doc.next⟩)
    (hparent : node.parent = some parent) (hslot : node.slot = some slot)
    (hchildren : node.children = []) (hd : node.slots.Nodup)
    (hlist : doc'.nodes.toList = (doc.nodes.toList.map fun old =>
      if old.id = parent then old.adopt slot node.id else old) ++ [node])
    (hids : doc'.ids = { doc.ids with used := doc.ids.used + 1 }) :
    doc.Grows doc' [node.bare] := by
  have hout : doc'.outline = doc.outline ++ [node.bare] := by
    rw [outline, hlist, List.map_append, List.map_map, outline]
    congr 1
    refine List.map_congr_left fun old _ => ?_
    simp only [Function.comp_apply]
    split
    · exact old.adopt_bare slot _
    · rfl
  have hroot : doc'.root = doc.root := root_eq_of_outline hout
  have hsize : doc'.size = doc.size + 1 := by
    rw [← length_outline, hout, List.length_append, length_outline, List.length_singleton]
  have hnext : doc'.next = doc.next + 1 := by
    rw [Document.next, hroot, hsize, Document.next, Nat.add_assoc]
  have hne : parent ≠ node.id := by
    rintro rfl
    rw [hid] at hp
    exact Nat.lt_irrefl _ hp.2
  refine ⟨⟨?_, ?_, ?_, ?_, ?_, ?_, ?_⟩, hout, by rw [hids]⟩
  -- the identifiers
  · rw [hnext, hids, ← h.allocated]
    rfl
  · rw [hnext]
    exact hr
  · rw [hout, hsize, hroot, List.map_append, h.numbered, List.range_succ, List.map_append]
    simp [hid, next]
  -- the places: the parent of the new node was there before it
  · intro child hc
    rw [hroot]
    rw [hout, List.mem_append, List.mem_singleton] at hc
    rcases hc with hc | rfl
    · exact h.placed child hc
    · refine .inr ⟨parent, slot, hparent, hslot, hp.1, ?_⟩
      rw [Node.bare_id, hid]
      exact hp.2
  -- the children: the parent has one more, which is its last one
  · intro owner ho
    rw [hout, offspring_append, offspring_singleton, Node.bare_parent, hparent, Node.bare_id]
    rw [hlist, List.mem_append, List.mem_singleton, List.mem_map] at ho
    rcases ho with ⟨old, hold, rfl⟩ | rfl
    · by_cases he : old.id = parent
      · subst he
        rw [if_pos rfl, Node.adopt_children, h.listed old hold, Node.adopt_id, if_pos rfl]
      · have hne' : some parent ≠ some old.id := fun hs => he (Option.some.inj hs).symm
        rw [if_neg he, h.listed old hold, if_neg hne', List.append_nil]
    · rw [hchildren, h.offspring_of_next_le (by simp [hid]),
        if_neg fun hs => hne (Option.some.inj hs), List.nil_append]
  -- the collections
  · intro owner ho
    rw [hlist, List.mem_append, List.mem_singleton, List.mem_map] at ho
    rcases ho with ⟨old, hold, rfl⟩ | rfl
    · split
      · exact (old.keeps_declareSlot slot).nodup (h.nodup_slots old hold)
      · exact h.nodup_slots old hold
    · exact hd
  · intro owner ho child hc howner
    rw [hlist, List.mem_append, List.mem_singleton, List.mem_map] at ho
    rw [hout, List.mem_append, List.mem_singleton] at hc
    rcases ho with ⟨old, hold, rfl⟩ | rfl
    · rcases hc with hc | rfl
      · -- an old child of an old node, which has lost no collection
        have hold' : child.parent = some old.id := by
          rw [howner]
          split <;> simp
        obtain ⟨s, hs, he⟩ := h.declared old hold child hc hold'
        refine ⟨s, ?_, he⟩
        split
        · exact (old.keeps_declareSlot slot).slots hs
        · exact hs
      · -- the new node below its parent
        have he : old.id = parent := by
          rw [Node.bare_parent, hparent, Option.some.injEq] at howner
          rw [howner]
          split <;> simp
        rw [if_pos he]
        exact ⟨slot, old.mem_slots_declareSlot slot, hslot⟩
    · rcases hc with hc | rfl
      · -- the new node has no children yet
        obtain ⟨old, hold, rfl⟩ := List.mem_map.mp hc
        have hlt := (h.has_parent hold howner).2
        rw [hid] at hlt
        exact absurd hlt (Nat.lt_irrefl _)
      · rw [Node.bare_parent, hparent, Option.some.injEq] at howner
        exact absurd howner hne

/-- A node that is added gets the next number and stands at the end of the outline. -/
lemma attach_of_room (h : doc.Sound) {parent : NodeId} (hp : doc.Has parent)
    (hr : doc.next < UInt64.size) (slot : Slot) (draft : NodeDraft) (hd : draft.slots.Nodup) :
    ∃ doc', doc.attach parent slot draft = .ok (⟨doc.next⟩, doc') ∧
      doc.Grows doc' [draft.node ⟨doc.next⟩ parent slot] := by
  obtain ⟨i, hi⟩ : ∃ i, doc.index? parent = some i := ⟨_, index?_eq_some_iff.mpr ⟨hp, rfl⟩⟩
  refine ⟨_, by rw [attach, hi, h.next?_of_room hr], ?_⟩
  exact h.grows_of_adopt slot hp hr rfl rfl rfl rfl hd
    (h.toList_push_modifyAt hi _ rfl _) rfl

end Sound

end Document

end JavaUml
