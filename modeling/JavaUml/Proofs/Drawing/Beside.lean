/-
# Drawing beside other nodes

A diagram is drawn below one new node, so that of the nodes that were there before only the root
changes: it has one more child.  If the same is drawn in two documents, then what is new in the one
is what is new in the other, with identifiers that are shifted by the difference in the number of
nodes that were there before (`Document.Beside`).  Every step that attaches below a new node keeps
it so (`Agree.attach_beside`).
-/
import JavaUml.Proofs.Drawing.Move

namespace JavaUml

/-! ## Shifted identifiers -/

/-- The identifier that takes the place of one from a number on, if what is new begins at another
number.  Those before it stay. -/
def NodeId.shifted (start start' : ℕ) (id : NodeId) : NodeId :=
  if id.value < start then id else ⟨start' + (id.value - start)⟩

/-- The identifier that is smaller by a number. -/
def NodeId.lowered (k : ℕ) (id : NodeId) : NodeId := ⟨id.value - k⟩

section Shifted

variable {start start' : ℕ}

/-- If what is new begins earlier, then its identifiers are smaller by the difference. -/
lemma NodeId.shifted_eq_lowered {k : ℕ} (hk : start = start' + k) {id : NodeId}
    (h : start ≤ id.value) : id.shifted start start' = id.lowered k := by
  rw [shifted, if_neg (Nat.not_lt.mpr h), lowered]
  congr 1
  omega

lemma NodeId.shifted_of_lt {id : NodeId} (h : id.value < start) : id.shifted start start' = id :=
  if_pos h

lemma NodeId.shifted_add (n : ℕ) :
    NodeId.shifted start start' ⟨start + n⟩ = ⟨start' + n⟩ := by
  rw [shifted, if_neg (Nat.not_lt.mpr (Nat.le_add_right _ _)), Nat.add_sub_cancel_left]

lemma NodeId.le_shifted {id : NodeId} (h : start ≤ id.value) :
    start' ≤ (id.shifted start start').value := by
  rw [shifted, if_neg (Nat.not_lt.mpr h)]
  exact Nat.le_add_right _ _

/-- From the number on, different identifiers remain different. -/
lemma NodeId.shifted_inj {id other : NodeId} (h : start ≤ id.value) (ho : start ≤ other.value) :
    id.shifted start start' = other.shifted start start' ↔ id = other := by
  rw [shifted, shifted, if_neg (Nat.not_lt.mpr h), if_neg (Nat.not_lt.mpr ho), NodeId.mk.injEq,
    Nat.add_left_cancel_iff]
  constructor
  · intro he
    have hvalue : id.value = other.value := by omega
    cases id
    cases other
    exact congrArg NodeId.mk hvalue
  · rintro rfl
    rfl

end Shifted

lemma Node.relabel_adopt (f : NodeId → NodeId) (slot : Slot) (child : NodeId) (node : Node) :
    (node.adopt slot child).relabel f = (node.relabel f).adopt slot (f child) := by
  unfold adopt declareSlot
  by_cases h : slot ∈ node.slots
  · rw [if_pos h, if_pos (show slot ∈ (node.relabel f).slots from h)]
    simp [relabel]
  · rw [if_neg h, if_neg (show slot ∉ (node.relabel f).slots from h)]
    simp [relabel]

lemma Node.relabel_declareSlot (f : NodeId → NodeId) (slot : Slot) (node : Node) :
    (node.declareSlot slot).relabel f = (node.relabel f).declareSlot slot := by
  unfold declareSlot
  by_cases h : slot ∈ node.slots
  · rw [if_pos h, if_pos (show slot ∈ (node.relabel f).slots from h)]
  · rw [if_neg h, if_neg (show slot ∉ (node.relabel f).slots from h)]
    rfl

/-! ## One document -/

namespace Document

variable {doc after : Document}

namespace Sound

/-- Nodes that stand before others have smaller numbers than these. -/
lemma bounds_of_append (h : doc.Sound) {base new : List Node}
    (hn : doc.nodes.toList = base ++ new) :
    (∀ node ∈ base, node.id.value < doc.root.value + base.length) ∧
      ∀ node ∈ new, doc.root.value + base.length ≤ node.id.value := by
  have hid : ∀ (i : ℕ) (hi : i < (base ++ new).length),
      (base ++ new)[i].id = ⟨doc.root.value + i⟩ := by
    intro i hi
    have hi' : i < doc.nodes.size := by rwa [← hn] at hi
    have hnumber := h.id_getElem hi'
    simpa [← hn] using hnumber
  constructor
  · intro node hnode
    obtain ⟨i, hi, rfl⟩ := List.getElem_of_mem hnode
    have hnumber := hid i (by rw [List.length_append]; omega)
    rw [List.getElem_append_left hi] at hnumber
    rw [hnumber]
    exact Nat.add_lt_add_left hi _
  · intro node hnode
    obtain ⟨i, hi, rfl⟩ := List.getElem_of_mem hnode
    have hnumber := hid (base.length + i) (by rw [List.length_append]; omega)
    rw [List.getElem_append_right (Nat.le_add_right _ _)] at hnumber
    simp only [Nat.add_sub_cancel_left] at hnumber
    rw [hnumber]
    exact Nat.add_le_add_left (Nat.le_add_right _ _) _

/-- The nodes after a node was attached. -/
lemma nodes_of_attach (h : doc.Sound) {parent id : NodeId} {slot : Slot} {draft : NodeDraft}
    (hd : draft.slots.Nodup) (hattach : doc.attach parent slot draft = .ok (id, after)) :
    id = ⟨doc.next⟩ ∧ doc.Grows after [draft.node ⟨doc.next⟩ parent slot] ∧
      after.nodes.toList =
        (doc.nodes.toList.map fun old =>
          if old.id = parent then old.adopt slot ⟨doc.next⟩ else old) ++
        [{ draft.node ⟨doc.next⟩ parent slot with slots := draft.slots }] := by
  obtain ⟨i, hi, hid, hafter⟩ := exists_of_attach hattach
  have hp : doc.Has parent := (index?_eq_some_iff.mp hi).1
  have hnext : id = ⟨doc.next⟩ := hid.trans (congrArg NodeId.mk h.allocated)
  subst hnext
  refine ⟨rfl, ?_, ?_⟩
  · rcases Nat.lt_or_ge doc.next UInt64.size with hr | hf
    · obtain ⟨doc', he, hg⟩ := h.attach_of_room hp hr slot draft hd
      rw [he] at hattach
      cases hattach
      exact hg
    · rw [h.attach_of_full hp hf slot draft] at hattach
      cases hattach
  · rw [hafter]
    exact h.toList_push_modifyAt hi _ rfl _

end Sound

/-- The nodes of a document after its root has got one more child. -/
def hosting (doc : Document) : List Node :=
  doc.nodes.toList.map fun node =>
    if node.id = doc.root then node.adopt .ownedElements ⟨doc.next⟩ else node

/-- The other nodes remain as they are. -/
lemma mem_hosting {node : Node} (hn : node ∈ doc.nodes.toList) (hid : node.id ≠ doc.root) :
    node ∈ doc.hosting :=
  List.mem_map.mpr ⟨node, hn, if_neg hid⟩

lemma length_hosting (doc : Document) : doc.root.value + doc.hosting.length = doc.next := by
  simp [hosting, next, size]

end Document

/-! ## Two documents -/

/-- Two documents have the same new nodes, with identifiers that are shifted, behind those that were
there before. -/
structure Document.Beside (base base' : List Node) (start start' : ℕ) (doc doc' : Document) :
    Prop where
  sound : doc.Sound
  sound' : doc'.Sound
  length : doc.root.value + base.length = start
  length' : doc'.root.value + base'.length = start'
  new : ∃ new, doc.nodes.toList = base ++ new ∧
    doc'.nodes.toList = base' ++ new.map (Node.relabel (NodeId.shifted start start'))

namespace Document.Beside

variable {base base' : List Node} {start start' : ℕ} {doc doc' after after' : Document}

/-- The next numbers belong together. -/
lemma next_shifted (h : Beside base base' start start' doc doc') :
    start ≤ doc.next ∧ (⟨doc'.next⟩ : NodeId) = NodeId.shifted start start' ⟨doc.next⟩ := by
  obtain ⟨new, hnew, hnew'⟩ := h.new
  have hnext : doc.next = start + new.length := by
    have hsize : doc.size = base.length + new.length := by
      rw [Document.size, ← Array.length_toList, hnew, List.length_append]
    rw [Document.next, hsize, ← h.length, Nat.add_assoc]
  have hnext' : doc'.next = start' + new.length := by
    have hsize : doc'.size = base'.length + new.length := by
      rw [Document.size, ← Array.length_toList, hnew', List.length_append, List.length_map]
    rw [Document.next, hsize, ← h.length', Nat.add_assoc]
  rw [hnext, hnext', NodeId.shifted_add]
  exact ⟨Nat.le_add_right _ _, rfl⟩

/-- A change of a new node and of the one that belongs to it. -/
lemma map_change (h : Beside base base' start start' doc doc') {id : NodeId}
    (hid : start ≤ id.value) {f g : Node → Node}
    (hf : ∀ node : Node, g (node.relabel (NodeId.shifted start start')) =
      (f node).relabel (NodeId.shifted start start')) :
    ∃ new, (doc.nodes.toList.map fun node => if node.id = id then f node else node) = base ++ new ∧
      (doc'.nodes.toList.map fun node =>
        if node.id = id.shifted start start' then g node else node) =
        base' ++ new.map (Node.relabel (NodeId.shifted start start')) := by
  obtain ⟨new, hnew, hnew'⟩ := h.new
  obtain ⟨hbase, hbounds⟩ := h.sound.bounds_of_append hnew
  obtain ⟨hbase', -⟩ := h.sound'.bounds_of_append hnew'
  rw [h.length] at hbase hbounds
  rw [h.length'] at hbase'
  -- the nodes that were there before have smaller numbers
  have hkept : ∀ {nodes : List Node} {n : ℕ} {other : NodeId} {k : Node → Node},
      (∀ node ∈ nodes, node.id.value < n) → n ≤ other.value →
      (nodes.map fun node => if node.id = other then k node else node) = nodes := by
    intro nodes n other g hlt hle
    refine (List.map_congr_left fun node hn => if_neg ?_).trans (List.map_id _)
    rintro rfl
    exact Nat.not_lt.mpr hle (hlt node hn)
  refine ⟨new.map fun node => if node.id = id then f node else node, ?_, ?_⟩
  · rw [hnew, List.map_append, hkept hbase hid]
  · rw [hnew', List.map_append, hkept hbase' (NodeId.le_shifted hid), List.map_map, List.map_map]
    congr 1
    refine List.map_congr_left fun node hn => ?_
    have hsame : (node.relabel (NodeId.shifted start start')).id = id.shifted start start' ↔
        node.id = id := NodeId.shifted_inj (hbounds node hn) hid
    simp only [Function.comp_apply, hsame]
    split
    · exact hf node
    · rfl

end Document.Beside

section Steps

variable {base base' : List Node} {start start' : ℕ}

open Document (Beside)

/-- Below a new node a further new node is attached. -/
lemma Agree.attach_beside {parent : NodeId} (hp : start ≤ parent.value) (slot : Slot)
    {draft : NodeDraft} (hd : draft.slots.Nodup) :
    Agree (Beside base base' start start')
      (fun id id' => id' = id.shifted start start' ∧ start ≤ id.value)
      (Drawing.attach parent slot draft)
      (Drawing.attach (parent.shifted start start') slot
        (draft.relabel (NodeId.shifted start start'))) := by
  intro doc doc' after after' id id' h hrun hrun'
  obtain ⟨rfl, hg, hnodes⟩ := h.sound.nodes_of_attach hd (Attempt.eq_ok_of_run_step hrun)
  have hd' : (draft.relabel (NodeId.shifted start start')).slots.Nodup := hd
  obtain ⟨rfl, hg', hnodes'⟩ := h.sound'.nodes_of_attach hd' (Attempt.eq_ok_of_run_step hrun')
  obtain ⟨hle, hnext⟩ := h.next_shifted
  obtain ⟨new, hnew, hnew'⟩ := h.map_change hp (f := Node.adopt slot ⟨doc.next⟩)
    (g := Node.adopt slot ⟨doc'.next⟩) fun node => by rw [Node.relabel_adopt, hnext]
  refine ⟨⟨hg.sound, hg'.sound, ?_, ?_, new ++
    [{ draft.node ⟨doc.next⟩ parent slot with slots := draft.slots }], ?_, ?_⟩, hnext, hle⟩
  · rw [hg.root, h.length]
  · rw [hg'.root, h.length']
  · rw [hnodes, hnew, List.append_assoc]
  · rw [hnodes', hnew', List.append_assoc, List.map_append, hnext]
    rfl

lemma Agree.declareSlot_beside {id : NodeId} (hid : start ≤ id.value) (slot : Slot) :
    Agree (Beside base base' start start') Eq (Drawing.declareSlot id slot)
      (Drawing.declareSlot (id.shifted start start') slot) := by
  intro doc doc' after after' a a' h hrun hrun'
  have hafter := Document.exists_of_declareSlot (Attempt.eq_ok_of_run_declareSlot hrun)
  have hafter' := Document.exists_of_declareSlot (Attempt.eq_ok_of_run_declareSlot hrun')
  obtain ⟨i, hi, rfl⟩ := hafter
  obtain ⟨i', hi', rfl⟩ := hafter'
  have hkeeps := fun node : Node => node.keeps_declareSlot slot
  refine ⟨⟨h.sound.modifyAt hi hkeeps, h.sound'.modifyAt hi' hkeeps, ?_, ?_, ?_⟩, rfl⟩
  · rw [Document.root_modifyAt i fun node => (hkeeps node).id, h.length]
  · rw [Document.root_modifyAt i' fun node => (hkeeps node).id, h.length']
  · rw [h.sound.toList_modifyAt hi, h.sound'.toList_modifyAt hi']
    exact h.map_change hid fun node => (Node.relabel_declareSlot _ slot node).symm

/-- The first node of a diagram is attached to the root, in two documents with the same root. -/
lemma Document.beside_of_attach_root {doc doc' after after' : Document} (h : doc.Sound)
    (h' : doc'.Sound) (hroot : doc'.root = doc.root) {draft : NodeDraft} (hd : draft.slots.Nodup)
    (hfields : ∀ field ∈ draft.fields, ∀ id, field.2 ≠ .reference id) {id id' : NodeId}
    (hattach : doc.attach doc.root .ownedElements draft = .ok (id, after))
    (hattach' : doc'.attach doc'.root .ownedElements draft = .ok (id', after')) :
    id = ⟨doc.next⟩ ∧ id' = id.shifted doc.next doc'.next ∧
      Beside doc.hosting doc'.hosting doc.next doc'.next after after' := by
  obtain ⟨rfl, hg, hnodes⟩ := h.nodes_of_attach hd hattach
  obtain ⟨rfl, hg', hnodes'⟩ := h'.nodes_of_attach hd hattach'
  have hnext : (⟨doc'.next⟩ : NodeId) = NodeId.shifted doc.next doc'.next ⟨doc.next⟩ :=
    (NodeId.shifted_add 0).symm
  refine ⟨rfl, hnext, hg.sound, hg'.sound, ?_, ?_, [_], hnodes, ?_⟩
  · rw [hg.root, doc.length_hosting]
  · rw [hg'.root, doc'.length_hosting]
  · have hparent : doc'.root = doc.root.shifted doc.next doc'.next := by
      rw [hroot, NodeId.shifted_of_lt doc.root_lt_next]
    rw [hnodes', Document.hosting, List.map_singleton,
      NodeDraft.node_eq_relabel hfields hnext hparent]
    rfl

end Steps

end JavaUml
