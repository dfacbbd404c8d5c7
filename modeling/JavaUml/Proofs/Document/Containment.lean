/-
# Which nodes are written

A collection for one child is written with the first child in it, so that a later one is cut off
with all that is below it (`Document.IsCut`).  All other nodes are written, each of them once: the
object of a child stands in the object of its parent, under the key of its collection, and an array
has the children in the order in which they were made.

This is shown along the tree.  The children that are written are those that are not surplus
(`Document.Sound.mem_shown_iff`).  So the objects of nodes in the object of a node are those of a
list of nodes that has this node, is closed under children that are written, and has no node twice
(`Document.Writes`), and these are the nodes to which no surplus node leads.

Nothing is assumed about fields here.  Their keys may be any texts, but the identifier of a node
comes before them and is the one that is found (`Document.ofMembers?_place`).
-/
import JavaUml.Proofs.Document.Reachable
import JavaUml.Proofs.Document.Records

namespace JavaUml

open Json (Members Place)

lemma Slot.isSingular_iff {slot : Slot} :
    slot.isSingular = true ↔ slot = .endOne ∨ slot = .endTwo := by
  cases slot <;> decide

namespace Document

variable {doc : Document}

/-- A second or later child of its parent in one of the two collections for one child. -/
def IsSurplus (doc : Document) (node : Node) : Prop :=
  (node.slot = some .endOne ∨ node.slot = some .endTwo) ∧
    ∃ other ∈ doc.nodes.toList, other.parent = node.parent ∧ other.slot = node.slot ∧
      other.id.value < node.id.value

instance (doc : Document) (node : Node) : Decidable (doc.IsSurplus node) :=
  inferInstanceAs (Decidable (_ ∧ _))

/-- A node that is surplus, or below one that is. -/
def IsCut (doc : Document) (node : Node) : Prop :=
  ∃ above ∈ doc.nodes.toList, doc.Below above.id node.id ∧ doc.IsSurplus above

/-- What cuts off the parent of a node cuts off the node. -/
lemma IsCut.of_parent {node owner : Node} (hcut : doc.IsCut owner) (hn : node ∈ doc.nodes.toList)
    (hparent : node.parent = some owner.id) : doc.IsCut node := by
  obtain ⟨above, habove, hbelow, hsurplus⟩ := hcut
  exact ⟨above, habove, hbelow.trans (.step hn hparent .refl), hsurplus⟩

/-- The objects with an identifier in the value of a document. -/
def objectsOf (doc : Document) (id : NodeId) : List Place :=
  (doc.toJson.objects none).filter fun p => NodeId.ofMembers? p.members = some id

/-! ## The children that are written -/

/-- The children of a node that are written, one collection after the other. -/
def shown (doc : Document) (node : Node) : List Node :=
  node.slots.flatMap fun slot => slot.written (doc.childrenIn node.id slot)

/-- The first of some nodes in order is the one before which there is no other. -/
lemma mem_head?_iff {nodes : List Node} (h : nodes.Pairwise fun a b => a.id.value < b.id.value)
    {node : Node} : node ∈ nodes.head?.toList ↔
      node ∈ nodes ∧ ¬∃ other ∈ nodes, other.id.value < node.id.value := by
  cases nodes with
  | nil => simp
  | cons first rest =>
    have hfirst := (List.pairwise_cons.mp h).1
    constructor
    · intro hhead
      obtain rfl : node = first := by simpa using hhead
      refine ⟨List.mem_cons_self, ?_⟩
      rintro ⟨other, ho, hlt⟩
      rcases List.mem_cons.mp ho with rfl | ho
      · exact Nat.lt_irrefl _ hlt
      · exact Nat.lt_asymm hlt (hfirst other ho)
    · rintro ⟨hn, hnone⟩
      rcases List.mem_cons.mp hn with rfl | hrest
      · exact List.mem_singleton_self _
      · exact absurd ⟨first, List.mem_cons_self, hfirst node hrest⟩ hnone

namespace Sound

variable (h : doc.Sound)

include h

/-- Nodes are in the order of their identifiers. -/
lemma pairwise_nodes : doc.nodes.toList.Pairwise fun a b => a.id.value < b.id.value := by
  have hids : doc.nodes.toList.map Node.id =
      (List.range doc.size).map fun i => ⟨doc.root.value + i⟩ := by
    have hnumbered := h.numbered
    rwa [outline, List.map_map] at hnumbered
  have hrange : ((List.range doc.size).map fun i => (⟨doc.root.value + i⟩ : NodeId)).Pairwise
      fun a b => a.value < b.value :=
    List.pairwise_map.mpr (List.pairwise_lt_range.imp fun hlt => Nat.add_lt_add_left hlt _)
  rw [← hids, List.pairwise_map] at hrange
  exact hrange

lemma pairwise_childrenIn (id : NodeId) (slot : Slot) :
    (doc.childrenIn id slot).Pairwise fun a b => a.id.value < b.id.value := by
  rw [childrenIn, h.childrenOf_eq]
  exact (h.pairwise_nodes.filter _).filter _

/-- Of a collection for one child the first one is written. -/
lemma mem_written_iff {child : Node} {id : NodeId} {slot : Slot} :
    child ∈ slot.written (doc.childrenIn id slot) ↔
      child ∈ doc.childrenIn id slot ∧ ¬doc.IsSurplus child := by
  have hsurplus : child ∈ doc.childrenIn id slot → (doc.IsSurplus child ↔ slot.isSingular = true ∧
      ∃ other ∈ doc.childrenIn id slot, other.id.value < child.id.value) := by
    intro hc
    obtain ⟨-, hparent, hslot⟩ := h.mem_childrenIn_iff.mp hc
    rw [IsSurplus, hparent, hslot, Slot.isSingular_iff]
    simp only [h.mem_childrenIn_iff, Option.some.injEq, and_assoc]
  have hwritten : child ∈ slot.written (doc.childrenIn id slot) ↔ child ∈ doc.childrenIn id slot ∧
      ¬(slot.isSingular = true ∧
        ∃ other ∈ doc.childrenIn id slot, other.id.value < child.id.value) := by
    rw [Slot.written]
    cases slot.isSingular with
    | true => simpa using mem_head?_iff (h.pairwise_childrenIn id slot)
    | false => simp
  rw [hwritten]
  exact and_congr_right fun hc => not_congr (hsurplus hc).symm

/-- The children that are written are those that are not surplus. -/
lemma mem_shown_iff {node child : Node} (hn : node ∈ doc.nodes.toList) :
    child ∈ doc.shown node ↔
      child ∈ doc.nodes.toList ∧ child.parent = some node.id ∧ ¬doc.IsSurplus child := by
  simp only [shown, List.mem_flatMap, h.mem_written_iff, h.mem_childrenIn_iff]
  constructor
  · rintro ⟨slot, -, ⟨hc, hparent, -⟩, hnot⟩
    exact ⟨hc, hparent, hnot⟩
  · rintro ⟨hc, hparent, hnot⟩
    obtain ⟨slot, hmem, hslot⟩ := h.declared node hn child.bare (List.mem_map_of_mem hc) hparent
    exact ⟨slot, hmem, ⟨hc, hparent, hslot⟩, hnot⟩

lemma nodup_shown {node : Node} (hn : node ∈ doc.nodes.toList) : (doc.shown node).Nodup := by
  refine List.nodup_flatMap.mpr ⟨fun slot _ => ?_, ?_⟩
  · exact (nodup_childrenIn h node.id slot).sublist Slot.written_sublist
  · refine (h.nodup_slots node hn).imp fun {a b} hne child ha hb => ?_
    have hslot {slot : Slot} (hc : child ∈ slot.written (doc.childrenIn node.id slot)) :
        child.slot = some slot := (h.mem_childrenIn_iff.mp (h.mem_written_iff.mp hc).1).2.2
    exact hne (Option.some.inj ((hslot ha).symm.trans (hslot hb)))

end Sound

/-! ## The nodes that are written -/

/-- The objects of nodes in the object of a node, which stands in its place. -/
def nodeObjects (doc : Document) (node : Node) : List Place :=
  ((doc.nodeJson doc.size node).objects (doc.place node).around).filter isNode

/-- The identifier of a node is found in its object, whatever fields the node has. -/
lemma ofMembers?_place (doc : Document) (node : Node) :
    NodeId.ofMembers? (doc.place node).members = some node.id := by
  have hlookup : (doc.members node).lookup "_id" = some (.string node.id.text) := rfl
  show NodeId.ofMembers? (doc.members node) = _
  rw [NodeId.ofMembers?, hlookup]
  exact node.id.ofText?_text

lemma isNode_of_ofMembers? {p : Place} {id : NodeId} (hp : NodeId.ofMembers? p.members = some id) :
    isNode p = true := by
  obtain ⟨v, hv, -⟩ := Option.bind_eq_some_iff.mp hp
  rw [isNode, hv]
  rfl

/-- The nodes whose objects are in the object of a node: this node, and with each node the children
of it that are written. -/
structure Writes (doc : Document) (node : Node) (nodes : List Node) : Prop where
  objects : doc.nodeObjects node = nodes.map doc.place
  self : node ∈ nodes
  closed : ∀ owner ∈ nodes, ∀ child ∈ doc.shown owner, child ∈ nodes
  reached : ∀ other ∈ nodes, other = node ∨ ∃ owner ∈ nodes, other ∈ doc.shown owner
  below : ∀ other ∈ nodes, other ∈ doc.nodes.toList ∧ doc.Below node.id other.id
  nodup : nodes.Nodup

namespace Sound

variable (h : doc.Sound)

include h

/-- The object of a node has its own place, and what is in the objects of the children that are
written. -/
lemma nodeObjects_eq {node : Node} (hn : node ∈ doc.nodes.toList) :
    doc.nodeObjects node = doc.place node :: (doc.shown node).flatMap doc.nodeObjects := by
  have hhead : (Json.memberObjects (doc.members node) node.headMembers).filter isNode = [] :=
    List.filter_eq_nil_iff.mpr fun p hp => by
      simp [(isReference_of_mem_headMembers hp).isNode]
  have hself : isNode ⟨(doc.place node).around, doc.members node⟩ = true :=
    isNode_of_ofMembers? (doc.ofMembers?_place node)
  rw [nodeObjects, objects_nodeJson_written h hn, List.filter_cons_of_pos hself, List.filter_append,
    hhead, List.nil_append, shown, List.flatMap_assoc, List.filter_flatMap]
  congr 1
  refine List.flatMap_congr fun slot _ => ?_
  rw [List.filter_flatMap]
  refine List.flatMap_congr fun child hc => ?_
  rw [nodeObjects, place_child h hn (h.mem_written_iff.mp hc).1]

lemma exists_writes : ∀ node ∈ doc.nodes.toList, ∃ nodes, doc.Writes node nodes := by
  refine h.induction_children fun node hn ih => ?_
  choose! nodes hnodes using ih
  have hshown {child : Node} (hc : child ∈ doc.shown node) := (h.mem_shown_iff hn).mp hc
  have hwrites {child : Node} (hc : child ∈ doc.shown node) : doc.Writes child (nodes child) :=
    hnodes child (h.mem_childrenOf_iff.mpr ⟨(hshown hc).1, (hshown hc).2.1⟩)
  have hbelow {child other : Node} (hc : child ∈ doc.shown node) (ho : other ∈ nodes child) :
      doc.Below child.id other.id := ((hwrites hc).below other ho).2
  refine ⟨node :: (doc.shown node).flatMap nodes, ?_, List.mem_cons_self, ?_, ?_, ?_, ?_⟩
  · rw [h.nodeObjects_eq hn, List.map_cons, List.map_flatMap]
    congr 1
    exact List.flatMap_congr fun child hc => (hwrites hc).objects
  · intro owner ho child hc
    refine List.mem_cons_of_mem _ (List.mem_flatMap.mpr ?_)
    rcases List.mem_cons.mp ho with rfl | ho
    · exact ⟨child, hc, (hwrites hc).self⟩
    · obtain ⟨first, hfirst, ho⟩ := List.mem_flatMap.mp ho
      exact ⟨first, hfirst, (hwrites hfirst).closed owner ho child hc⟩
  · intro other ho
    refine (List.mem_cons.mp ho).imp_right fun ho => ?_
    obtain ⟨child, hc, ho⟩ := List.mem_flatMap.mp ho
    rcases (hwrites hc).reached other ho with rfl | ⟨owner, howner, hother⟩
    · exact ⟨node, List.mem_cons_self, hc⟩
    · exact ⟨owner, List.mem_cons_of_mem _ (List.mem_flatMap.mpr ⟨child, hc, howner⟩), hother⟩
  · intro other ho
    rcases List.mem_cons.mp ho with rfl | ho
    · exact ⟨hn, .refl⟩
    · obtain ⟨child, hc, ho⟩ := List.mem_flatMap.mp ho
      obtain ⟨hmem, hchild⟩ := (hwrites hc).below other ho
      exact ⟨hmem, .trans (.step (hshown hc).1 (hshown hc).2.1 .refl) hchild⟩
  · refine List.nodup_cons.mpr ⟨fun hmem => ?_, List.nodup_flatMap.mpr ⟨?_, ?_⟩⟩
    · obtain ⟨child, hc, ho⟩ := List.mem_flatMap.mp hmem
      have hlt := (h.parent_lt (hshown hc).1 (hshown hc).2.1).2
      exact absurd hlt (Nat.not_lt.mpr (h.below_le (hbelow hc ho)))
    · exact fun child hc => (hwrites hc).nodup
    · -- what is below two children is below only one of them
      refine (h.nodup_shown hn).imp_of_mem fun {a b} ha hb hne other hoa hob => ?_
      obtain ⟨hamem, haparent, -⟩ := hshown ha
      obtain ⟨hbmem, hbparent, -⟩ := hshown hb
      have hids : a.id ≠ b.id := fun he => hne (h.eq_of_id_eq hamem hbmem he)
      rcases h.below_linear (hbelow ha hoa) (hbelow hb hob) with hab | hba
      · exact h.not_below_siblings hamem hbmem (haparent.trans hbparent.symm) hids hab
      · exact h.not_below_siblings hbmem hamem (hbparent.trans haparent.symm) hids.symm hba

/-- The root is alone. -/
lemma not_isSurplus_rootNode : ¬doc.IsSurplus doc.rootNode := by
  rintro ⟨-, other, ho, hparent, -, hlt⟩
  rw [h.parent_rootNode] at hparent
  have hle := (h.has_of_mem ho).1
  exact absurd hlt (Nat.not_lt.mpr hle)

/-- From the root on, the nodes that are not cut off are written. -/
lemma mem_iff_not_isCut {nodes : List Node} (hw : doc.Writes doc.rootNode nodes) {node : Node} :
    node ∈ nodes ↔ node ∈ doc.nodes.toList ∧ ¬doc.IsCut node := by
  constructor
  · intro hn
    refine ⟨(hw.below node hn).1, ?_⟩
    rintro ⟨above, habove, hbelow, hsurplus⟩
    have hmem : above ∈ nodes := by
      generalize htop : above.id = top at hbelow
      generalize hid : node.id = id at hbelow
      induction hbelow generalizing node with
      | refl => exact h.eq_of_id_eq habove (hw.below node hn).1 (htop.trans hid.symm) ▸ hn
      | @step other parent ho hparent hup ih =>
        obtain rfl := h.eq_of_id_eq (hw.below node hn).1 ho hid
        rcases hw.reached node hn with rfl | ⟨owner, howner, hshown⟩
        · rw [h.parent_rootNode] at hparent
          cases hparent
        · have hp := ((h.mem_shown_iff (hw.below owner howner).1).mp hshown).2.1
          exact ih howner (Option.some.inj (hp.symm.trans hparent))
    rcases hw.reached above hmem with rfl | ⟨owner, howner, hshown⟩
    · exact h.not_isSurplus_rootNode hsurplus
    · exact ((h.mem_shown_iff (hw.below owner howner).1).mp hshown).2.2 hsurplus
  · rintro ⟨hn, hnot⟩
    suffices ∀ other ∈ doc.nodes.toList, other.id = node.id → ¬doc.IsCut other → other ∈ nodes from
      this node hn rfl hnot
    refine h.induction_down (P := fun id => ∀ other ∈ doc.nodes.toList, other.id = id →
      ¬doc.IsCut other → other ∈ nodes) ?_ ?_ node hn
    · intro other ho hid _
      exact h.eq_of_id_eq ho doc.rootNode_mem hid ▸ hw.self
    · intro child hc parent hparent ih other ho hid hother
      obtain rfl := h.eq_of_id_eq ho hc hid
      obtain ⟨owner, howner, rfl⟩ := h.exists_of_has (h.has_parent hc hparent)
      have hup : ¬doc.IsCut owner := fun hcut => hother (hcut.of_parent hc hparent)
      have hself : ¬doc.IsSurplus other := fun hsurplus => hother ⟨other, ho, .refl, hsurplus⟩
      exact hw.closed owner (ih owner howner rfl hup) other
        ((h.mem_shown_iff howner).mpr ⟨hc, hparent, hself⟩)

/-! ## What the value of a document contains -/

/-- The objects of nodes in the value of a document. -/
lemma filter_objects_toJson {nodes : List Node} (hw : doc.Writes doc.rootNode nodes) :
    (doc.toJson.objects none).filter isNode = nodes.map doc.place := by
  have hplace : (doc.place doc.rootNode).around = none := by
    simp [place, h.parent_rootNode]
  rw [← hw.objects, nodeObjects, hplace]
  rfl

lemma objectsOf_eq {nodes : List Node} (hw : doc.Writes doc.rootNode nodes) (id : NodeId) :
    doc.objectsOf id = (nodes.filter fun node => node.id = id).map doc.place := by
  have hnode : doc.objectsOf id = ((doc.toJson.objects none).filter isNode).filter
      fun p => NodeId.ofMembers? p.members = some id := by
    rw [objectsOf, List.filter_filter]
    refine List.filter_congr fun p _ => ?_
    by_cases hp : NodeId.ofMembers? p.members = some id
    · simp [hp, isNode_of_ofMembers? hp]
    · simp [hp]
  rw [hnode, h.filter_objects_toJson hw, List.filter_map]
  congr 2
  funext node
  simp [ofMembers?_place]

lemma objectsOf_of_mem {nodes : List Node} (hw : doc.Writes doc.rootNode nodes) {node : Node}
    (hn : node ∈ nodes) : doc.objectsOf node.id = [doc.place node] := by
  have hself : nodes.filter (fun other => other.id = node.id) = [node] := by
    refine List.Perm.eq_singleton
      ((List.perm_ext_iff_of_nodup (hw.nodup.filter _) (List.nodup_singleton _)).mpr
        fun other => ?_)
    rw [List.mem_filter, decide_eq_true_eq, List.mem_singleton]
    constructor
    · rintro ⟨ho, hid⟩
      exact h.eq_of_id_eq (hw.below other ho).1 (hw.below node hn).1 hid
    · rintro rfl
      exact ⟨hn, rfl⟩
  rw [h.objectsOf_eq hw, hself]
  rfl

/-- The array of a collection has the objects of the children in it, in the order in which they were
made. -/
lemma exists_array {node : Node} {slot : Slot} (hs : slot ∈ node.slots)
    (hsingular : slot.isSingular = false) : ∃ items,
      (slot.key, .array items) ∈ (doc.place node).members ∧
      items.map (fun v => v.members?.bind NodeId.ofMembers?) =
        (doc.nodes.toList.filter fun child =>
          decide (child.parent = some node.id) && child.slot == some slot).map
            fun child => some child.id := by
  refine ⟨(doc.childrenIn node.id slot).map (doc.nodeJson doc.size), ?_, ?_⟩
  · exact mem_members_iff.mpr (.inr (.inr (.inr (.inr (.inr
      ⟨slot, hs, toMember?_eq_some_iff.mpr ⟨rfl, .inr ⟨hsingular, rfl⟩⟩⟩)))))
  · have hchildren : (doc.nodes.toList.filter fun child =>
        decide (child.parent = some node.id) && child.slot == some slot) =
        doc.childrenIn node.id slot := by
      rw [childrenIn, h.childrenOf_eq, List.filter_filter]
      exact List.filter_congr fun _ _ => Bool.and_comm _ _
    rw [hchildren, List.map_map]
    refine List.map_congr_left fun child hc => ?_
    rw [Function.comp_apply, h.nodeJson_eq (h.mem_childrenIn_iff.mp hc).1]
    exact doc.ofMembers?_place child

end Sound

/-- If no node has two children in a collection for one child, then nothing is cut off. -/
lemma not_isCut (honce : ∀ a ∈ doc.nodes.toList, ∀ b ∈ doc.nodes.toList, a.parent = b.parent →
      a.slot = b.slot → a.slot = some .endOne ∨ a.slot = some .endTwo → a = b) (node : Node) :
    ¬doc.IsCut node := by
  rintro ⟨above, habove, -, hslot, other, ho, hparent, hsame, hlt⟩
  obtain rfl := honce above habove other ho hparent.symm hsame.symm hslot
  exact Nat.lt_irrefl _ hlt

/-- The value of a document has one object of each node that is not surplus, nor below one that is,
and no other objects of nodes.  It stands in the object of the parent under the key of the
collection, and the object of a node has an array for each of its collections for many children,
with these in the order in which they were made.  So every node is written if no one has two
children in a collection for one child. -/
theorem Reachable.nodes_written (h : doc.Reachable) :
    (∀ node ∈ doc.nodes.toList, ¬doc.IsCut node → ∃ p, doc.objectsOf node.id = [p] ∧
      (node.parent = none → p.around = none) ∧
      (∀ parent, node.parent = some parent → ∃ outer slot, doc.objectsOf parent = [outer] ∧
        node.slot = some slot ∧ p.around = some (outer.members, slot.key)) ∧
      ∀ slot ∈ node.slots, slot ≠ .endOne → slot ≠ .endTwo → ∃ items,
        (slot.key, .array items) ∈ p.members ∧
        items.map (fun v => v.members?.bind NodeId.ofMembers?) =
          (doc.nodes.toList.filter fun child =>
            decide (child.parent = some node.id) && child.slot == some slot).map
              fun child => some child.id) ∧
    (∀ node ∈ doc.nodes.toList, doc.IsCut node → doc.objectsOf node.id = []) ∧
    (∀ p ∈ doc.toJson.objects none, isNode p = true →
      ∃ node ∈ doc.nodes.toList, NodeId.ofMembers? p.members = some node.id) ∧
    ((∀ a ∈ doc.nodes.toList, ∀ b ∈ doc.nodes.toList, a.parent = b.parent → a.slot = b.slot →
        a.slot = some .endOne ∨ a.slot = some .endTwo → a = b) →
      ∀ node ∈ doc.nodes.toList, ∃ p, doc.objectsOf node.id = [p]) := by
  have hs := h.sound
  obtain ⟨nodes, hw⟩ := hs.exists_writes doc.rootNode doc.rootNode_mem
  have hwritten {node : Node} (hn : node ∈ doc.nodes.toList) (hcut : ¬doc.IsCut node) :
      doc.objectsOf node.id = [doc.place node] :=
    hs.objectsOf_of_mem hw ((hs.mem_iff_not_isCut hw).mpr ⟨hn, hcut⟩)
  refine ⟨fun node hn hcut => ⟨_, hwritten hn hcut, fun hparent => ?_, fun parent hparent => ?_,
    fun slot hslot hone htwo => ?_⟩, fun node hn hcut => ?_, fun p hp hnode => ?_,
    fun honce node hn => ⟨_, hwritten hn (not_isCut honce node)⟩⟩
  · simp [place, hparent]
  · rcases hs.placed_of_mem hn with ⟨-, hnone⟩ | ⟨owner, slot, howner, hslot, -, -⟩
    · rw [hnone] at hparent
      cases hparent
    · obtain ⟨outer, ho, rfl⟩ := hs.exists_of_has (hs.has_parent hn hparent)
      have hup : ¬doc.IsCut outer := fun hup => hcut (hup.of_parent hn hparent)
      refine ⟨doc.place outer, slot, hwritten ho hup, hslot, ?_⟩
      rw [place_child hs ho (hs.mem_childrenIn_iff.mpr ⟨hn, hparent, hslot⟩)]
      rfl
  · refine hs.exists_array hslot (Bool.eq_false_iff.mpr fun hsingular => ?_)
    exact (Slot.isSingular_iff.mp hsingular).elim hone htwo
  · rw [hs.objectsOf_eq hw, List.map_eq_nil_iff, List.filter_eq_nil_iff]
    intro other ho hid
    have hmem := (hs.mem_iff_not_isCut hw).mp ho
    obtain rfl := hs.eq_of_id_eq hmem.1 hn (of_decide_eq_true hid)
    exact hmem.2 hcut
  · have hmem := List.mem_filter.mpr ⟨hp, hnode⟩
    rw [hs.filter_objects_toJson hw] at hmem
    obtain ⟨node, hn, rfl⟩ := List.mem_map.mp hmem
    exact ⟨node, (hw.below node hn).1, doc.ofMembers?_place node⟩

/-- A second end is cut off with what it owns.  What the first one owns is written. -/
theorem nodes_written_of_two_ends : ∃ doc : Document, doc.Reachable ∧ doc.size = 5 ∧
    (∃ p outer, doc.objectsOf ⟨12⟩ = [p] ∧ doc.objectsOf ⟨11⟩ = [outer] ∧
      p.around = some (outer.members, "ownedElements")) ∧
    doc.objectsOf ⟨13⟩ = [] ∧ doc.objectsOf ⟨14⟩ = [] := by
  have h₀ : Reachable _ := .new (show Document.new (.new 10) .association "a" = .ok _ from rfl)
  have h₁ := h₀.call (.addChild ⟨10⟩ .endOne .associationEnd (some "b"))
  have h₂ := h₁.call (.addChild ⟨11⟩ .ownedElements .classNode (some "B"))
  have h₃ := h₂.call (.addChild ⟨10⟩ .endOne .associationEnd (some "c"))
  have h := h₃.call (.addChild ⟨13⟩ .ownedElements .classNode (some "C"))
  obtain ⟨hkept, hcut, -⟩ := h.nodes_written
  obtain ⟨hfirst, -⟩ := h.sound.get?_eq_some_iff.mp (show Document.get? _ ⟨12⟩ = some _ from rfl)
  obtain ⟨hend, -⟩ := h.sound.get?_eq_some_iff.mp (show Document.get? _ ⟨13⟩ = some _ from rfl)
  obtain ⟨hsecond, -⟩ := h.sound.get?_eq_some_iff.mp (show Document.get? _ ⟨14⟩ = some _ from rfl)
  obtain ⟨p, hp, -, haround, -⟩ := hkept _ hfirst (by
    rintro ⟨above, habove, hbelow, hsurplus⟩
    -- only the second end is surplus, and it was made later
    have hid : above.id = ⟨13⟩ := by
      clear hbelow
      revert above
      decide
    have hle := h.sound.below_le hbelow
    rw [hid] at hle
    exact absurd hle (by decide))
  obtain ⟨outer, slot, houter, hslot, hinside⟩ := haround _ rfl
  cases hslot
  refine ⟨_, h, rfl, ⟨p, outer, hp, houter, hinside⟩, hcut _ hend ?_, hcut _ hsecond ?_⟩
  · exact ⟨_, hend, .refl, by decide⟩
  · exact ⟨_, hend, .step hsecond rfl .refl, by decide⟩

end Document

end JavaUml
