/-
# Documents as JSON values

The value of a document has one object for each node (`filter_objects_toJson_perm`).  It stands in
the object of the parent of the node, under the key of its collection, and has no key twice.  All
other objects are references.  The document is read back from its text as this value
(`ofText_text`).

This needs more than a sound tree.  A field may not have a key that is used otherwise, and where a
collection is for one child, there may be no second one, which would not be written; and the tree
may not be so deep that a reader refuses it (`Tidy`).
-/
import JavaUml.Document.Json
import JavaUml.Proofs.Document.Children
import JavaUml.Proofs.Document.Walk
import JavaUml.Proofs.Json.Objects
import JavaUml.Proofs.Json.RoundTrip

namespace JavaUml

open Json (Members Place objects memberObjects Whole depthMembers)

/-! ## Vocabulary -/

lemma Slot.key_injective : Function.Injective Slot.key := by
  intro a b h
  revert h
  cases a <;> cases b <;> decide

lemma Slot.ofKey?_key (slot : Slot) : ofKey? slot.key = some slot := by
  cases slot <;> decide

lemma NodeKind.ofTag?_tag (kind : NodeKind) : ofTag? kind.tag = some kind := by
  cases kind <;> decide

/-- How far below the root the nodes of a type stand. -/
def NodeKind.level : NodeKind → ℕ
  | project => 0
  | model | stateMachine | collaboration => 1
  | classDiagram | classNode | interfaceNode | region | interaction => 2
  | attributeNode | operation | generalization | interfaceRealization | association => 3
  | state | pseudostate | finalState | transition | sequenceDiagram | lifeline | message => 3
  | parameter | associationEnd | event => 4

lemma NodeKind.level_le_four (kind : NodeKind) : kind.level ≤ 4 := by
  cases kind <;> decide

/-- The keys that an object of a node has before those of its fields. -/
def headKeys : List String := ["_type", "_id", "_parent", "name"]

/-- The keys that a field may not have. -/
def reservedKeys : List String := headKeys ++ Slot.all.map Slot.key

lemma Slot.key_mem_reservedKeys (slot : Slot) : slot.key ∈ reservedKeys := by
  cases slot <;> decide

lemma Slot.key_not_mem_headKeys (slot : Slot) : slot.key ∉ headKeys := by
  cases slot <;> decide

/-- Before its collections an object has texts, flags and references. -/
lemma Node.forall_headMembers {P : Json → Prop} (string : ∀ s, P (.string s))
    (boolean : ∀ b, P (.boolean b)) (reference : ∀ id : NodeId, P id.toJson) (node : Node) :
    ∀ member ∈ node.headMembers, P member.2 := by
  intro member hmember
  simp only [headMembers, List.mem_append, List.mem_cons, List.not_mem_nil, or_false,
    Option.mem_toList, Option.map_eq_some_iff, List.mem_map] at hmember
  rcases hmember with (((rfl | rfl) | ⟨parent, -, rfl⟩) | ⟨name, -, rfl⟩) | ⟨⟨key, value⟩, -, rfl⟩
  · exact string _
  · exact string _
  · exact reference parent
  · exact string name
  · cases value with
    | text s => exact string s
    | flag b => exact boolean b
    | reference id => exact reference id
    | symbol name => exact string name

/-! ## The children that are written -/

namespace Slot

variable {α β : Type} {slot : Slot} {children : List α}

/-- What is written of the children in a collection: all of them, or only the first one. -/
def written (slot : Slot) (children : List α) : List α :=
  if slot.isSingular then children.head?.toList else children

lemma written_eq_self (hs : slot.isSingular = true → children.length ≤ 1) :
    slot.written children = children := by
  rw [written]
  split
  · next hsingular =>
    match children, hs hsingular with
    | [], _ => rfl
    | [_], _ => rfl
  · rfl

lemma written_map (f : α → β) : slot.written (children.map f) = (slot.written children).map f := by
  rw [written, written]
  split
  · cases children <;> rfl
  · rfl

lemma written_sublist : (slot.written children).Sublist children := by
  rw [written]
  split
  · cases children with
    | nil => exact .slnil
    | cons first rest => exact (List.nil_sublist rest).cons_cons first
  · exact List.Sublist.refl _

end Slot

/-! ## The value of a node -/

namespace Document

variable {doc : Document}

/-- The members of the object of a node. -/
def members (doc : Document) (node : Node) : Members :=
  node.headMembers ++ node.slots.filterMap fun slot =>
    slot.toMember? ((doc.childrenIn node.id slot).map (doc.nodeJson doc.size))

/-- The place of the object of a node. -/
def place (doc : Document) (node : Node) : Place where
  around := do
    let owner ← doc.get? (← node.parent)
    return (doc.members owner, (← node.slot).key)
  members := doc.members node

namespace Sound

lemma nodeJson_succ (h : doc.Sound) {node : Node} (hn : node ∈ doc.nodes.toList) (levels : ℕ) :
    doc.nodeJson (levels + 1) node =
      .object (node.headMembers ++ node.slots.filterMap fun slot =>
        slot.toMember? ((doc.childrenIn node.id slot).map (doc.nodeJson levels))) := by
  rw [nodeJson]
  simp only [childrenIn, childrenOf, h.get?_of_mem hn]

/-- Once the levels reach to the end of the document, more of them change nothing. -/
lemma nodeJson_eq_nodeJson (h : doc.Sound) {k l : ℕ} {node : Node}
    (hn : node ∈ doc.nodes.toList) (hk : doc.next ≤ node.id.value + k)
    (hl : doc.next ≤ node.id.value + l) : doc.nodeJson k node = doc.nodeJson l node := by
  have hlt := (h.has_of_mem hn).2
  induction k generalizing l node with
  | zero => omega
  | succ k ih =>
    cases l with
    | zero => omega
    | succ l =>
      rw [h.nodeJson_succ hn, h.nodeJson_succ hn]
      congr 3
      funext slot
      congr 1
      -- a child is nearer to the end, and needs one level less
      refine List.map_congr_left fun child hc => ?_
      obtain ⟨hcmem, hparent, -⟩ := h.mem_childrenIn_iff.mp hc
      have hchild := (h.parent_lt hcmem hparent).2
      exact ih hcmem (by omega) (by omega) (h.has_of_mem hcmem).2

/-- A node is written as the object of its members. -/
lemma nodeJson_eq (h : doc.Sound) {node : Node} (hn : node ∈ doc.nodes.toList) :
    doc.nodeJson doc.size node = .object (doc.members node) := by
  have hroot := (h.has_of_mem hn).1
  rw [h.nodeJson_eq_nodeJson hn (l := doc.size + 1) (by simp only [next]; omega)
    (by simp only [next]; omega), h.nodeJson_succ hn, members]

end Sound

/-! ## Keys -/

/-- The fields and the tree of a document are such that nothing is lost when it is written. -/
structure Tidy (doc : Document) : Prop where
  nodup_keys : ∀ node ∈ doc.outline, (node.fields.map Prod.fst).Nodup
  free_keys : ∀ node ∈ doc.outline, ∀ field ∈ node.fields, field.1 ∉ reservedKeys
  /-- In a collection for one child there are no two. -/
  singular : ∀ a ∈ doc.outline, ∀ b ∈ doc.outline, a.parent = b.parent → a.slot = b.slot →
    ∀ slot, a.slot = some slot → slot.isSingular = true → a.id = b.id
  /-- What has no parent is in no collection. -/
  top : ∀ node ∈ doc.outline, node.parent = none → node.slot = none
  level_lt : ∀ node ∈ doc.outline, ∀ owner ∈ doc.outline, node.parent = some owner.id →
    owner.kind.level < node.kind.level

lemma mem_members_iff {node : Node} {key : String} {v : Json} : (key, v) ∈ doc.members node ↔
    (key = "_type" ∧ v = .string node.kind.tag) ∨ (key = "_id" ∧ v = .string node.id.text) ∨
    (key = "_parent" ∧ ∃ parent, node.parent = some parent ∧ v = parent.toJson) ∨
    (key = "name" ∧ ∃ name, node.name = some name ∧ v = .string name) ∨
    (∃ field ∈ node.fields, key = field.1 ∧ v = field.2.toJson) ∨
    ∃ slot ∈ node.slots, slot.toMember?
      ((doc.childrenIn node.id slot).map (doc.nodeJson doc.size)) = some (key, v) := by
  simp only [members, Node.headMembers, List.mem_append, List.mem_cons, List.not_mem_nil, or_false,
    Option.mem_toList, Option.map_eq_some_iff, List.mem_map, List.mem_filterMap, Prod.mk.injEq,
    or_assoc]
  constructor
  · rintro (h | h | ⟨parent, h, rfl, rfl⟩ | ⟨name, h, rfl, rfl⟩ | ⟨field, h, rfl, rfl⟩ | h)
    · exact .inl h
    · exact .inr (.inl h)
    · exact .inr (.inr (.inl ⟨rfl, parent, h, rfl⟩))
    · exact .inr (.inr (.inr (.inl ⟨rfl, name, h, rfl⟩)))
    · exact .inr (.inr (.inr (.inr (.inl ⟨field, h, rfl, rfl⟩))))
    · exact .inr (.inr (.inr (.inr (.inr h))))
  · rintro (h | h | ⟨rfl, parent, h, rfl⟩ | ⟨rfl, name, h, rfl⟩ | ⟨field, h, rfl, rfl⟩ | h)
    · exact .inl h
    · exact .inr (.inl h)
    · exact .inr (.inr (.inl ⟨parent, h, rfl, rfl⟩))
    · exact .inr (.inr (.inr (.inl ⟨name, h, rfl, rfl⟩)))
    · exact .inr (.inr (.inr (.inr (.inl ⟨field, h, rfl, rfl⟩))))
    · exact .inr (.inr (.inr (.inr (.inr h))))

lemma toMember?_eq_some_iff {slot : Slot} {values : List Json} {key : String} {v : Json} :
    slot.toMember? values = some (key, v) ↔ key = slot.key ∧
      (slot.isSingular = true ∧ values.head? = some v ∨
        slot.isSingular = false ∧ v = .array values) := by
  unfold Slot.toMember?
  cases slot.isSingular with
  | true => simp [and_comm, eq_comm]
  | false => simp [eq_comm]

/-- A collection with something in it is written. -/
lemma exists_toMember? (slot : Slot) {values : List Json} (h : values ≠ []) :
    ∃ v, slot.toMember? values = some (slot.key, v) := by
  obtain ⟨first, rest, rfl⟩ := List.exists_cons_of_ne_nil h
  unfold Slot.toMember?
  split
  · exact ⟨first, rfl⟩
  · exact ⟨_, rfl⟩

lemma sublist_keys_slots (slots : List Slot) (values : Slot → List Json) :
    ((slots.filterMap fun slot => slot.toMember? (values slot)).map Prod.fst).Sublist
      (slots.map Slot.key) := by
  induction slots with
  | nil => exact .slnil
  | cons slot slots ih =>
    rw [List.filterMap_cons]
    cases hm : slot.toMember? (values slot) with
    | none => exact ih.cons _
    | some member =>
      have hkey : member.1 = slot.key := (toMember?_eq_some_iff.mp hm).1
      rw [List.map_cons, List.map_cons, hkey]
      exact ih.cons_cons _

section Keys

variable (h : doc.Sound) (ht : doc.Tidy) {node : Node} (hn : node ∈ doc.nodes.toList)

include h ht hn

/-- No key occurs twice in the object of a node. -/
lemma nodup_keys_members : ((doc.members node).map Prod.fst).Nodup := by
  have hbare : node.bare ∈ doc.outline := List.mem_map_of_mem hn
  -- the keys are some of these, in this order
  have hsub : ((doc.members node).map Prod.fst).Sublist
      (headKeys ++ (node.fields.map Prod.fst ++ node.slots.map Slot.key)) := by
    have hparent : ((node.parent.map fun parent => ("_parent", parent.toJson)).toList.map
        Prod.fst).Sublist ["_parent"] := by
      cases node.parent <;> simp
    have hname : ((node.name.map fun name => ("name", Json.string name)).toList.map
        Prod.fst).Sublist ["name"] := by
      cases node.name <;> simp
    have hfields : ((node.fields.map fun field => (field.1, field.2.toJson)).map Prod.fst).Sublist
        (node.fields.map Prod.fst) := by
      rw [List.map_map]
      exact List.Sublist.refl _
    have hslots := sublist_keys_slots node.slots
      fun slot => (doc.childrenIn node.id slot).map (doc.nodeJson doc.size)
    have hall := (((List.Sublist.refl ["_type", "_id"]).append hparent).append hname).append hfields
    simpa [members, Node.headMembers, headKeys] using hall.append hslots
  refine hsub.nodup (List.nodup_append'.mpr ⟨by decide, List.nodup_append'.mpr ⟨?_, ?_, ?_⟩, ?_⟩)
  · exact ht.nodup_keys node.bare hbare
  · exact (h.nodup_slots node hn).map Slot.key_injective
  · intro key hfield hslot
    obtain ⟨field, hf, rfl⟩ := List.mem_map.mp hfield
    obtain ⟨slot, -, he⟩ := List.mem_map.mp hslot
    exact ht.free_keys node.bare hbare field hf (he ▸ slot.key_mem_reservedKeys)
  · intro key hhead hother
    rcases List.mem_append.mp hother with hfield | hslot
    · obtain ⟨field, hf, rfl⟩ := List.mem_map.mp hfield
      exact ht.free_keys node.bare hbare field hf (List.mem_append_left _ hhead)
    · obtain ⟨slot, -, rfl⟩ := List.mem_map.mp hslot
      exact slot.key_not_mem_headKeys hhead

/-- What stands under a key is found by looking it up. -/
lemma lookup_members_eq_some_iff {key : String} {v : Json} :
    (doc.members node).lookup key = some v ↔ (key, v) ∈ doc.members node :=
  Entries.lookup_eq_some_iff_mem (nodup_keys_members h ht hn)

/-- Under the keys at the beginning of an object stands nothing else. -/
lemma lookup_headKey {key : String} (hkey : key ∈ headKeys) {v : Json} :
    (doc.members node).lookup key = some v ↔
      (key = "_type" ∧ v = .string node.kind.tag) ∨ (key = "_id" ∧ v = .string node.id.text) ∨
      (key = "_parent" ∧ ∃ parent, node.parent = some parent ∧ v = parent.toJson) ∨
      (key = "name" ∧ ∃ name, node.name = some name ∧ v = .string name) := by
  rw [lookup_members_eq_some_iff h ht hn, mem_members_iff]
  have hfield : ¬∃ field ∈ node.fields, key = field.1 ∧ v = field.2.toJson := by
    rintro ⟨field, hf, rfl, -⟩
    exact ht.free_keys node.bare (List.mem_map_of_mem hn) field hf (List.mem_append_left _ hkey)
  have hslot : ¬∃ slot ∈ node.slots, slot.toMember?
      ((doc.childrenIn node.id slot).map (doc.nodeJson doc.size)) = some (key, v) := by
    rintro ⟨slot, -, hmember⟩
    exact slot.key_not_mem_headKeys ((toMember?_eq_some_iff.mp hmember).1 ▸ hkey)
  simp only [hfield, hslot, or_false]

lemma lookup_type : (doc.members node).lookup "_type" = some (.string node.kind.tag) :=
  (lookup_headKey h ht hn (by decide)).mpr (.inl ⟨rfl, rfl⟩)

lemma lookup_id : (doc.members node).lookup "_id" = some (.string node.id.text) :=
  (lookup_headKey h ht hn (by decide)).mpr (.inr (.inl ⟨rfl, rfl⟩))

lemma lookup_parent : (doc.members node).lookup "_parent" = node.parent.map NodeId.toJson := by
  ext v
  rw [lookup_headKey h ht hn (by decide)]
  simp [eq_comm]

lemma lookup_name : (doc.members node).lookup "name" = node.name.map Json.string := by
  ext v
  rw [lookup_headKey h ht hn (by decide)]
  simp [eq_comm]

/-- Under the key of a collection stand the children in it. -/
lemma lookup_slot {slot : Slot} {v : Json} : (doc.members node).lookup slot.key = some v ↔
    slot ∈ node.slots ∧
      slot.toMember? ((doc.childrenIn node.id slot).map (doc.nodeJson doc.size)) =
        some (slot.key, v) := by
  have hhead := slot.key_not_mem_headKeys
  simp only [headKeys, List.mem_cons, List.not_mem_nil, or_false, not_or] at hhead
  have hfield : ¬∃ field ∈ node.fields, slot.key = field.1 ∧ v = field.2.toJson := by
    rintro ⟨field, hf, hkey, -⟩
    exact ht.free_keys node.bare (List.mem_map_of_mem hn) field hf
      (hkey ▸ slot.key_mem_reservedKeys)
  rw [lookup_members_eq_some_iff h ht hn, mem_members_iff]
  simp only [hhead, false_and, hfield, false_or]
  constructor
  · rintro ⟨other, ho, hmember⟩
    obtain rfl := Slot.key_injective (toMember?_eq_some_iff.mp hmember).1
    exact ⟨ho, hmember⟩
  · exact fun ⟨hslot, hmember⟩ => ⟨slot, hslot, hmember⟩

end Keys

/-! ## The objects in the value -/

/-- An object that is a reference to a node. -/
def IsReference (p : Place) : Prop := ∃ id : NodeId, p.members = [("$ref", .string id.text)]

/-- Whether an object is that of a node. -/
def isNode (p : Place) : Bool := (p.members.lookup "_id").isSome

lemma IsReference.isNode {p : Place} (hp : IsReference p) : isNode p = false := by
  obtain ⟨id, hid⟩ := hp
  rw [Document.isNode, hid]
  rfl

/-- Before its collections an object has no other objects than references. -/
lemma isReference_of_mem_headMembers {outer : Members} {node : Node} {p : Place}
    (hp : p ∈ memberObjects outer node.headMembers) : IsReference p := by
  rw [Json.memberObjects_eq, List.mem_flatMap] at hp
  obtain ⟨member, hmember, hp⟩ := hp
  refine Node.forall_headMembers
    (P := fun v => ∀ around, ∀ p ∈ v.objects around, IsReference p)
    (fun _ _ _ hs => by cases hs) (fun _ _ _ hb => by cases hb) ?_ node member hmember _ p hp
  intro id around p hid
  obtain rfl := List.mem_singleton.mp hid
  exact ⟨id, rfl⟩

/-- Each child is in one collection. -/
lemma flatMap_filter_slot_perm {slots : List Slot} (hslots : slots.Nodup) {children : List Node}
    (hc : ∀ c ∈ children, ∃ slot ∈ slots, c.slot = some slot) :
    (slots.flatMap fun slot => children.filter fun c => c.slot == some slot).Perm children := by
  induction slots generalizing children with
  | nil =>
    cases children with
    | nil => exact .refl _
    | cons c children =>
      obtain ⟨slot, hslot, -⟩ := hc c List.mem_cons_self
      cases hslot
  | cons slot slots ih =>
    rw [List.nodup_cons] at hslots
    rw [List.flatMap_cons]
    -- the other collections have the children that are not in the first one
    have hothers : (slots.flatMap fun other => children.filter fun c => c.slot == some other) =
        slots.flatMap fun other =>
          (children.filter fun c => !(c.slot == some slot)).filter
            fun c => c.slot == some other := by
      refine List.flatMap_congr fun other ho => ?_
      rw [List.filter_filter]
      refine List.filter_congr fun c _ => ?_
      by_cases hs : c.slot = some other
      · have hne : other ≠ slot := fun he => hslots.1 (he ▸ ho)
        simp [hs, hne]
      · simp [hs]
    have hleft : ∀ c ∈ children.filter fun c => !(c.slot == some slot),
        ∃ other ∈ slots, c.slot = some other := by
      intro c hmem
      obtain ⟨hmem, hne⟩ := List.mem_filter.mp hmem
      obtain ⟨other, ho, he⟩ := hc c hmem
      rcases List.mem_cons.mp ho with rfl | ho
      · simp [he] at hne
      · exact ⟨other, ho, he⟩
    rw [hothers]
    exact ((ih hslots.2 hleft).append_left _).trans (List.filter_append_perm _ children)

/-- A collection is written with the objects of the children that are written. -/
lemma flatMap_toMember? (slot : Slot) (values : List Json) (outer : Members) :
    ((slot.toMember? values).toList.flatMap fun m => objects (some (outer, m.1)) m.2) =
      (slot.written values).flatMap (objects (some (outer, slot.key))) := by
  unfold Slot.toMember? Slot.written
  cases hsingular : slot.isSingular with
  | true => cases values <;> simp
  | false => simp [objects, Json.itemObjects_eq]

section Objects

variable (h : doc.Sound) (ht : doc.Tidy)

include h

lemma nodup_childrenIn (id : NodeId) (slot : Slot) : (doc.childrenIn id slot).Nodup := by
  rw [childrenIn, h.childrenOf_eq]
  exact (h.nodup_nodes.filter _).filter _

/-- The collections of a node hold each of its children once. -/
lemma flatMap_childrenIn_perm {node : Node} (hn : node ∈ doc.nodes.toList) :
    (node.slots.flatMap (doc.childrenIn node.id)).Perm (doc.childrenOf node.id) := by
  refine flatMap_filter_slot_perm (h.nodup_slots node hn) fun c hc => ?_
  obtain ⟨hcmem, hparent⟩ := h.mem_childrenOf_iff.mp hc
  exact h.declared node hn c.bare (List.mem_map_of_mem hcmem) hparent

/-- The objects in the object of a node: itself, references, and those of the children that are
written. -/
lemma objects_nodeJson_written {node : Node} (hn : node ∈ doc.nodes.toList)
    (around : Option (Members × String)) :
    (doc.nodeJson doc.size node).objects around = ⟨around, doc.members node⟩ ::
      (memberObjects (doc.members node) node.headMembers ++
        node.slots.flatMap fun slot => (slot.written (doc.childrenIn node.id slot)).flatMap
          fun child =>
            (doc.nodeJson doc.size child).objects (some (doc.members node, slot.key))) := by
  have hslots : (node.slots.filterMap fun slot =>
        slot.toMember? ((doc.childrenIn node.id slot).map (doc.nodeJson doc.size))).flatMap
        (fun m => objects (some (doc.members node, m.1)) m.2) =
      node.slots.flatMap fun slot => (slot.written (doc.childrenIn node.id slot)).flatMap
        fun child => (doc.nodeJson doc.size child).objects (some (doc.members node, slot.key)) := by
    rw [List.filterMap_eq_flatMap_toList, List.flatMap_assoc]
    refine List.flatMap_congr fun slot _ => ?_
    rw [flatMap_toMember?, Slot.written_map, List.flatMap_map]
  rw [h.nodeJson_eq hn, objects, Json.memberObjects_eq, Json.memberObjects_eq, ← hslots,
    ← List.flatMap_append]
  rfl

include ht

lemma length_childrenIn_le (id : NodeId) {slot : Slot} (hs : slot.isSingular = true) :
    (doc.childrenIn id slot).length ≤ 1 := by
  have hnodup := nodup_childrenIn h id slot
  match hc : doc.childrenIn id slot with
  | [] => simp
  | [_] => simp
  | a :: b :: rest =>
    -- two of them would be the same
    have hmem {c : Node} (hmem : c ∈ a :: b :: rest) := h.mem_childrenIn_iff.mp (hc ▸ hmem)
    obtain ⟨ha, hpa, hsa⟩ := hmem List.mem_cons_self
    obtain ⟨hb, hpb, hsb⟩ := hmem (List.mem_cons_of_mem _ List.mem_cons_self)
    have hid := ht.singular a.bare (List.mem_map_of_mem ha) b.bare (List.mem_map_of_mem hb)
      (hpa.trans hpb.symm) (hsa.trans hsb.symm) slot hsa hs
    obtain rfl := h.eq_of_id_eq ha hb hid
    rw [hc] at hnodup
    simp at hnodup

/-- The objects in the object of a node: itself, references, and those of its children. -/
lemma objects_nodeJson {node : Node} (hn : node ∈ doc.nodes.toList)
    (around : Option (Members × String)) :
    (doc.nodeJson doc.size node).objects around = ⟨around, doc.members node⟩ ::
      (memberObjects (doc.members node) node.headMembers ++
        node.slots.flatMap fun slot => (doc.childrenIn node.id slot).flatMap fun child =>
          (doc.nodeJson doc.size child).objects (some (doc.members node, slot.key))) := by
  have hall (slot : Slot) :
      slot.written (doc.childrenIn node.id slot) = doc.childrenIn node.id slot :=
    Slot.written_eq_self (length_childrenIn_le h ht node.id)
  simp only [objects_nodeJson_written h hn around, hall]

/-- The places of the nodes below a node, each before those of its children. -/
def placesBelow (doc : Document) (id : NodeId) : List Place :=
  ((doc.preorder id).filterMap doc.get?).map doc.place

omit ht in
lemma placesBelow_eq {node : Node} (hn : node ∈ doc.nodes.toList) :
    doc.placesBelow node.id =
      doc.place node :: (doc.childrenOf node.id).flatMap fun child => doc.placesBelow child.id := by
  have hchildren : node.children = (doc.childrenOf node.id).map Node.id := by
    rw [h.listed node hn, Sound.offspring_outline, h.childrenOf_eq]
  rw [placesBelow, h.preorder_eq hn, List.filterMap_cons_some (h.get?_of_mem hn), List.map_cons,
    hchildren, List.flatMap_map, List.filterMap_flatMap, List.map_flatMap]
  rfl

omit ht in
lemma place_child {node child : Node} (hn : node ∈ doc.nodes.toList) {slot : Slot}
    (hc : child ∈ doc.childrenIn node.id slot) :
    doc.place child = ⟨some (doc.members node, slot.key), doc.members child⟩ := by
  obtain ⟨-, hparent, hslot⟩ := h.mem_childrenIn_iff.mp hc
  simp [place, hparent, hslot, h.get?_of_mem hn]

lemma isNode_members {node : Node} (hn : node ∈ doc.nodes.toList)
    (around : Option (Members × String)) : isNode ⟨around, doc.members node⟩ = true := by
  rw [isNode, lookup_id h ht hn]
  rfl

/-- The objects of nodes in the object of a node are its own and those of the nodes below it. -/
lemma filter_objects_perm : ∀ node ∈ doc.nodes.toList, ∀ around,
    (((doc.nodeJson doc.size node).objects around).filter isNode).Perm
      (⟨around, doc.members node⟩ ::
        (doc.childrenOf node.id).flatMap fun child => doc.placesBelow child.id) := by
  refine h.induction_children fun node hn ih around => ?_
  have hhead : (memberObjects (doc.members node) node.headMembers).filter isNode = [] :=
    List.filter_eq_nil_iff.mpr fun p hp => by
      simp [(isReference_of_mem_headMembers hp).isNode]
  rw [objects_nodeJson h ht hn, List.filter_cons_of_pos (isNode_members h ht hn around),
    List.filter_append, hhead, List.nil_append, List.filter_flatMap]
  -- each collection has the places of what is below the children in it
  have hslots : (node.slots.flatMap fun slot =>
        ((doc.childrenIn node.id slot).flatMap fun child => (doc.nodeJson doc.size child).objects
          (some (doc.members node, slot.key))).filter isNode).Perm
      (node.slots.flatMap fun slot =>
        (doc.childrenIn node.id slot).flatMap fun child => doc.placesBelow child.id) := by
    refine .flatMap_left _ fun slot _ => ?_
    rw [List.filter_flatMap]
    refine .flatMap_left _ fun child hc => ?_
    have hcmem := (h.mem_childrenIn_iff.mp hc).1
    have hbelow := ih child (List.mem_of_mem_filter hc) (some (doc.members node, slot.key))
    rwa [← place_child h hn hc, ← placesBelow_eq h hcmem] at hbelow
  refine .cons _ (hslots.trans ?_)
  rw [← List.flatMap_assoc]
  exact (flatMap_childrenIn_perm h hn).flatMap_right _

/-- The value of a document has one object for each node, in its place. -/
lemma filter_objects_toJson_perm :
    ((doc.toJson.objects none).filter isNode).Perm (doc.nodes.toList.map doc.place) := by
  have hplace : doc.place doc.rootNode = ⟨none, doc.members doc.rootNode⟩ := by
    simp [place, h.parent_rootNode]
  have hperm := filter_objects_perm h ht doc.rootNode doc.rootNode_mem none
  rw [← hplace, ← placesBelow_eq h doc.rootNode_mem, placesBelow, ← h.subtree_eq] at hperm
  refine hperm.trans (.map _ ?_)
  have hnodes := h.subtree_root_perm.filterMap doc.get?
  have hkept : (doc.nodes.toList.map Node.id).filterMap doc.get? = doc.nodes.toList := by
    rw [List.filterMap_map]
    calc doc.nodes.toList.filterMap (doc.get? ∘ Node.id) = doc.nodes.toList.filterMap some :=
          List.filterMap_congr fun node hn => h.get?_of_mem hn
      _ = doc.nodes.toList := List.filterMap_some
  rwa [hkept] at hnodes

/-- Every object in the object of a node is that of a node or a reference. -/
lemma isNode_or_isReference : ∀ node ∈ doc.nodes.toList, ∀ around,
    ∀ p ∈ (doc.nodeJson doc.size node).objects around, isNode p = true ∨ IsReference p := by
  refine h.induction_children fun node hn ih around p hp => ?_
  rw [objects_nodeJson h ht hn, List.mem_cons, List.mem_append, List.mem_flatMap] at hp
  rcases hp with rfl | hp | ⟨slot, -, hp⟩
  · exact .inl (isNode_members h ht hn around)
  · exact .inr (isReference_of_mem_headMembers hp)
  · obtain ⟨child, hc, hp⟩ := List.mem_flatMap.mp hp
    exact ih child (List.mem_of_mem_filter hc) _ p hp

/-- Every object in the value of a document is that of a node or a reference. -/
lemma mem_objects_toJson {p : Place} (hp : p ∈ doc.toJson.objects none) :
    (∃ node ∈ doc.nodes.toList, p = doc.place node) ∨ IsReference p := by
  refine (isNode_or_isReference h ht _ doc.rootNode_mem none p hp).imp_left fun hnode => ?_
  have hmem := (filter_objects_toJson_perm h ht).mem_iff.mp (List.mem_filter.mpr ⟨hp, hnode⟩)
  obtain ⟨node, hn, rfl⟩ := List.mem_map.mp hmem
  exact ⟨node, hn, rfl⟩

end Objects

/-- The object of a node names as its parent the object around it; what is in no other object has
no parent. -/
def NamesParent (p : Place) : Prop :=
  match p.around with
  | none => p.members.lookup "_parent" = none
  | some (outer, _) => ∃ id, outer.lookup "_id" = some id ∧
      p.members.lookup "_parent" = some (.object [("$ref", id)])

lemma namesParent_place (h : doc.Sound) (ht : doc.Tidy) {node : Node}
    (hn : node ∈ doc.nodes.toList) : NamesParent (doc.place node) := by
  rcases h.placed_of_mem hn with ⟨-, hparent⟩ | ⟨parent, slot, hparent, hslot, -, -⟩
  · have hplace : doc.place node = ⟨none, doc.members node⟩ := by
      simp [place, hparent]
    rw [hplace]
    exact (lookup_parent h ht hn).trans (by rw [hparent]; rfl)
  · obtain ⟨owner, ho, rfl⟩ := h.exists_of_has (h.has_parent hn hparent)
    rw [place_child h ho (h.mem_childrenIn_iff.mpr ⟨hn, hparent, hslot⟩)]
    exact ⟨_, lookup_id h ht ho, (lookup_parent h ht hn).trans (by rw [hparent]; rfl)⟩

/-- No object in the value of a document has a key twice. -/
lemma nodup_keys_of_mem_objects (h : doc.Sound) (ht : doc.Tidy) {p : Place}
    (hp : p ∈ doc.toJson.objects none) : (p.members.map Prod.fst).Nodup := by
  rcases mem_objects_toJson h ht hp with ⟨node, hn, rfl⟩ | ⟨id, hid⟩
  · exact nodup_keys_members h ht hn
  · rw [hid]
    exact List.nodup_singleton _

lemma namesParent_of_mem_objects (h : doc.Sound) (ht : doc.Tidy) {p : Place}
    (hp : p ∈ doc.toJson.objects none) (hnode : isNode p = true) : NamesParent p := by
  rcases mem_objects_toJson h ht hp with ⟨node, hn, rfl⟩ | hr
  · exact namesParent_place h ht hn
  · rw [hr.isNode] at hnode
    cases hnode

/-- The identifiers of the objects are those of the nodes. -/
lemma filterMap_objects_id_perm (h : doc.Sound) (ht : doc.Tidy) :
    ((doc.toJson.objects none).filterMap fun p => p.members.lookup "_id").Perm
      (doc.nodes.toList.map fun node => Json.string node.id.text) := by
  have hobjects : ((doc.toJson.objects none).filterMap fun p => p.members.lookup "_id") =
      ((doc.toJson.objects none).filter isNode).filterMap fun p => p.members.lookup "_id" := by
    rw [List.filterMap_filter]
    refine List.filterMap_congr fun p _ => ?_
    unfold isNode
    cases p.members.lookup "_id" <;> rfl
  have hnodes : ((doc.nodes.toList.map doc.place).filterMap fun p => p.members.lookup "_id") =
      doc.nodes.toList.map fun node => Json.string node.id.text := by
    rw [List.filterMap_map, ← List.filterMap_eq_map]
    exact List.filterMap_congr fun node hn => lookup_id h ht hn
  rw [hobjects, ← hnodes]
  exact (filter_objects_toJson_perm h ht).filterMap _

/-! ## Texts -/

lemma whole_nodeJson (doc : Document) (levels : ℕ) (node : Node) :
    (doc.nodeJson levels node).Whole := by
  have hhead : ∀ node : Node, ∀ member ∈ node.headMembers, member.2.Whole :=
    Node.forall_headMembers .string .boolean fun id => .object (by simpa using .string id.text)
  induction levels generalizing node with
  | zero => exact .object (hhead node)
  | succ levels ih =>
    refine .object fun member hmember => ?_
    rcases List.mem_append.mp hmember with hm | hm
    · exact hhead node member hm
    · obtain ⟨slot, -, hm⟩ := List.mem_filterMap.mp hm
      have hvalues : ∀ nodes : List Node, ∀ v ∈ nodes.map (doc.nodeJson levels), v.Whole :=
        fun nodes => List.forall_mem_map.mpr fun child _ => ih child
      obtain ⟨-, ⟨-, hfirst⟩ | ⟨-, hv⟩⟩ := toMember?_eq_some_iff.mp hm
      · exact hvalues _ _ (List.mem_of_mem_head? hfirst)
      · rw [hv]
        exact .array (hvalues _)

/-- Every level of the tree takes two levels of the value: an object, and the array around it. -/
lemma depth_nodeJson_le (h : doc.Sound) (ht : doc.Tidy) : ∀ node ∈ doc.nodes.toList,
    (doc.nodeJson doc.size node).depth ≤ 2 * (4 - node.kind.level) + 2 := by
  refine h.induction_children fun node hn ih => ?_
  have hmembers : depthMembers (doc.members node) ≤ 2 * (4 - node.kind.level) + 1 := by
    refine Json.depthMembers_le_iff.mpr fun member hmember => ?_
    rcases List.mem_append.mp hmember with hm | hm
    · have hone : member.2.depth ≤ 1 := Node.forall_headMembers (P := fun v => v.depth ≤ 1)
        (fun _ => Nat.zero_le 1) (fun _ => Nat.zero_le 1) (fun _ => Nat.le_refl 1) node member hm
      omega
    obtain ⟨slot, -, hm⟩ := List.mem_filterMap.mp hm
    have hvalues : ∀ v ∈ (doc.childrenIn node.id slot).map (doc.nodeJson doc.size),
        v.depth ≤ 2 * (4 - node.kind.level) := by
      refine List.forall_mem_map.mpr fun child hc => ?_
      obtain ⟨hcmem, hparent, -⟩ := h.mem_childrenIn_iff.mp hc
      have hlevel : node.kind.level < child.kind.level := ht.level_lt child.bare
        (List.mem_map_of_mem hcmem) node.bare (List.mem_map_of_mem hn) hparent
      have hbound := child.kind.level_le_four
      have hchild := ih child (List.mem_of_mem_filter hc)
      omega
    obtain ⟨-, ⟨-, hfirst⟩ | ⟨-, hv⟩⟩ := toMember?_eq_some_iff.mp hm
    · exact Nat.le_succ_of_le (hvalues _ (List.mem_of_mem_head? hfirst))
    · rw [hv, Json.depth]
      have hitems := Json.depthItems_le_iff.mpr hvalues
      omega
  rw [h.nodeJson_eq hn, Json.depth]
  omega

/-- A document is read back from its text. -/
lemma ofText_text (h : doc.Sound) (ht : doc.Tidy) (indented : Bool) :
    Json.ofText (doc.text indented) = .ok doc.toJson := by
  have hdepth : doc.toJson.depth ≤ Json.Reading.maxDepth := by
    refine Nat.le_trans (depth_nodeJson_le h ht _ doc.rootNode_mem) ?_
    rw [Json.Reading.maxDepth]
    omega
  have hwhole : doc.toJson.Whole := whole_nodeJson doc _ _
  cases indented with
  | false => exact hwhole.ofText_write hdepth .oneLine
  | true => exact hwhole.ofText_write hdepth .manyLines

/-- The text on one line has no control characters. -/
lemma printable_text (doc : Document) : ∀ c ∈ (doc.text false).toList, Json.Printable c := by
  have htext : (doc.text false).toList = doc.toJson.compactChars := String.toList_ofList
  rw [htext]
  exact (whole_nodeJson doc _ _).printable_compactChars

end Document

end JavaUml
