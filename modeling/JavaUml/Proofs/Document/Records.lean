/-
# Reading the nodes back

What the value of a document says about a node is a record: its type, its identifier, its name, its
place, its fields and its children.  A record is read off an object and the place where it stands
(`Record.ofPlace?`), so that the records of a value need nothing but the value (`Record.all`).  The
records of a document that was written are those of its nodes (`Document.all_toJson_perm`).
-/
import JavaUml.Proofs.Document.Json

namespace JavaUml

open Json (Members Place)

/-! ## Parts of a record -/

/-- The identifier with a text of decimal digits. -/
def NodeId.ofText? (s : String) : Option NodeId :=
  if s ≠ "" ∧ s.toList.all Char.isDigit then some ⟨Json.digitsValue s.toList⟩ else none

lemma NodeId.ofText?_text (id : NodeId) : ofText? id.text = some id := by
  have hlist : id.text.toList = Nat.toDigits 10 id.value := Json.toList_toString id.value
  have hne : id.text ≠ "" := by
    intro he
    rw [he] at hlist
    exact Nat.toDigits_ne_nil hlist.symm
  have hdigits : id.text.toList.all Char.isDigit = true := by
    rw [hlist, List.all_eq_true]
    exact fun c hc => Json.isDigit_of_mem_toDigits hc
  rw [ofText?, if_pos ⟨hne, hdigits⟩, hlist, Json.digitsValue_toDigits]

/-- The identifier that a value refers to. -/
def NodeId.ofReference? : Json → Option NodeId
  | .object [("$ref", .string s)] => ofText? s
  | _ => none

lemma NodeId.ofReference?_toJson (id : NodeId) : ofReference? id.toJson = some id :=
  id.ofText?_text

/-- The value of a field. -/
def Value.ofJson? : Json → Option Value
  | .string s => some (.text s)
  | .boolean b => some (.flag b)
  | v => (NodeId.ofReference? v).map .reference

/-- A value as it is written: a name that was not replaced is a text. -/
def Value.written : Value → Value
  | .symbol name => .text name
  | value => value

lemma Value.ofJson?_toJson (value : Value) : ofJson? value.toJson = some value.written := by
  cases value with
  | text s => rfl
  | flag b => rfl
  | reference id =>
    exact congrArg (Option.map Value.reference) id.ofReference?_toJson
  | symbol name => rfl

/-- The identifier that an object says that it has. -/
def NodeId.ofMembers? (members : Members) : Option NodeId :=
  (members.lookup "_id").bind fun v => v.text?.bind ofText?

/-- The identifiers of the objects under a key, of one alone or of several in an array. -/
def NodeId.listUnder (members : Members) (key : String) : List NodeId :=
  ((members.lookup key).toList.flatMap Json.items).filterMap fun v => v.members?.bind ofMembers?

/-! ## Records -/

/-- What a value says about a node. -/
structure Record where
  kind : NodeKind
  id : NodeId
  name : Option String
  parent : Option NodeId
  slot : Option Slot
  fields : FieldList
  /-- The children in each collection, in order. -/
  children : Slot → List NodeId

namespace Record

/-- The fields of an object: the members whose keys have no other meaning. -/
def fieldsOf (members : Members) : FieldList :=
  members.filterMap fun member =>
    if member.1 ∈ reservedKeys then none
    else (Value.ofJson? member.2).map fun value => (member.1, value)

/-- The record of an object that is that of a node. -/
def ofPlace? (p : Place) : Option Record := do
  let kind ← ((p.members.lookup "_type").bind Json.text?).bind NodeKind.ofTag?
  let id ← NodeId.ofMembers? p.members
  return {
    kind, id
    name := (p.members.lookup "name").bind Json.text?
    parent := (p.members.lookup "_parent").bind NodeId.ofReference?
    slot := p.around.bind fun outer => Slot.ofKey? outer.2
    fields := fieldsOf p.members
    children := fun slot => NodeId.listUnder p.members slot.key }

/-- The records of the objects in a value. -/
def all (v : Json) : List Record := (v.objects none).filterMap ofPlace?

end Record

namespace Document

variable {doc : Document}

/-- The record of a node.  Its children are in the order in which they were made. -/
def record (doc : Document) (node : Node) : Record where
  kind := node.kind
  id := node.id
  name := node.name
  parent := node.parent
  slot := node.slot
  fields := node.fields.map fun field => (field.1, field.2.written)
  children := fun slot => (doc.outline.filter fun child =>
    decide (child.parent = some node.id) && child.slot == some slot).map Node.id

section Records

variable (h : doc.Sound) (ht : doc.Tidy) {node : Node} (hn : node ∈ doc.nodes.toList)

include h ht hn

lemma ofMembers?_members : NodeId.ofMembers? (doc.members node) = some node.id := by
  rw [NodeId.ofMembers?, lookup_id h ht hn]
  exact node.id.ofText?_text

omit h in
/-- The fields of a node are read back in order. -/
lemma fieldsOf_members : Record.fieldsOf (doc.members node) =
    node.fields.map fun field => (field.1, field.2.written) := by
  have hreserved : ∀ others : Members, (∀ member ∈ others, member.1 ∈ reservedKeys) →
      Record.fieldsOf others = [] := fun others hothers =>
    List.filterMap_eq_nil_iff.mpr fun member hm => if_pos (hothers member hm)
  have hfields : Record.fieldsOf (node.fields.map fun field => (field.1, field.2.toJson)) =
      node.fields.map fun field => (field.1, field.2.written) := by
    rw [Record.fieldsOf, List.filterMap_map, ← List.filterMap_eq_map]
    refine List.filterMap_congr fun field hf => ?_
    have hfree := ht.free_keys node.bare (List.mem_map_of_mem hn) field hf
    simp [hfree, Value.ofJson?_toJson]
  have hhead : ∀ member ∈ [("_type", Json.string node.kind.tag), ("_id", .string node.id.text)] ++
      (node.parent.map fun parent => ("_parent", parent.toJson)).toList ++
      (node.name.map fun name => ("name", Json.string name)).toList, member.1 ∈ reservedKeys := by
    intro member hm
    simp only [List.mem_append, List.mem_cons, List.not_mem_nil, or_false, Option.mem_toList,
      Option.map_eq_some_iff] at hm
    rcases hm with ((rfl | rfl) | ⟨parent, -, rfl⟩) | ⟨name, -, rfl⟩
    · exact (by decide : "_type" ∈ reservedKeys)
    · exact (by decide : "_id" ∈ reservedKeys)
    · exact (by decide : "_parent" ∈ reservedKeys)
    · exact (by decide : "name" ∈ reservedKeys)
  have hslots : ∀ member ∈ node.slots.filterMap fun slot =>
      slot.toMember? ((doc.childrenIn node.id slot).map (doc.nodeJson doc.size)),
      member.1 ∈ reservedKeys := by
    intro member hm
    obtain ⟨slot, -, hm⟩ := List.mem_filterMap.mp hm
    exact (toMember?_eq_some_iff.mp hm).1 ▸ slot.key_mem_reservedKeys
  have happend : ∀ a b : Members,
      Record.fieldsOf (a ++ b) = Record.fieldsOf a ++ Record.fieldsOf b :=
    fun _ _ => List.filterMap_append
  rw [members, Node.headMembers, happend, happend, hreserved _ hhead, hfields, hreserved _ hslots,
    List.nil_append, List.append_nil]

/-- Under the key of a collection stand the values of the children in it. -/
lemma flatMap_items_lookup (slot : Slot) :
    ((doc.members node).lookup slot.key).toList.flatMap Json.items =
      (doc.childrenIn node.id slot).map (doc.nodeJson doc.size) := by
  cases hl : (doc.members node).lookup slot.key with
  | some v =>
    obtain ⟨-, hm⟩ := (lookup_slot h ht hn).mp hl
    rcases (toMember?_eq_some_iff.mp hm).2 with ⟨hs, hfirst⟩ | ⟨-, rfl⟩
    · -- the one child is written as an object, which is no array
      have hlength := length_childrenIn_le h ht node.id hs
      obtain ⟨child, hc⟩ : ∃ child, doc.childrenIn node.id slot = [child] := by
        have hpos := List.length_pos_of_mem (List.mem_of_mem_head? hfirst)
        rw [List.length_map] at hpos
        exact List.length_eq_one_iff.mp (Nat.le_antisymm hlength hpos)
      have hcmem := (h.mem_childrenIn_iff.mp (hc ▸ List.mem_singleton_self child)).1
      rw [hc] at hfirst
      rw [← Option.some.inj hfirst, hc, h.nodeJson_eq hcmem, List.map_singleton,
        h.nodeJson_eq hcmem]
      rfl
    · exact List.flatMap_singleton _ _
  | none =>
    -- a collection that is not written has no children
    suffices doc.childrenIn node.id slot = [] by
      rw [this]
      rfl
    refine List.eq_nil_iff_forall_not_mem.mpr fun child hc => ?_
    obtain ⟨hcmem, hparent, hslot⟩ := h.mem_childrenIn_iff.mp hc
    obtain ⟨other, ho, he⟩ := h.declared node hn child.bare (List.mem_map_of_mem hcmem) hparent
    obtain rfl := Option.some.inj (hslot.symm.trans he)
    obtain ⟨v, hv⟩ := exists_toMember? slot
      (List.ne_nil_of_mem (List.mem_map_of_mem (f := doc.nodeJson doc.size) hc))
    rw [(lookup_slot h ht hn).mpr ⟨ho, hv⟩] at hl
    cases hl

/-- The children in a collection are read back in order. -/
lemma listUnder_members (slot : Slot) : NodeId.listUnder (doc.members node) slot.key =
    (doc.childrenIn node.id slot).map Node.id := by
  rw [NodeId.listUnder, flatMap_items_lookup h ht hn, List.filterMap_map, ← List.filterMap_eq_map]
  refine List.filterMap_congr fun child hc => ?_
  have hcmem := (h.mem_childrenIn_iff.mp hc).1
  rw [Function.comp_apply, h.nodeJson_eq hcmem]
  exact ofMembers?_members h ht hcmem

/-- An object stands in the collection of its node. -/
lemma around_place :
    ((doc.place node).around.bind fun outer => Slot.ofKey? outer.2) = node.slot := by
  rcases h.placed_of_mem hn with ⟨-, hparent⟩ | ⟨parent, slot, hparent, hslot, -, -⟩
  · have hslot : node.slot = none := ht.top node.bare (List.mem_map_of_mem hn) hparent
    simp [place, hparent, hslot]
  · obtain ⟨owner, ho, rfl⟩ := h.exists_of_has (h.has_parent hn hparent)
    rw [place_child h ho (h.mem_childrenIn_iff.mpr ⟨hn, hparent, hslot⟩), hslot]
    exact slot.ofKey?_key

/-- The object of a node has the record of the node. -/
lemma ofPlace?_place : Record.ofPlace? (doc.place node) = some (doc.record node) := by
  have hkind : (((doc.members node).lookup "_type").bind Json.text?).bind NodeKind.ofTag? =
      some node.kind := by
    rw [lookup_type h ht hn]
    exact node.kind.ofTag?_tag
  have hname : ((doc.members node).lookup "name").bind Json.text? = node.name := by
    rw [lookup_name h ht hn]
    cases node.name <;> rfl
  have hparent : ((doc.members node).lookup "_parent").bind NodeId.ofReference? = node.parent := by
    rw [lookup_parent h ht hn]
    cases node.parent with
    | none => rfl
    | some parent => exact parent.ofReference?_toJson
  have hchildren : (fun slot : Slot => NodeId.listUnder (doc.members node) slot.key) =
      (doc.record node).children := by
    funext slot
    have hbare := congrArg (List.map Node.id) (h.map_bare_childrenIn node.id slot)
    rw [List.map_map] at hbare
    exact (listUnder_members h ht hn slot).trans hbare
  have hmembers : (doc.place node).members = doc.members node := rfl
  rw [Record.ofPlace?, around_place h ht hn, hmembers, hkind, ofMembers?_members h ht hn, hname,
    hparent, fieldsOf_members ht hn, hchildren]
  rfl

end Records

/-- A reference has no record. -/
lemma IsReference.ofPlace?_eq_none {p : Place} (hp : IsReference p) :
    Record.ofPlace? p = none := by
  obtain ⟨id, hid⟩ := hp
  rw [Record.ofPlace?, hid]
  rfl

/-- The records in the value of a document are those of its nodes. -/
lemma all_toJson_perm (h : doc.Sound) (ht : doc.Tidy) :
    (Record.all doc.toJson).Perm (doc.nodes.toList.map doc.record) := by
  have hnodes : Record.all doc.toJson =
      ((doc.toJson.objects none).filter isNode).filterMap Record.ofPlace? := by
    rw [Record.all, List.filterMap_filter]
    refine List.filterMap_congr fun p hp => ?_
    rcases mem_objects_toJson h ht hp with ⟨node, hn, rfl⟩ | hr
    · rw [if_pos (show isNode (doc.place node) = true from isNode_members h ht hn _)]
    · rw [hr.ofPlace?_eq_none, ite_self]
  have hrecords : (doc.nodes.toList.map doc.place).filterMap Record.ofPlace? =
      doc.nodes.toList.map doc.record := by
    rw [List.filterMap_map, ← List.filterMap_eq_map]
    exact List.filterMap_congr fun node hn => ofPlace?_place h ht hn
  rw [hnodes, ← hrecords]
  exact (filter_objects_toJson_perm h ht).filterMap _

end Document

end JavaUml
