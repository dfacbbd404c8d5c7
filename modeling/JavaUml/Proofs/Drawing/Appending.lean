/-
# Builders only append

Mapping a declaration and drawing relationships, a state machine or an interaction add nodes at the
end of a document and change nothing of the nodes before, but that these may get further collections
and children at the end (`Document.AppendsTo`).  This is so wherever a builder ends: with a result,
with a blank name in an annotation, without an identifier for the next node, or at a node that is
not there.

A node that is attached with its collections and fields comes to the same as a child that is added
and then gets them one after the other (`Sound.modify_of_attach`).  So the documents that builders
leave behind are again among those that calls lead to (`Reachable.attach`).
-/
import JavaUml.Proofs.Document.Reachable
import JavaUml.Proofs.Drawing.Beside
import JavaUml.Proofs.Drawing.Within

namespace JavaUml

/-! ## Nodes -/

/-- A node has become another by getting collections and children at the end. -/
structure Node.ExtendsTo (node after : Node) : Prop where
  id : after.id = node.id
  kind : after.kind = node.kind
  name : after.name = node.name
  parent : after.parent = node.parent
  slot : after.slot = node.slot
  fields : after.fields = node.fields
  slots : node.slots <+: after.slots
  children : node.children <+: after.children

namespace Node

lemma ExtendsTo.refl (node : Node) : node.ExtendsTo node :=
  ⟨rfl, rfl, rfl, rfl, rfl, rfl, List.prefix_refl _, List.prefix_refl _⟩

lemma ExtendsTo.trans {node mid after : Node} (h : node.ExtendsTo mid) (h' : mid.ExtendsTo after) :
    node.ExtendsTo after :=
  ⟨h'.id.trans h.id, h'.kind.trans h.kind, h'.name.trans h.name, h'.parent.trans h.parent,
    h'.slot.trans h.slot, h'.fields.trans h.fields, h.slots.trans h'.slots,
    h.children.trans h'.children⟩

lemma extendsTo_declareSlot (slot : Slot) (node : Node) :
    node.ExtendsTo (node.declareSlot slot) := by
  unfold declareSlot
  split
  · exact .refl node
  · exact ⟨rfl, rfl, rfl, rfl, rfl, rfl, List.prefix_append _ _, List.prefix_refl _⟩

lemma extendsTo_adopt (slot : Slot) (child : NodeId) (node : Node) :
    node.ExtendsTo (node.adopt slot child) :=
  (node.extendsTo_declareSlot slot).trans
    ⟨rfl, rfl, rfl, rfl, rfl, rfl, List.prefix_refl _, List.prefix_append _ _⟩

end Node

namespace Document

variable {doc mid after : Document}

/-! ## Attaching a node step by step -/

/-- There was an identifier for a node that was added. -/
lemma Grows.next_lt {node : Node} (g : doc.Grows after [node]) : doc.next < UInt64.size := by
  have hbounded := g.sound.bounded
  rw [g.next] at hbounded
  exact hbounded

/-- To change a node that was attached comes to the same as to attach it changed. -/
lemma Sound.modify_of_attach (h : doc.Sound) {parent id : NodeId} {slot : Slot}
    {draft : NodeDraft} (draft' : NodeDraft) (hd : draft.slots.Nodup) (hd' : draft'.slots.Nodup)
    (hattach : doc.attach parent slot draft = .ok (id, after)) (f : Node → Node)
    (hf : f { draft.node id parent slot with slots := draft.slots } =
      { draft'.node id parent slot with slots := draft'.slots }) :
    ∃ after', after.modify id f = .ok after' ∧
      doc.attach parent slot draft' = .ok (id, after') := by
  obtain ⟨i, hi, -, hafter⟩ := exists_of_attach hattach
  obtain ⟨rfl, hg, hnodes⟩ := h.nodes_of_attach hd hattach
  have hp : doc.Has parent := (index?_eq_some_iff.mp hi).1
  obtain ⟨after', hattach', -⟩ := h.attach_of_room hp hg.next_lt slot draft' hd'
  obtain ⟨i', -, -, hafter'⟩ := exists_of_attach hattach'
  obtain ⟨-, -, hnodes'⟩ := h.nodes_of_attach hd' hattach'
  refine ⟨after', ?_, hattach'⟩
  rcases after.modify_eq ⟨doc.next⟩ f with ⟨hnot, -⟩ | ⟨-, j, hj, hmodify⟩
  · exact absurd (hg.has_new Nat.zero_lt_one) hnot
  · -- the nodes before have smaller numbers, so that only the new one changes
    have hkept : ∀ node ∈ doc.nodes.toList.map (fun old =>
        if old.id = parent then old.adopt slot ⟨doc.next⟩ else old),
        (if node.id = ⟨doc.next⟩ then f node else node) = node := by
      intro node hnode
      obtain ⟨old, hold, rfl⟩ := List.mem_map.mp hnode
      have hid : (if old.id = parent then old.adopt slot ⟨doc.next⟩ else old).id = old.id := by
        split
        · exact old.adopt_id slot _
        · rfl
      have hlt : old.id.value < doc.next := (h.has_of_mem hold).2
      rw [hid, if_neg]
      intro he
      rw [he] at hlt
      exact Nat.lt_irrefl _ hlt
    have hlist : (after.modifyAt j f).nodes.toList = after'.nodes.toList := by
      rw [hg.sound.toList_modifyAt hj, hnodes, hnodes', List.map_append,
        List.map_congr_left hkept, List.map_id', List.map_singleton, ← hf]
      exact congrArg (_ ++ [·]) (if_pos rfl)
    have hids : (after.modifyAt j f).ids = after'.ids := by
      rw [hafter, hafter']
      rfl
    rw [hmodify, eq_of_nodes hids (Array.toList_inj.mp hlist)]

namespace Reachable

lemma addChild (h : doc.Reachable) {parent id : NodeId} {slot : Slot} {kind : NodeKind}
    {name : Option String} (he : doc.addChild parent slot kind name = .ok (id, after)) :
    after.Reachable := by
  have hcall := h.call (.addChild parent slot kind name)
  rwa [perform_addChild, he] at hcall

lemma declareSlot (h : doc.Reachable) {id : NodeId} {slot : Slot}
    (he : doc.declareSlot id slot = .ok after) : after.Reachable := by
  have hcall := h.call (.declareSlot id slot)
  rwa [perform_declareSlot, he] at hcall

lemma setField (h : doc.Reachable) {id : NodeId} {key : String} {value : Value}
    (he : doc.setField id key value = .ok after) : after.Reachable := by
  have hcall := h.call (.setField id key value)
  rwa [perform_setField, he] at hcall

/-- A node is attached with some collections by adding a child and declaring them in turn. -/
lemma exists_attach_slots (h : doc.Reachable) {parent : NodeId} (hp : doc.Has parent)
    (hr : doc.next < UInt64.size) (slot : Slot) (kind : NodeKind) (name : Option String)
    {slots : List Slot} (hs : slots.Nodup) :
    ∃ after, doc.attach parent slot { kind, name, slots } = .ok (⟨doc.next⟩, after) ∧
      after.Reachable := by
  induction slots using List.reverseRecOn with
  | nil =>
    obtain ⟨after, hattach, -⟩ := h.sound.attach_of_room hp hr slot { kind, name } .nil
    exact ⟨after, hattach, h.addChild hattach⟩
  | append_singleton slots last ih =>
    obtain ⟨hinit, -, hlast⟩ := List.nodup_append.mp hs
    have hnot : last ∉ slots := fun hmem => hlast last hmem last (List.mem_singleton_self _) rfl
    obtain ⟨after, hattach, hafter⟩ := ih hinit
    obtain ⟨after', hmodify, hattach'⟩ := h.sound.modify_of_attach
      { kind, name, slots := slots ++ [last] } hinit hs hattach (Node.declareSlot last)
      (if_neg hnot)
    exact ⟨after', hattach', hafter.declareSlot hmodify⟩

/-- A node is attached with some fields by setting them in turn. -/
lemma exists_attach (h : doc.Reachable) {parent : NodeId} (hp : doc.Has parent)
    (hr : doc.next < UInt64.size) (slot : Slot) (kind : NodeKind) (name : Option String)
    {slots : List Slot} (hs : slots.Nodup) {fields : FieldList}
    (hf : (fields.map Prod.fst).Nodup) :
    ∃ after, doc.attach parent slot { kind, name, slots, fields } = .ok (⟨doc.next⟩, after) ∧
      after.Reachable := by
  induction fields using List.reverseRecOn with
  | nil => exact h.exists_attach_slots hp hr slot kind name hs
  | append_singleton fields last ih =>
    obtain ⟨key, value⟩ := last
    rw [List.map_append, List.nodup_append] at hf
    obtain ⟨hinit, -, hlast⟩ := hf
    have hnone : fields.lookup key = none := by
      rw [List.lookup_eq_none_iff]
      intro field hfield
      exact bne_iff_ne.mpr fun he =>
        hlast _ (List.mem_map_of_mem hfield) key (List.mem_singleton_self _) he.symm
    obtain ⟨after, hattach, hafter⟩ := ih hinit
    obtain ⟨after', hmodify, hattach'⟩ := h.sound.modify_of_attach
      { kind, name, slots, fields := fields ++ [(key, value)] } hs hs hattach
      (Node.setField key value) (by
        rw [Node.setField, NodeDraft.node, Entries.set_eq_append hnone]
        rfl)
    exact ⟨after', hattach', hafter.setField hmodify⟩

/-- A document to which a node was attached is one that calls lead to. -/
lemma attach (h : doc.Reachable) {parent id : NodeId} {slot : Slot} {draft : NodeDraft}
    (ht : draft.Tidy) (hattach : doc.attach parent slot draft = .ok (id, after)) :
    after.Reachable := by
  obtain ⟨i, hi, -, -⟩ := exists_of_attach hattach
  obtain ⟨-, hg, -⟩ := h.sound.nodes_of_attach ht.slots hattach
  obtain ⟨after', hattach', hafter⟩ := h.exists_attach (index?_eq_some_iff.mp hi).1 hg.next_lt
    slot draft.kind draft.name ht.slots ht.keys
  rw [hattach] at hattach'
  cases hattach'
  exact hafter

end Reachable

/-! ## Documents that builders leave behind -/

/-- A document has become another by adding nodes at its end. -/
structure AppendsTo (doc after : Document) : Prop where
  /-- Every node that was there is there, with further collections and children at most. -/
  kept : ∀ id node, doc.get? id = some node →
    ∃ node', after.get? id = some node' ∧ node.ExtendsTo node'
  /-- The new nodes stand behind the others, with the identifiers that come next. -/
  added : ∃ count, after.nodes.toList.map Node.id =
    doc.nodes.toList.map Node.id ++ (List.range count).map fun i => ⟨doc.root.value + doc.size + i⟩
  check : after.check = .ok ()

/-- What a step of a builder does to a document that calls lead to: the document is again one of
these, with the same root, and its nodes are kept. -/
def Extends (doc after : Document) : Prop :=
  doc.Reachable → after.Reachable ∧ after.root = doc.root ∧ doc.size ≤ after.size ∧
    ∀ id node, doc.get? id = some node → ∃ node', after.get? id = some node' ∧ node.ExtendsTo node'

instance : IsPreorder Document Extends where
  refl doc h := ⟨h, rfl, Nat.le_refl _, fun _ node hn => ⟨node, hn, .refl node⟩⟩
  trans doc mid after h h' hdoc := by
    obtain ⟨hmid, hroot, hsize, hkept⟩ := h hdoc
    obtain ⟨hafter, hroot', hsize', hkept'⟩ := h' hmid
    refine ⟨hafter, hroot'.trans hroot, Nat.le_trans hsize hsize', fun id node hn => ?_⟩
    obtain ⟨node', hn', he⟩ := hkept id node hn
    obtain ⟨node'', hn'', he'⟩ := hkept' id node' hn'
    exact ⟨node'', hn'', he.trans he'⟩

/-- In a document of consecutive numbers, those behind the first ones are consecutive, too. -/
lemma Extends.appendsTo (h : doc.Extends after) (hdoc : doc.Reachable) : doc.AppendsTo after := by
  obtain ⟨hafter, hroot, hsize, hkept⟩ := h hdoc
  refine ⟨hkept, ⟨after.size - doc.size, ?_⟩, hafter.sound.check_eq⟩
  have hids : ∀ {d : Document}, d.Sound →
      d.nodes.toList.map Node.id = (List.range d.size).map fun i => ⟨d.root.value + i⟩ := by
    intro d hd
    rw [← hd.numbered, outline, List.map_map]
    rfl
  rw [hids hafter.sound, hids hdoc.sound, hroot]
  conv_lhs => rw [← Nat.add_sub_cancel' hsize, List.range_add, List.map_append, List.map_map]
  simp only [Function.comp_def, Nat.add_assoc]

lemma extends_of_attach {parent id : NodeId} {slot : Slot} {draft : NodeDraft} (ht : draft.Tidy)
    (hattach : doc.attach parent slot draft = .ok (id, after)) : doc.Extends after := by
  intro h
  obtain ⟨-, hg, hnodes⟩ := h.sound.nodes_of_attach ht.slots hattach
  refine ⟨h.attach ht hattach, hg.root, ?_, fun id node hn => ?_⟩
  · rw [hg.size]
    exact Nat.le_add_right _ _
  · obtain ⟨hmem, rfl⟩ := h.sound.get?_eq_some_iff.mp hn
    have hmem' := List.mem_append_left
      [{ draft.node ⟨doc.next⟩ parent slot with slots := draft.slots }]
      (List.mem_map_of_mem (f := fun old =>
        if old.id = parent then old.adopt slot ⟨doc.next⟩ else old) hmem)
    rw [← hnodes] at hmem'
    have hextends : node.ExtendsTo
        (if node.id = parent then node.adopt slot ⟨doc.next⟩ else node) := by
      split
      · exact node.extendsTo_adopt slot _
      · exact .refl node
    exact ⟨_, hg.sound.get?_eq_some_iff.mpr ⟨hmem', hextends.id⟩, hextends⟩

lemma extends_of_declareSlot {id : NodeId} {slot : Slot}
    (hdeclare : doc.declareSlot id slot = .ok after) : doc.Extends after := by
  intro h
  have hafter := h.declareSlot hdeclare
  obtain ⟨i, hi, rfl⟩ := exists_of_declareSlot hdeclare
  have hlist := h.sound.toList_modifyAt hi (Node.declareSlot slot)
  have hroot : (doc.modifyAt i (Node.declareSlot slot)).root = doc.root :=
    root_modifyAt i fun node => (node.extendsTo_declareSlot slot).id
  refine ⟨hafter, hroot, ?_, fun other node hn => ?_⟩
  · simp [size, modifyAt]
  · obtain ⟨hmem, rfl⟩ := h.sound.get?_eq_some_iff.mp hn
    have hmem' := List.mem_map_of_mem (f := fun old : Node =>
      if old.id = id then old.declareSlot slot else old) hmem
    rw [← hlist] at hmem'
    have hextends : node.ExtendsTo (if node.id = id then node.declareSlot slot else node) := by
      split
      · exact node.extendsTo_declareSlot slot
      · exact .refl node
    exact ⟨_, hafter.sound.get?_eq_some_iff.mpr ⟨hmem', hextends.id⟩, hextends⟩

end Document

/-- Each step of a builder extends the document, or fails and leaves it as it is. -/
lemma permits_extends : Permits Document.Extends fun _ => True where
  attach parent slot draft ht :=
    .step (fun _ _ _ h => Document.extends_of_attach ht h) fun _ _ _ => trivial
  declareSlot id slot := by
    refine .step (fun doc _ after h => ?_) fun _ _ _ => trivial
    cases hd : doc.declareSlot id slot with
    | ok doc' =>
      rw [hd] at h
      cases h
      exact Document.extends_of_declareSlot hd
    | error e =>
      rw [hd] at h
      cases h

/-! ## Stores -/

/-- A class model has become another by adding to its document and to the lists of its store. -/
def ClassModel.Extends (model after : ClassModel) : Prop :=
  model.document.Extends after.document ∧ model.classes.classes <+: after.classes.classes ∧
    model.classes.relationships <+: after.classes.relationships

instance : IsPreorder ClassModel ClassModel.Extends where
  refl _ := ⟨refl_of Document.Extends _, List.prefix_refl _, List.prefix_refl _⟩
  trans _ _ _ h h' := ⟨trans_of Document.Extends h.1 h'.1, h.2.1.trans h'.2.1, h.2.2.trans h'.2.2⟩

lemma Mapping.within_extends (owner : NodeId) (d : Declaration) :
    Within ClassModel.Extends (fun _ => True) (mapDeclaration owner d) := by
  refine within_mapDeclaration permits_extends (fun _ _ h => ?_) (fun _ _ => ?_) (fun _ _ => ?_)
    (fun _ => trivial) owner d
  · exact ⟨h, List.prefix_refl _, List.prefix_refl _⟩
  · exact ⟨refl_of Document.Extends _, List.prefix_append _ _, List.prefix_refl _⟩
  · exact ⟨refl_of Document.Extends _, List.prefix_refl _, List.prefix_append _ _⟩

/-- Without the node that is to own it, a declaration is not mapped at all. -/
lemma Mapping.run_of_unknown_owner (model : ClassModel) {owner : NodeId}
    (h : model.document.get? owner = none) (hs : model.document.Sound) (d : Declaration) :
    (mapDeclaration owner d).run model = (.error (.unknownNode owner), model) := by
  have hattach : Attempt.run (Drawing.attach owner .ownedElements d.draft) model.document =
      (.error (.unknownNode owner), model.document) :=
    Attempt.run_step_of_error (Document.attach_of_not_has (hs.get?_eq_none_iff.mp h) _ _)
  have hdraw : Attempt.run (draw (Drawing.attach owner .ownedElements d.draft)) model =
      (.error (.unknownNode owner), model) := by
    show ((Attempt.run (Drawing.attach owner .ownedElements d.draft) model.document).1,
      { model with document :=
        (Attempt.run (Drawing.attach owner .ownedElements d.draft) model.document).2 }) = _
    rw [hattach]
  exact Attempt.run_bind_of_error hdraw _

/-! ## All builders -/

/-- Whatever they are given and wherever they end, the builders only append to a document that calls
have led to.  A declaration is mapped in a store by appending to its classes and relationships, and
not at all if its owner is not there. -/
theorem Document.Reachable.builders_append {doc : Document} (h : doc.Reachable) :
    (∀ owner d classes outcome after,
      (Mapping.mapDeclaration owner d).run ⟨doc, classes⟩ = (outcome, after) →
      after.document.Reachable ∧ doc.AppendsTo after.document ∧
        classes.classes <+: after.classes.classes ∧
        classes.relationships <+: after.classes.relationships ∧
        (doc.get? owner = none → outcome = .error (.unknownNode owner) ∧ after = ⟨doc, classes⟩)) ∧
    (∀ reporting classes outcome after,
      (Relationship.drawAll reporting classes).run doc = (outcome, after) →
      after.Reachable ∧ doc.AppendsTo after) ∧
    (∀ name states outcome after,
      (StateMachine.draw name states).run doc = (outcome, after) →
      after.Reachable ∧ doc.AppendsTo after) ∧
    ∀ names participants outcome after,
      (Interaction.draw names participants).run doc = (outcome, after) →
      after.Reachable ∧ doc.AppendsTo after := by
  have hdrawing : ∀ {α : Type} {drawing : Drawing α},
      Within Document.Extends (fun _ => True) drawing →
        ∀ outcome after, drawing.run doc = (outcome, after) →
          after.Reachable ∧ doc.AppendsTo after := by
    intro α drawing hwithin outcome after hrun
    have hextends := (hwithin doc).1
    rw [← Attempt.run_drawing, hrun] at hextends
    exact ⟨(hextends h).1, hextends.appendsTo h⟩
  refine ⟨fun owner d classes outcome after hrun => ?_, fun reporting classes => ?_,
    fun name states => ?_, fun names participants => ?_⟩
  · have hextends := (Mapping.within_extends owner d ⟨doc, classes⟩).1
    rw [← Attempt.run_mapping, hrun] at hextends
    obtain ⟨hdoc, hclasses, hrelationships⟩ := hextends
    refine ⟨(hdoc h).1, hdoc.appendsTo h, hclasses, hrelationships, fun howner => ?_⟩
    rw [Mapping.run_of_unknown_owner ⟨doc, classes⟩ howner h.sound d] at hrun
    exact Prod.mk.inj hrun.symm
  · exact hdrawing (Relationship.within_drawAll permits_extends reporting classes)
  · exact hdrawing (StateMachine.within_draw permits_extends name fun _ _ _ => trivial)
  · exact hdrawing (Interaction.within_draw permits_extends names fun _ _ _ => trivial)

/-- A class gets its node and is stored, with an operation, before there is no identifier for the
result.  A store whose names stand for a node that is not there cannot be drawn. -/
theorem Document.Reachable.builders_append_of_no_identifiers :
    let d : Declaration :=
      { kind := .classType, name := "A"
        members := [.method { name := "m", returnType := .named "int" }]
        parents := ["B"] }
    let strange : ClassStore :=
      { bindings := (NameTable.empty.bind "A" ⟨7⟩).bind "B" ⟨8⟩
        relationships := [⟨.generalization, "A", "B"⟩] }
    ∃ doc : Document, doc.Reachable ∧
      (let mapped := (Mapping.mapDeclaration ⟨0xFFFFFFFFFFFFFFFD⟩ d).run ⟨doc, strange⟩
       mapped.1 = .error (.idsExhausted 0xFFFFFFFFFFFFFFFD) ∧
         doc.AppendsTo mapped.2.document ∧ mapped.2.document.size = 3 ∧
         mapped.2.classes.classes = [⟨"A", .classType, ⟨0xFFFFFFFFFFFFFFFE⟩⟩]) ∧
      (Mapping.mapDeclaration ⟨7⟩ d).run ⟨doc, strange⟩ =
        (.error (.unknownNode ⟨7⟩), ⟨doc, strange⟩) ∧
      (let drawn := (Relationship.drawAll true strange).run doc
       drawn.1 = .error (.unknownNode ⟨7⟩) ∧ doc.AppendsTo drawn.2) := by
  intro d strange
  have h : Document.Reachable _ :=
    .new (show Document.new (.new 0xFFFFFFFFFFFFFFFD) .project "p" = .ok _ from rfl)
  obtain ⟨hmapping, hrelationships, -, -⟩ := h.builders_append
  obtain ⟨-, happends, -, -, -⟩ := hmapping ⟨0xFFFFFFFFFFFFFFFD⟩ d strange _ _ (Prod.eta _).symm
  obtain ⟨-, -, -, -, hunknown⟩ := hmapping ⟨7⟩ d strange _ _ (Prod.eta _).symm
  obtain ⟨houtcome, hafter⟩ := hunknown rfl
  obtain ⟨-, hdrawn⟩ := hrelationships true strange _ _ (Prod.eta _).symm
  refine ⟨_, h, ⟨?_, happends, ?_, ?_⟩, Prod.ext houtcome hafter, ?_, hdrawn⟩
  all_goals decide +kernel

end JavaUml
