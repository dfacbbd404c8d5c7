/-
# Drawing at another seed

A move takes the identifiers that begin at a seed to those that begin at another one, and gives the
nodes of some types other names (`Move`).  If two documents differ by a move, then this is so after
a step of a drawing in each of them, if the steps differ by the move as well: where the one attaches
a node below a parent, the other attaches the moved node below the moved parent (`Agree.attach`).
-/
import JavaUml.Proofs.Document.Changes
import JavaUml.Proofs.Document.Relabel
import JavaUml.Proofs.Drawing.Agree

namespace JavaUml

/-! ## Moves -/

/-- A change of the seed, and of the names of nodes of some types. -/
structure Move where
  source : UInt64
  target : UInt64
  name? : NodeKind → Option String

namespace Move

/-- The identifier that is as far from the new seed as an identifier is from the old one. -/
def shift (μ : Move) (id : NodeId) : NodeId :=
  ⟨μ.target.toNat + (id.value - μ.source.toNat)⟩

/-- What a node starts with after a move. -/
def draft (μ : Move) (draft : NodeDraft) : NodeDraft :=
  { draft.relabel μ.shift with name := (μ.name? draft.kind).or draft.name }

/-- A node after a move. -/
def node (μ : Move) (node : Node) : Node :=
  { node.relabel μ.shift with name := (μ.name? node.kind).or node.name }

/-- A document after a move. -/
def document (μ : Move) (doc : Document) : Document where
  ids := { doc.ids with seed := μ.target }
  nodes := doc.nodes.map μ.node
  nonempty := by simpa using doc.nonempty

/-- A node that has no references, and no name that changes, starts with the same after a move. -/
lemma draft_eq_self {μ : Move} {draft : NodeDraft} (hname : μ.name? draft.kind = none)
    (hfields : ∀ field ∈ draft.fields, ∀ id, field.2 ≠ .reference id) : μ.draft draft = draft := by
  rw [Move.draft, NodeDraft.relabel, FieldList.relabel_eq_self hfields, hname]
  rfl

variable {μ : Move}

lemma node_declareSlot (slot : Slot) (node : Node) :
    μ.node (node.declareSlot slot) = (μ.node node).declareSlot slot := by
  unfold Node.declareSlot
  by_cases h : slot ∈ node.slots
  · rw [if_pos h, if_pos (show slot ∈ (μ.node node).slots from h)]
  · rw [if_neg h, if_neg (show slot ∉ (μ.node node).slots from h)]
    rfl

lemma node_adopt (slot : Slot) (child : NodeId) (node : Node) :
    μ.node (node.adopt slot child) = (μ.node node).adopt slot (μ.shift child) := by
  unfold Node.adopt
  simp only [← node_declareSlot]
  simp [Move.node, Node.relabel]

/-- Names are replaced in a moved node as in the node itself. -/
lemma resolve_node {table table' : NameTable} (h : table.Relabels μ.shift table') (node : Node) :
    (μ.node node).resolve table' = μ.node (node.resolve table) := by
  simp [Node.resolve, Move.node, Node.relabel, FieldList.relabel, Value.resolve_relabel h]

end Move

/-! ## Documents -/

/-- A document is moved to another one. -/
structure Document.MovesTo (μ : Move) (doc doc' : Document) : Prop where
  eq : doc' = μ.document doc
  seed : doc.ids.seed = μ.source
  root : doc.root.value = μ.source.toNat

namespace Document

variable {μ : Move} {doc doc' : Document}

lemma root_modifyAt (i : ℕ) {f : Node → Node} (hf : ∀ node : Node, (f node).id = node.id) :
    (doc.modifyAt i f).root = doc.root := by
  have hpos := doc.nonempty
  simp only [root, rootNode, modifyAt, Array.getElem_modify]
  split
  · exact hf _
  · rfl

lemma root_push (ids : IdAllocator) (node : Node) : (doc.push ids node).root = doc.root := by
  have hpos := doc.nonempty
  simp only [root, rootNode, push, Array.getElem_push_lt hpos]

/-- What it takes to attach a node, and what comes out. -/
lemma exists_of_attach {parent id : NodeId} {slot : Slot} {draft : NodeDraft}
    (h : doc.attach parent slot draft = .ok (id, doc')) :
    ∃ i, doc.index? parent = some i ∧ id = ⟨doc.ids.seed.toNat + doc.ids.used⟩ ∧
      doc' = (doc.push { doc.ids with used := doc.ids.used + 1 }
        { draft.node id parent slot with slots := draft.slots }).modifyAt i
          (Node.adopt slot id) := by
  unfold attach at h
  cases hi : doc.index? parent with
  | none =>
    rw [hi] at h
    cases h
  | some i =>
    rw [hi] at h
    unfold IdAllocator.next? at h
    by_cases hroom : doc.ids.seed.toNat + doc.ids.used < UInt64.size
    · rw [if_pos hroom] at h
      cases h
      exact ⟨i, rfl, rfl, rfl⟩
    · rw [if_neg hroom] at h
      cases h

lemma exists_of_declareSlot {id : NodeId} {slot : Slot} (h : doc.declareSlot id slot = .ok doc') :
    ∃ i, doc.index? id = some i ∧ doc' = doc.modifyAt i (Node.declareSlot slot) := by
  unfold declareSlot modify at h
  cases hi : doc.index? id with
  | none =>
    rw [hi] at h
    cases h
  | some i =>
    rw [hi] at h
    cases h
    exact ⟨i, rfl, rfl⟩

namespace MovesTo

lemma root_eq (h : doc.MovesTo μ doc') : doc'.root = μ.shift doc.root := by
  have hpos := doc.nonempty
  rw [h.eq]
  simp only [Document.root, Document.rootNode, Move.document, Array.getElem_map]
  rfl

lemma index? (h : doc.MovesTo μ doc') {id : NodeId} {i : ℕ} (hi : doc.index? id = some i) :
    doc'.index? (μ.shift id) = some i := by
  obtain ⟨⟨hle, hlt⟩, rfl⟩ := index?_eq_some_iff.mp hi
  have hroot := h.root
  have hroot' : doc'.root.value = μ.target.toNat := by
    rw [h.root_eq, Move.shift, hroot, Nat.sub_self, Nat.add_zero]
  have hsize : doc'.size = doc.size := by
    rw [h.eq]
    exact Array.size_map
  rw [next] at hlt
  refine index?_eq_some_iff.mpr ⟨⟨?_, ?_⟩, ?_⟩
  · rw [hroot', Move.shift]
    exact Nat.le_add_right _ _
  · rw [next, hroot', hsize, Move.shift]
    simp only
    omega
  · rw [hroot', Move.shift]
    simp only
    omega

/-- A change of a node in its place is a change of the moved node. -/
lemma modifyAt (h : doc.MovesTo μ doc') (i : ℕ) {f f' : Node → Node}
    (hid : ∀ node : Node, (f node).id = node.id)
    (hf : ∀ node : Node, f' (μ.node node) = μ.node (f node)) :
    (doc.modifyAt i f).MovesTo μ (doc'.modifyAt i f') := by
  refine ⟨eq_of_nodes ?_ ?_, h.seed, ?_⟩
  · rw [h.eq]
    rfl
  · rw [h.eq]
    simp only [Document.modifyAt, Move.document]
    refine Array.ext (by simp) fun j hj hj' => ?_
    simp only [Array.getElem_modify, Array.getElem_map]
    split
    · exact hf _
    · rfl
  · rw [root_modifyAt i hid]
    exact h.root

/-- A new node is moved to a new node. -/
lemma push (h : doc.MovesTo μ doc') (ids : IdAllocator) (hseed : ids.seed = μ.source)
    (node : Node) :
    (doc.push ids node).MovesTo μ (doc'.push { ids with seed := μ.target } (μ.node node)) := by
  refine ⟨eq_of_nodes rfl ?_, hseed, ?_⟩
  · rw [h.eq]
    simp [Document.push, Move.document]
  · rw [root_push]
    exact h.root

end MovesTo

end Document

/-! ## The steps of a drawing -/

section Steps

variable {μ : Move}

lemma Agree.root : Agree (Document.MovesTo μ) (fun id id' => id' = μ.shift id) Drawing.root
    Drawing.root := by
  intro doc doc' after after' id id' h hrun hrun'
  cases hrun
  cases hrun'
  exact ⟨h, h.root_eq⟩

lemma Agree.attach (parent : NodeId) (slot : Slot) (draft : NodeDraft) :
    Agree (Document.MovesTo μ) (fun id id' => id' = μ.shift id) (Drawing.attach parent slot draft)
      (Drawing.attach (μ.shift parent) slot (μ.draft draft)) := by
  intro doc doc' after after' id id' h hrun hrun'
  obtain ⟨i, hi, rfl, rfl⟩ := Document.exists_of_attach (Attempt.eq_ok_of_run_step hrun)
  obtain ⟨i', hi', rfl, rfl⟩ := Document.exists_of_attach (Attempt.eq_ok_of_run_step hrun')
  obtain rfl : i = i' := Option.some.inj ((h.index? hi).symm.trans hi')
  obtain rfl := h.eq
  have hid : (⟨μ.target.toNat + doc.ids.used⟩ : NodeId) =
      μ.shift ⟨doc.ids.seed.toNat + doc.ids.used⟩ := by
    rw [Move.shift, h.seed, Nat.add_sub_cancel_left]
  refine ⟨?_, hid⟩
  have hnode : μ.node { draft.node ⟨doc.ids.seed.toNat + doc.ids.used⟩ parent slot with
        slots := draft.slots } =
      { (μ.draft draft).node ⟨μ.target.toNat + doc.ids.used⟩ (μ.shift parent) slot with
        slots := draft.slots } := by
    rw [hid]
    rfl
  have hpush := h.push { doc.ids with used := doc.ids.used + 1 } h.seed
    { draft.node ⟨doc.ids.seed.toNat + doc.ids.used⟩ parent slot with slots := draft.slots }
  have hadopt := hpush.modifyAt i (fun node => node.adopt_id slot _)
    fun node => (Move.node_adopt slot ⟨doc.ids.seed.toNat + doc.ids.used⟩ node).symm
  rw [← hid, hnode] at hadopt
  exact hadopt

lemma Agree.declareSlot (id : NodeId) (slot : Slot) :
    Agree (Document.MovesTo μ) Eq (Drawing.declareSlot id slot)
      (Drawing.declareSlot (μ.shift id) slot) := by
  intro doc doc' after after' a a' h hrun hrun'
  have hafter := Document.exists_of_declareSlot (Attempt.eq_ok_of_run_declareSlot hrun)
  have hafter' := Document.exists_of_declareSlot (Attempt.eq_ok_of_run_declareSlot hrun')
  obtain ⟨i, hi, rfl⟩ := hafter
  obtain ⟨i', hi', rfl⟩ := hafter'
  obtain rfl : i = i' := Option.some.inj ((h.index? hi).symm.trans hi')
  refine ⟨h.modifyAt i (fun node => (Node.keeps_declareSlot node slot).id) fun node => ?_, rfl⟩
  exact (Move.node_declareSlot slot node).symm

/-! ## Edges -/

section Edges

variable {S : Document → Document → Prop} {f : NodeId → NodeId} {table table' : NameTable}

lemma NameTable.Relabels.empty : NameTable.empty.Relabels f .empty := fun _ => rfl

lemma NameTable.Relabels.bind (h : table.Relabels f table') (name : String) (id : NodeId) :
    (table.bind name id).Relabels f (table'.bind name (f id)) := by
  intro other
  by_cases hother : other = name
  · subst hother
    simp
  · rw [NameTable.resolve_bind_of_ne _ _ hother, NameTable.resolve_bind_of_ne _ _ hother, h other]

/-- A name is looked up in related tables, or bound in both. -/
lemma Agree.getOrBind (h : table.Relabels f table') (name : String)
    {create create' : Drawing NodeId}
    (hcreate : Agree S (fun id id' => id' = f id) create create') :
    Agree S (fun found found' => found'.1 = f found.1 ∧ found.2.Relabels f found'.2)
      (table.getOrBind name create) (table'.getOrBind name create') := by
  unfold NameTable.getOrBind
  rw [h name]
  cases table.resolve name with
  | some id => exact .pure ⟨rfl, h⟩
  | none =>
    refine hcreate.bind ?_
    rintro id _ rfl
    exact .pure ⟨rfl, h.bind name id⟩

/-- Edges are drawn alike if their ends and the edges between these are. -/
lemma Agree.edges {vertex vertex' : String → Drawing NodeId}
    {link link' : NodeId → NodeId → String → Drawing Unit}
    (hvertex : ∀ name, Agree S (fun id id' => id' = f id) (vertex name) (vertex' name))
    (hlink : ∀ a b label, Agree S Eq (link a b label) (link' (f a) (f b) label))
    (es : List Edge) (h : table.Relabels f table') :
    Agree S (NameTable.Relabels f) (Drawing.edges vertex link table es)
      (Drawing.edges vertex' link' table' es) := by
  induction es generalizing table table' with
  | nil => exact .pure h
  | cons e es ih =>
    refine Agree.bind (R := NameTable.Relabels f) ?_ fun _ _ h' => ih h'
    refine (Agree.getOrBind h e.source (hvertex e.source)).bind ?_
    rintro ⟨source, first⟩ ⟨_, first'⟩ ⟨rfl, hfirst⟩
    refine (Agree.getOrBind hfirst e.target (hvertex e.target)).bind ?_
    rintro ⟨target, second⟩ ⟨_, second'⟩ ⟨rfl, hsecond⟩
    exact (hlink source target e.label).bind fun _ _ _ => .pure hsecond

end Edges

/-! ## Class models -/

/-- A class model is moved to another one: its document, and what its names are bound to. -/
structure ClassModel.MovesTo (μ : Move) (model model' : ClassModel) : Prop where
  document : model.document.MovesTo μ model'.document
  bindings : model.classes.bindings.Relabels μ.shift model'.classes.bindings
  relationships : model'.classes.relationships = model.classes.relationships

lemma Agree.draw {α α' : Type} {R : α → α' → Prop} {drawing : Drawing α} {drawing' : Drawing α'}
    (h : Agree (Document.MovesTo μ) R drawing drawing') :
    Agree (ClassModel.MovesTo μ) R (Mapping.draw drawing) (Mapping.draw drawing') := by
  intro model model' after after' a a' hm hrun hrun'
  obtain ⟨hdraw, hclasses⟩ := Attempt.run_draw hrun
  obtain ⟨hdraw', hclasses'⟩ := Attempt.run_draw hrun'
  obtain ⟨hdocument, hR⟩ := h hm.document hdraw hdraw'
  refine ⟨⟨hdocument, ?_, ?_⟩, hR⟩
  · rw [hclasses, hclasses']
    exact hm.bindings
  · rw [hclasses, hclasses']
    exact hm.relationships

lemma Agree.addClass (name : String) (kind : ClassifierKind) (id : NodeId) :
    Agree (ClassModel.MovesTo μ) Eq (Mapping.store (·.addClass ⟨name, kind, id⟩))
      (Mapping.store (·.addClass ⟨name, kind, μ.shift id⟩)) := by
  intro model model' after after' a a' hm hrun hrun'
  cases hrun
  cases hrun'
  exact ⟨⟨hm.document, hm.bindings.bind name id, hm.relationships⟩, rfl⟩

lemma Agree.addRelationships (rs : List Relationship) :
    Agree (ClassModel.MovesTo μ) Eq (Mapping.store (·.addRelationships rs))
      (Mapping.store (·.addRelationships rs)) := by
  intro model model' after after' a a' hm hrun hrun'
  cases hrun
  cases hrun'
  exact ⟨⟨hm.document, hm.bindings, congrArg (· ++ rs) hm.relationships⟩, rfl⟩

end Steps

end JavaUml
