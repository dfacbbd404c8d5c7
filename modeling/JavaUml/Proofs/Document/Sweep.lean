/-
# Replacing names in a part of a document

The sweep visits the nodes below a node and replaces the names in their fields that are bound.  As
it changes nothing but fields, and as the nodes are visited in their places, the document afterwards
is the old one with `Node.resolve` applied to the nodes of the part (`Sound.toList_resolveSymbols`).
-/
import JavaUml.Proofs.Document.Walk
import Mathlib.Algebra.BigOperators.Group.List.Basic
import Mathlib.Algebra.GroupWithZero.Nat

namespace JavaUml

/-- A reference is not a name, so that names are replaced at most once. -/
lemma Value.resolve_resolve (table : NameTable) (value : Value) :
    (value.resolve table).resolve table = value.resolve table := by
  cases value with
  | symbol name =>
    cases h : table.resolve name <;> simp [Value.resolve, h]
  | _ => rfl

lemma Node.resolve_resolve (table : NameTable) (node : Node) :
    (node.resolve table).resolve table = node.resolve table := by
  simp [Node.resolve, Value.resolve_resolve]

/-- Of the names that are left none is bound. -/
lemma Node.resolvableCount_resolve (table : NameTable) (node : Node) :
    (node.resolve table).resolvableCount table = 0 := by
  have hvalue : ∀ value : Value, (value.resolve table).isResolvable table = false := by
    intro value
    cases value with
    | symbol name => cases h : table.resolve name <;> simp [Value.resolve, h, Value.isResolvable,
        NameTable.contains]
    | _ => rfl
  simp [resolvableCount, resolve, hvalue]

/-- A value that is not a name. -/
def Value.IsSettled (value : Value) : Prop := ∀ name, value ≠ .symbol name

lemma Value.IsSettled.resolve {value : Value} (h : value.IsSettled) (table : NameTable) :
    value.resolve table = value := by
  cases value with
  | symbol name => exact absurd rfl (h name)
  | _ => rfl

/-- A node without names in its fields. -/
def Node.IsSettled (node : Node) : Prop := ∀ field ∈ node.fields, field.2.IsSettled

lemma Node.IsSettled.resolve {node : Node} (h : node.IsSettled) (table : NameTable) :
    node.resolve table = node := by
  have hf : node.fields.map (fun field => (field.1, field.2.resolve table)) = node.fields := by
    refine (List.map_congr_left fun field hfield => ?_).trans (List.map_id _)
    rw [(h field hfield).resolve]
    rfl
  rw [Node.resolve, hf]

lemma NodeDraft.isSettled_node {draft : NodeDraft}
    (h : ∀ field ∈ draft.fields, field.2.IsSettled) (id parent : NodeId) (slot : Slot) :
    (draft.node id parent slot).IsSettled := h

namespace Document

variable {doc : Document}

/-- A visit resolves the node with the identifier that is visited, if there is one. -/
lemma Sound.resolveNode (h : doc.Sound) (table : NameTable) (count : ℕ) (id : NodeId) :
    (Document.resolveNode table (doc, count) id).1.Sound ∧
      (Document.resolveNode table (doc, count) id).1.ids = doc.ids ∧
      (Document.resolveNode table (doc, count) id).1.nodes.toList = doc.nodes.toList.map fun node =>
        if node.id = id then node.resolve table else node := by
  cases hi : doc.index? id with
  | none =>
    have he : Document.resolveNode table (doc, count) id = (doc, count) := by
      simp [Document.resolveNode, hi]
    rw [he]
    refine ⟨h, rfl, ?_⟩
    symm
    refine (List.map_congr_left fun node hn => if_neg ?_).trans (List.map_id _)
    rintro rfl
    exact index?_eq_none_iff.mp hi (h.has_of_mem hn)
  | some i =>
    obtain ⟨node, hn, rfl⟩ := h.exists_of_has (index?_eq_some_iff.mp hi).1
    have he : Document.resolveNode table (doc, count) node.id =
        (doc.modifyAt i (Node.resolve table), count + node.resolvableCount table) := by
      simp [Document.resolveNode, hi, h.get?_of_mem hn]
    rw [he]
    exact ⟨h.modifyAt hi (Node.keeps_resolve table), rfl, h.toList_modifyAt hi _⟩

/-- A visit of several nodes resolves these. -/
lemma Sound.foldl_resolveNode (h : doc.Sound) (table : NameTable) (ids : List NodeId)
    (count : ℕ) :
    (ids.foldl (Document.resolveNode table) (doc, count)).1.Sound ∧
      (ids.foldl (Document.resolveNode table) (doc, count)).1.ids = doc.ids ∧
      (ids.foldl (Document.resolveNode table) (doc, count)).1.nodes.toList =
        doc.nodes.toList.map fun node => if node.id ∈ ids then node.resolve table else node := by
  induction ids generalizing doc count with
  | nil => exact ⟨h, rfl, by simp⟩
  | cons id ids ih =>
    obtain ⟨h₁, hids₁, hlist₁⟩ := h.resolveNode table count id
    rw [List.foldl_cons]
    generalize Document.resolveNode table (doc, count) id = state at h₁ hids₁ hlist₁
    obtain ⟨doc₁, count₁⟩ := state
    obtain ⟨h₂, hids₂, hlist₂⟩ := ih h₁ count₁
    refine ⟨h₂, hids₂.trans hids₁, ?_⟩
    rw [hlist₂, hlist₁, List.map_map]
    refine List.map_congr_left fun node _ => ?_
    by_cases he : node.id = id
    · by_cases hmem : node.id ∈ ids <;>
        simp [he, (Node.keeps_resolve table node).id, Node.resolve_resolve]
    · simp [he]

/-- The sweep resolves the nodes of a part of the document. -/
lemma Sound.toList_resolveSymbols (h : doc.Sound) (top : NodeId) (table : NameTable) :
    (doc.resolveSymbols top table).1.nodes.toList = doc.nodes.toList.map fun node =>
      if node.id ∈ doc.subtree top then node.resolve table else node :=
  (h.foldl_resolveNode table (doc.subtree top) 0).2.2

lemma Sound.resolveSymbols (h : doc.Sound) (top : NodeId) (table : NameTable) :
    (doc.resolveSymbols top table).1.Sound :=
  (h.foldl_resolveNode table (doc.subtree top) 0).1

/-- If all names are in the part of the document that is swept, then it is as if all nodes were
resolved. -/
lemma Sound.toList_resolveSymbols_of_settled (h : doc.Sound) {top : NodeId} (table : NameTable)
    (hs : ∀ node ∈ doc.outline, node.id ∈ doc.subtree top ∨ node.IsSettled) :
    (doc.resolveSymbols top table).1.nodes.toList = doc.nodes.toList.map (Node.resolve table) := by
  rw [h.toList_resolveSymbols]
  refine List.map_congr_left fun node hn => ?_
  rcases hs node.bare (List.mem_map_of_mem hn) with hmem | hsettled
  · exact if_pos hmem
  · have hnode : node.IsSettled := hsettled
    rw [hnode.resolve, ite_self]

lemma Sound.outline_resolveSymbols (h : doc.Sound) {top : NodeId} (table : NameTable)
    (hs : ∀ node ∈ doc.outline, node.id ∈ doc.subtree top ∨ node.IsSettled) :
    (doc.resolveSymbols top table).1.outline = doc.outline.map (Node.resolve table) := by
  rw [outline, h.toList_resolveSymbols_of_settled table hs, List.map_map, outline, List.map_map]
  rfl

/-! ## Counting names -/

/-- The number of fields that hold a bound name. -/
def resolvableCount (table : NameTable) (doc : Document) : ℕ :=
  (doc.nodes.toList.map (Node.resolvableCount table)).sum

lemma resolvableCount_modifyAt {table : NameTable} {i : ℕ} {node : Node}
    (hi : doc.nodes[i]? = some node) (f : Node → Node) :
    (doc.modifyAt i f).resolvableCount table + node.resolvableCount table =
      doc.resolvableCount table + (f node).resolvableCount table := by
  have hlist : ∀ (nodes : List Node) (i : ℕ), nodes[i]? = some node →
      ((nodes.modify i f).map (Node.resolvableCount table)).sum + node.resolvableCount table =
        (nodes.map (Node.resolvableCount table)).sum + (f node).resolvableCount table := by
    intro nodes
    induction nodes with
    | nil => exact fun _ h => by simp at h
    | cons other nodes ih =>
      intro i hi
      cases i with
      | zero =>
        obtain rfl : other = node := by simpa using hi
        rw [List.modify_zero_cons, List.map_cons, List.map_cons, List.sum_cons, List.sum_cons]
        omega
      | succ i =>
        have hrest := ih i (by simpa using hi)
        rw [List.modify_succ_cons, List.map_cons, List.map_cons, List.sum_cons, List.sum_cons]
        omega
  rw [resolvableCount, resolvableCount, modifyAt, Array.toList_modify]
  exact hlist _ i (by rw [Array.getElem?_toList, hi])

/-- What a visit takes away from the names of a document, it adds to the count. -/
lemma resolveNode_add_resolvableCount (table : NameTable) (count : ℕ) (id : NodeId) :
    (resolveNode table (doc, count) id).2 +
        (resolveNode table (doc, count) id).1.resolvableCount table =
      count + doc.resolvableCount table := by
  cases hi : doc.index? id with
  | none => simp [Document.resolveNode, hi]
  | some i =>
    cases hn : doc.get? id with
    | none => simp [Document.resolveNode, hi, hn]
    | some node =>
      have hat : doc.nodes[i]? = some node := by simpa [get?, hi] using hn
      have hchange := @resolvableCount_modifyAt doc table i node hat (Node.resolve table)
      have hresolved := node.resolvableCount_resolve table
      simp only [Document.resolveNode, hi, hn]
      omega

lemma foldl_resolveNode_add_resolvableCount (table : NameTable) (ids : List NodeId) (count : ℕ) :
    (ids.foldl (resolveNode table) (doc, count)).2 +
        (ids.foldl (resolveNode table) (doc, count)).1.resolvableCount table =
      count + doc.resolvableCount table := by
  induction ids generalizing doc count with
  | nil => rfl
  | cons id ids ih =>
    rw [List.foldl_cons, ← resolveNode_add_resolvableCount table count id]
    exact ih _

/-- If all names are in the part of the document that is swept, then all bound names are counted. -/
lemma Sound.count_resolveSymbols (h : doc.Sound) {top : NodeId} (table : NameTable)
    (hs : ∀ node ∈ doc.outline, node.id ∈ doc.subtree top ∨ node.IsSettled) :
    (doc.resolveSymbols top table).2 = doc.resolvableCount table := by
  have hsum := @foldl_resolveNode_add_resolvableCount doc table (doc.subtree top) 0
  have hafter : (doc.resolveSymbols top table).1.resolvableCount table = 0 := by
    rw [resolvableCount, h.toList_resolveSymbols_of_settled table hs]
    refine List.sum_eq_zero fun count hcount => ?_
    obtain ⟨_, hn, rfl⟩ := List.mem_map.mp hcount
    obtain ⟨node, -, rfl⟩ := List.mem_map.mp hn
    exact node.resolvableCount_resolve table
  rw [← Document.resolveSymbols] at hsum
  omega

end Document

end JavaUml
