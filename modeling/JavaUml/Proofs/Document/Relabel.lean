/-
# Other identifiers

A map of identifiers changes a node wherever it mentions one: its own identifier, its parent, its
children, and the references in its fields.  Names stay, so that replacing them by references and
changing identifiers can be exchanged if the names are bound to the identifiers that belong together
(`Node.resolve_relabel`).
-/
import JavaUml.Document.Resolve
import JavaUml.Proofs.Document.Tree

namespace JavaUml

/-! ## Values -/

/-- Changes the identifier of a reference. -/
def Value.relabel (f : NodeId → NodeId) : Value → Value
  | .reference id => .reference (f id)
  | value => value

/-- Changes the identifiers in fields. -/
def FieldList.relabel (f : NodeId → NodeId) (fields : FieldList) : FieldList :=
  fields.map fun field => (field.1, field.2.relabel f)

/-- Names are bound in a table to the identifiers that belong to those in another one. -/
def NameTable.Relabels (f : NodeId → NodeId) (table table' : NameTable) : Prop :=
  ∀ name, table'.resolve name = (table.resolve name).map f

section Values

variable {f : NodeId → NodeId} {table table' : NameTable}

lemma Value.resolve_relabel (h : table.Relabels f table') (value : Value) :
    (value.relabel f).resolve table' = (value.resolve table).relabel f := by
  cases value with
  | symbol name =>
    rw [relabel, resolve, resolve, h name]
    · cases table.resolve name <;> rfl
    · exact nofun
  | _ => rfl

lemma Value.isResolvable_relabel (h : table.Relabels f table') (value : Value) :
    (value.relabel f).isResolvable table' = value.isResolvable table := by
  cases value with
  | symbol name =>
    show table'.contains name = table.contains name
    rw [NameTable.contains, h name, Option.isSome_map]
    rfl
  | _ => rfl

end Values

/-! ## Nodes -/

/-- Changes the identifiers in what a node starts with. -/
def NodeDraft.relabel (f : NodeId → NodeId) (draft : NodeDraft) : NodeDraft :=
  { draft with fields := draft.fields.relabel f }

/-- Changes the identifiers in a node. -/
def Node.relabel (f : NodeId → NodeId) (node : Node) : Node :=
  { node with
    id := f node.id
    parent := node.parent.map f
    children := node.children.map f
    fields := node.fields.relabel f }

section Nodes

variable {f : NodeId → NodeId} {table table' : NameTable}

/-- Fields without references stay. -/
lemma FieldList.relabel_eq_self {fields : FieldList}
    (h : ∀ field ∈ fields, ∀ id, field.2 ≠ .reference id) : fields.relabel f = fields := by
  refine (List.map_congr_left fun field hfield => ?_).trans (List.map_id fields)
  obtain ⟨key, value⟩ := field
  cases value with
  | reference id => exact absurd rfl (h _ hfield id)
  | _ => rfl

/-- Only what happens to the identifiers in the fields is of importance. -/
lemma FieldList.relabel_congr {g : NodeId → NodeId} {fields : FieldList}
    (h : ∀ key id, (key, .reference id) ∈ fields → f id = g id) :
    fields.relabel f = fields.relabel g := by
  refine List.map_congr_left fun field hfield => ?_
  obtain ⟨key, value⟩ := field
  cases value with
  | reference id => rw [Value.relabel, Value.relabel, h key id hfield]
  | _ => rfl

lemma NodeDraft.node_relabel (draft : NodeDraft) (id parent : NodeId) (slot : Slot) :
    (draft.relabel f).node (f id) (f parent) slot = (draft.node id parent slot).relabel f := rfl

/-- What a draft without references becomes under other identifiers. -/
lemma NodeDraft.node_eq_relabel {draft : NodeDraft}
    (h : ∀ field ∈ draft.fields, ∀ id, field.2 ≠ .reference id) {id id' parent parent' : NodeId}
    (hid : id' = f id) (hparent : parent' = f parent) (slot : Slot) :
    draft.node id' parent' slot = (draft.node id parent slot).relabel f := by
  rw [hid, hparent, ← node_relabel, relabel, FieldList.relabel_eq_self h]

lemma Node.resolve_relabel (h : table.Relabels f table') (node : Node) :
    (node.relabel f).resolve table' = (node.resolve table).relabel f := by
  simp [resolve, relabel, FieldList.relabel, Value.resolve_relabel h]

lemma Node.resolvableCount_relabel (h : table.Relabels f table') (node : Node) :
    (node.relabel f).resolvableCount table' = node.resolvableCount table := by
  simp [resolvableCount, relabel, FieldList.relabel, List.countP_map, Function.comp_def,
    Value.isResolvable_relabel h]

end Nodes

end JavaUml
