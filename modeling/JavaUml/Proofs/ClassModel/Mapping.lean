/-
# The nodes of declarations

Mapping makes the node of a declaration, and after it the nodes of its members in order: an
attribute for a field, and an operation with its parameters for a method.  The annotations of a
method are read after its nodes were made, so that a blank name ends the mapping after the nodes of
this method (`Mapping.makes_mapAll`).

The store lists the declarations with their nodes, and a name stands for the last of them that has
this name (`ClassStore.Lists`, `ClassEntry.resolve_table`).
-/
import JavaUml.Assembly
import JavaUml.Proofs.Annotation.Blanks
import JavaUml.Proofs.Document.Walk
import JavaUml.Proofs.Drawing.Makes
import Mathlib.Data.List.Induction

namespace JavaUml

/-! ## Nodes -/

/-- The node for a parameter of an operation. -/
def Parameter.nodes (operation : NodeId) (n : ℕ) (p : Parameter) : List Node :=
  [p.draft.node ⟨n⟩ operation .parameters]

/-- The nodes for a method of a class: the operation, its result and its parameters. -/
def Method.nodes (classNode : NodeId) (n : ℕ) (m : Method) : List Node :=
  m.draft.node ⟨n⟩ classNode .operations ::
    (returnDraft m.returnType).node ⟨n + 1⟩ ⟨n⟩ .parameters ::
    chain (Parameter.nodes ⟨n⟩) (n + 2) m.parameters

/-- The nodes for a member of a class. -/
def Member.nodes (classNode : NodeId) (n : ℕ) : Member → List Node
  | .field f => [f.draft.node ⟨n⟩ classNode .attributes]
  | .method m => m.nodes classNode n
  | .other => []

/-- The nodes for a declaration: the class or interface, and its members up to the first one with a
blank name in an annotation. -/
def Declaration.nodes (owner : NodeId) (n : ℕ) (d : Declaration) : List Node :=
  d.draft.node ⟨n⟩ owner .ownedElements ::
    chain (Member.nodes ⟨n⟩) (n + 1) (upTo Member.fault? d.members)

/-- The nodes for a member are an attribute, or an operation with its result and its parameters. -/
lemma Member.cases_of_mem_nodes {classNode : NodeId} {n : ℕ} {member : Member} {node : Node}
    (h : node ∈ member.nodes classNode n) :
    (∃ f : Field, node = f.draft.node ⟨n⟩ classNode .attributes) ∨
      (∃ m : Method, node = m.draft.node ⟨n⟩ classNode .operations) ∨
      (∃ t, node = (returnDraft t).node ⟨n + 1⟩ ⟨n⟩ .parameters) ∨
      ∃ (p : Parameter) (k : ℕ), node = p.draft.node ⟨k⟩ ⟨n⟩ .parameters := by
  cases member with
  | field f => exact .inl ⟨f, List.mem_singleton.mp h⟩
  | method m =>
    right
    rcases List.mem_cons.mp h with rfl | h
    · exact .inl ⟨m, rfl⟩
    · right
      rcases List.mem_cons.mp h with rfl | h
      · exact .inl ⟨m.returnType, rfl⟩
      · obtain ⟨p, -, k, -, hp, -⟩ := exists_of_mem_chain h
        exact .inr ⟨p, k, List.mem_singleton.mp hp⟩
  | other => cases h

/-- The number of nodes for a member. -/
def Member.size : Member → ℕ
  | .field _ => 1
  | .method m => 2 + m.parameters.length
  | .other => 0

/-- The number of nodes for a declaration without blank names. -/
def Declaration.size (d : Declaration) : ℕ := 1 + (d.members.map Member.size).sum

lemma Member.length_nodes (classNode : NodeId) (n : ℕ) (member : Member) :
    (member.nodes classNode n).length = member.size := by
  cases member with
  | field f => rfl
  | method m =>
    have hparameters : (chain (Parameter.nodes ⟨n⟩) (n + 2) m.parameters).length =
        (m.parameters.map fun _ => 1).sum :=
      length_chain (fun p _ k => show (Parameter.nodes ⟨n⟩ k p).length = 1 from rfl) _
    simp only [nodes, Method.nodes, List.length_cons, hparameters, size]
    simp
    omega
  | other => rfl

lemma Declaration.length_nodes {d : Declaration} (hd : d.fault? = none) (owner : NodeId) (n : ℕ) :
    (d.nodes owner n).length = d.size := by
  rw [nodes, upTo_of_findSome?_eq_none hd, List.length_cons,
    length_chain fun member _ k => Member.length_nodes ⟨n⟩ k member, size, Nat.add_comm]

/-- The number of nodes for declarations without blank names. -/
lemma Declaration.length_chain_nodes {ds : List Declaration}
    (hds : ds.findSome? Declaration.fault? = none) (owner : NodeId) (n : ℕ) :
    (chain (Declaration.nodes owner) n ds).length = (ds.map Declaration.size).sum :=
  length_chain (fun d hd k => Declaration.length_nodes
    (List.findSome?_eq_none_iff.mp hds d hd) owner k) n

lemma Declaration.size_eq (d : Declaration) :
    d.size =
      1 + d.fields.length + (d.methods.map fun m => 2 + m.parameters.length).sum := by
  -- over the members as a list of its own, since the fields and methods are picked out of it
  have hmembers : ∀ members : List Member, (members.map Member.size).sum =
      (members.filterMap Member.field?).length +
        ((members.filterMap Member.method?).map fun m => 2 + m.parameters.length).sum := by
    intro members
    induction members with
    | nil => rfl
    | cons member members ih =>
      cases member <;>
        simp [List.filterMap_cons, Member.size, Member.field?, Member.method?, ih] <;> omega
  rw [size, hmembers, fields, methods, Nat.add_assoc]

/-! ## Relationships -/

/-- The relationships that a field of a class gives, if a member is one. -/
def Member.aggregations (className : String) : Member → List Relationship
  | .field f => f.aggregations className
  | _ => []

/-- The relationships of a declaration in order. -/
def Declaration.relationships (d : Declaration) : List Relationship :=
  d.supertypes ++ d.members.flatMap (Member.aggregations d.name)

lemma Declaration.aggregations_eq (d : Declaration) :
    d.members.flatMap (Member.aggregations d.name) =
      d.fields.flatMap fun f => f.aggregations d.name := by
  unfold fields
  generalize d.name = name
  induction d.members with
  | nil => rfl
  | cons member members ih =>
    cases member <;> simp [List.filterMap_cons, Member.aggregations, Member.field?, ih]

/-- What the store lists for declarations whose nodes are made one after the other. -/
def Declaration.entries : ℕ → List Declaration → List ClassEntry
  | _, [] => []
  | n, d :: ds => ⟨d.name, d.kind, ⟨n⟩⟩ :: entries (n + d.size) ds

lemma Declaration.map_entries {α : Type} (f : ClassifierKind → String → α) (n : ℕ)
    (ds : List Declaration) :
    (entries n ds).map (fun entry => f entry.kind entry.name) =
      ds.map fun d => f d.kind d.name := by
  induction ds generalizing n with
  | nil => rfl
  | cons d ds ih => simp [entries, ih]

/-! ## Where the nodes are -/

open Document (Hangs)

lemma hangs_chain {ι : Type} {g : ℕ → ι → List Node} {top : NodeId} {xs : List ι}
    (hg : ∀ x ∈ xs, ∀ n, Hangs top (g n x)) (n : ℕ) : Hangs top (chain g n xs) := by
  induction xs generalizing n with
  | nil => exact .nil top
  | cons x xs ih =>
    exact .append (hg x List.mem_cons_self n) (ih (fun y hy => hg y (List.mem_cons_of_mem x hy)) _)

lemma Member.hangs_nodes (classNode : NodeId) (n : ℕ) (member : Member) :
    Hangs classNode (member.nodes classNode n) := by
  cases member with
  | field f => exact .cons rfl (.nil _)
  | method m =>
    have hparameters : Hangs ⟨n⟩ (chain (Parameter.nodes ⟨n⟩) (n + 2) m.parameters) :=
      hangs_chain (fun p _ k => .cons rfl (.nil _)) (n + 2)
    exact .cons rfl (.append (.cons rfl (.nil _)) hparameters)
  | other => exact .nil _

/-- The nodes of declarations hang below the node that owns them. -/
lemma Declaration.hangs_nodes (owner : NodeId) (n : ℕ) (d : Declaration) :
    Hangs owner (d.nodes owner n) :=
  .cons rfl (hangs_chain (fun member _ k => member.hangs_nodes ⟨n⟩ k) (n + 1))

/-- The classes and interfaces have the numbers of their nodes. -/
lemma Declaration.bounds_of_mem_entries {n : ℕ} {ds : List Declaration} {entry : ClassEntry}
    (h : entry ∈ entries n ds) :
    n ≤ entry.id.value ∧ entry.id.value < n + (ds.map Declaration.size).sum := by
  induction ds generalizing n with
  | nil => cases h
  | cons d ds ih =>
    rw [List.map_cons, List.sum_cons]
    rcases List.mem_cons.mp h with rfl | h
    · have hd : 0 < d.size := by
        unfold size
        omega
      exact ⟨Nat.le_refl n, by simp only; omega⟩
    · have hbounds := ih h
      omega

/-! ## The store -/

namespace ClassStore

@[simp] lemma addRelationships_nil (store : ClassStore) : store.addRelationships [] = store := by
  simp [addRelationships]

lemma addRelationships_append (store : ClassStore) (rs more : List Relationship) :
    store.addRelationships (rs ++ more) = (store.addRelationships rs).addRelationships more := by
  simp [addRelationships]

end ClassStore

/-- The table of names after classes were bound in order. -/
def ClassEntry.table (entries : List ClassEntry) : NameTable :=
  entries.foldl (fun table entry => table.bind entry.name entry.id) .empty

/-- A name stands for the last class that has it. -/
lemma ClassEntry.resolve_table (entries : List ClassEntry) (name : String) :
    (table entries).resolve name =
      (entries.reverse.find? fun entry => entry.name = name).map ClassEntry.id := by
  induction entries using List.reverseRecOn with
  | nil => rfl
  | append_singleton entries entry ih =>
    rw [table, List.foldl_append, List.foldl_cons, List.foldl_nil, List.reverse_append,
      List.reverse_singleton, List.singleton_append, List.find?_cons]
    by_cases hn : entry.name = name
    · subst hn
      simp
    · rw [NameTable.resolve_bind_of_ne _ _ (Ne.symm hn)]
      simpa [hn, table] using ih

/-- A store lists classes, which are bound to their names in order, and relationships. -/
structure ClassStore.Lists (store : ClassStore) (entries : List ClassEntry)
    (rs : List Relationship) : Prop where
  classes : store.classes = entries
  bindings : store.bindings = ClassEntry.table entries
  relationships : store.relationships = rs

namespace ClassStore.Lists

variable {store : ClassStore} {entries : List ClassEntry} {rs : List Relationship}

lemma empty : ClassStore.empty.Lists [] [] := ⟨rfl, rfl, rfl⟩

lemma addClass (h : store.Lists entries rs) (entry : ClassEntry) :
    (store.addClass entry).Lists (entries ++ [entry]) rs := by
  refine ⟨by rw [ClassStore.addClass, h.classes], ?_, h.relationships⟩
  rw [ClassStore.addClass, h.bindings, ClassEntry.table, ClassEntry.table, List.foldl_append]
  rfl

lemma addRelationships (h : store.Lists entries rs) (more : List Relationship) :
    (store.addRelationships more).Lists entries (rs ++ more) :=
  ⟨h.classes, h.bindings, by rw [ClassStore.addRelationships, h.relationships]⟩

end ClassStore.Lists

/-! ## Mapping -/

namespace Mapping

variable {doc : Document} {model : ClassModel}

lemma makes_drawParameters (hs : doc.Sound) {operation : NodeId} (hp : doc.Has operation)
    (ps : List Parameter) :
    Makes (drawParameters operation ps) doc (chain (Parameter.nodes operation) doc.next ps) none
      (fun _ _ => True) := by
  refine (Makes.forM (fun doc => doc.Has operation) ?_ ps doc hs hp).imp fun _ _ _ _ _ => trivial
  intro p doc hs hp
  refine (Makes.attach hs hp .parameters p.draft .nil).bind fun _ doc' hg _ => ?_
  exact .pure hg.sound (hg.has hp)

lemma makes_drawMethod (hs : doc.Sound) {classNode : NodeId} (hc : doc.Has classNode)
    (m : Method) :
    Makes (drawMethod classNode m) doc (m.nodes classNode doc.next) none (fun _ _ => True) := by
  refine (Makes.attach hs hc .operations m.draft (by simp [Method.draft])).bind ?_
  rintro _ doc₁ hg₁ rfl
  have hop : doc₁.Has ⟨doc.next⟩ := hg₁.has_new Nat.zero_lt_one
  have hnext₁ : doc₁.next = doc.next + 1 := hg₁.next
  have hresult := Makes.attach hg₁.sound hop .parameters (returnDraft m.returnType) .nil
  rw [Canvas.document_eq, hnext₁] at hresult
  refine hresult.bind fun _ doc₂ hg₂ _ => ?_
  have hnext₂ : doc₂.next = doc.next + 2 := hg₂.next.trans (by rw [Canvas.document_eq, hnext₁]; rfl)
  have hparameters := makes_drawParameters hg₂.sound (hg₂.has hop) m.parameters
  rw [Canvas.document_eq, hnext₂] at hparameters
  exact hparameters

/-- A member makes its nodes, gives its edges and adds its relationships to the store. -/
lemma makes_mapMember (hs : model.document.Sound) {classNode : NodeId}
    (hc : model.document.Has classNode) (className : String) (member : Member) :
    Makes (mapMember className classNode member) model
      (member.nodes classNode model.document.next) member.fault?
      (fun edges model' => edges = member.links ∧
        model'.classes = model.classes.addRelationships (member.aggregations className)) := by
  cases member with
  | field f =>
    refine (Makes.attach hs hc .attributes f.draft .nil).draw.bind fun _ model₁ hg₁ h₁ => ?_
    refine (Makes.store hg₁.sound _).bind fun _ model₂ hg₂ h₂ => ?_
    refine .pure hg₂.sound ⟨rfl, ?_⟩
    rw [h₂, h₁.2]
    rfl
  | method m =>
    refine (makes_drawMethod hs hc m).draw.bind_nil fun _ model₁ hg₁ h₁ => ?_
    rw [Method.annotationEdges_eq]
    change Makes _ _ _ m.fault? _
    cases m.fault? with
    | some err => exact .outcome_error hg₁.sound err
    | none =>
      refine (Makes.outcome_ok hg₁.sound m.links).imp fun _ edges model₂ _ h₂ => ⟨h₂.1, ?_⟩
      rw [h₂.2, h₁.2, Member.aggregations, ClassStore.addRelationships_nil]
      exact nofun
  | other =>
    refine .pure hs ⟨rfl, ?_⟩
    rw [Member.aggregations, ClassStore.addRelationships_nil]
    exact nofun

/-- The members of a class make their nodes one after the other. -/
lemma makes_mapMembers (hs : model.document.Sound) {classNode : NodeId}
    (hc : model.document.Has classNode) (className : String) (members : List Member) :
    Makes (members.mapM (mapMember className classNode)) model
      (chain (Member.nodes classNode) model.document.next (upTo Member.fault? members))
      (members.findSome? Member.fault?)
      (fun edges model' => edges = members.map Member.links ∧
        model'.classes =
          model.classes.addRelationships (members.flatMap (Member.aggregations className))) := by
  -- the relationships of the members that are left complete the store
  refine (Makes.mapM id Member.links (fun rest (model' : ClassModel) =>
    model'.document.Has classNode ∧
      model'.classes.addRelationships (rest.flatMap (Member.aggregations className)) =
        model.classes.addRelationships (members.flatMap (Member.aggregations className)))
    (fun member rest model' hs' hI => ?_) members model hs ⟨hc, rfl⟩).imp ?_
  · refine (makes_mapMember hs' hI.1 className member).imp fun _ edges model'' hg h => ?_
    refine ⟨h.1, hg.has hI.1, ?_⟩
    rw [h.2, ← hI.2, List.flatMap_cons, ClassStore.addRelationships_append]
  · intro _ edges model' _ h
    refine ⟨by simpa using h.1, ?_⟩
    simpa using h.2.2

/-- A declaration makes its node and those of its members. -/
lemma makes_mapDeclaration (hs : model.document.Sound) {owner : NodeId}
    (ho : model.document.Has owner) (d : Declaration) {entries : List ClassEntry}
    {rs : List Relationship} (hl : model.classes.Lists entries rs) :
    Makes (mapDeclaration owner d) model (d.nodes owner model.document.next) d.fault?
      (fun mapped model' => mapped.edges = d.links ∧
        model'.classes.Lists (entries ++ [⟨d.name, d.kind, ⟨model.document.next⟩⟩])
          (rs ++ d.relationships)) := by
  refine (Makes.attach hs ho .ownedElements d.draft (by simp [Declaration.draft])).draw.bind ?_
  rintro _ model₁ hg₁ ⟨rfl, h₁⟩
  refine (Makes.store hg₁.sound _).bind fun _ model₂ hg₂ h₂ => ?_
  refine (Makes.store hg₂.sound _).bind fun _ model₃ hg₃ h₃ => ?_
  have hid : model₃.document.Has ⟨model.document.next⟩ :=
    hg₃.has (hg₂.has (hg₁.has_new Nat.zero_lt_one))
  have hnext : model₃.document.next = model.document.next + 1 :=
    hg₃.next.trans (hg₂.next.trans hg₁.next)
  have hmembers := makes_mapMembers hg₃.sound hid d.name d.members
  rw [hnext] at hmembers
  refine hmembers.bind_pure fun _ edges model₄ hg₄ h₄ => ?_
  rw [h₄.1, h₄.2, h₃, h₂, h₁]
  refine ⟨List.flatMap_def.symm, ?_⟩
  rw [Declaration.relationships, ← List.append_assoc]
  exact ((hl.addClass _).addRelationships _).addRelationships _

/-- Declarations make their nodes one after the other.  The store lists them in the same order. -/
lemma makes_mapAll (hs : model.document.Sound) {owner : NodeId} (ho : model.document.Has owner)
    (ds : List Declaration) (hl : model.classes.Lists [] []) :
    Makes (Assembly.mapAll owner ds) model
      (chain (Declaration.nodes owner) model.document.next (upTo Declaration.fault? ds))
      (ds.findSome? Declaration.fault?)
      (fun edges model' => edges = ds.flatMap Declaration.links ∧
        model'.classes.Lists (Declaration.entries model.document.next ds)
          (ds.flatMap Declaration.relationships)) := by
  let Left (rest : List Declaration) (model' : ClassModel) : Prop :=
    model'.document.Has owner ∧ ∃ entries rs, model'.classes.Lists entries rs ∧
      entries ++ Declaration.entries model'.document.next rest =
        Declaration.entries model.document.next ds ∧
      rs ++ rest.flatMap Declaration.relationships = ds.flatMap Declaration.relationships
  have step : ∀ d rest (model' : ClassModel), model'.document.Sound → Left (d :: rest) model' →
      Makes (mapDeclaration owner d) model' (d.nodes owner model'.document.next) d.fault?
        (fun mapped model'' => mapped.edges = d.links ∧ Left rest model'') := by
    rintro d rest model' hs' ⟨ho', entries, rs, hl', hentries, hrs⟩
    refine (makes_mapDeclaration hs' ho' d hl').imp fun hd mapped model'' hg h => ?_
    have hnext : model''.document.next = model'.document.next + d.size :=
      hg.next.trans (congrArg _ (Declaration.length_nodes hd _ _))
    refine ⟨h.1, hg.has ho', _, _, h.2, ?_, ?_⟩
    · rw [← hentries, hnext, List.append_assoc]
      rfl
    · rw [← hrs, List.append_assoc]
      rfl
  refine (Makes.mapM _ _ Left step ds model hs ⟨ho, [], [], hl, rfl, rfl⟩).bind_pure ?_
  rintro - mapped model' - ⟨hedges, -, entries, rs, hl', hentries, hrs⟩
  rw [← hentries, ← hrs, Declaration.entries, List.flatMap_nil, List.append_nil, List.append_nil]
  refine ⟨?_, hl'⟩
  rw [List.flatMap_def, hedges, List.flatMap_def]

end Mapping

end JavaUml
