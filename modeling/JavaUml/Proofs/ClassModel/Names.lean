/-
# The class that a name stands for

Declarations are mapped one after the other into one document and one store, whether the mappings
before have succeeded or failed.  A mapping first makes the node of its declaration.  If there is
none, because its owner is not there or no identifier is left, then nothing has changed
(`Request.perform_of_refused`).  Otherwise the class is stored at once, and whatever comes after
this (`Mapping.mapRest`), a failure included, touches neither the list of classes nor the names
(`Request.exists_of_made`).

So the store lists the declarations that have got a node, in order.  Their nodes have increasing
identifiers (`ClassModel.pairwise_made`), which is why a class is found by the identifier that its
name is bound to: it is the last one with this name (`ClassStore.Lists.get?_eq`).
-/
import JavaUml.Proofs.ClassModel.Mapping
import JavaUml.Proofs.Drawing.Appending

namespace JavaUml

/-! ## Mapping one declaration after the other -/

/-- A declaration that is to be mapped, and the node that is to own its node. -/
structure Request where
  owner : NodeId
  declaration : Declaration
deriving DecidableEq, Repr

/-- A declaration with the node that was made for it. -/
structure DeclarationNode where
  declaration : Declaration
  id : NodeId
deriving DecidableEq, Repr

/-- What is stored for a declaration with a node. -/
def DeclarationNode.entry (d : DeclarationNode) : ClassEntry :=
  ⟨d.declaration.name, d.declaration.kind, d.id⟩

namespace Request

/-- The class model after a declaration was mapped, with or without success. -/
def perform (r : Request) (model : ClassModel) : ClassModel :=
  ((Mapping.mapDeclaration r.owner r.declaration).run model).2

/-- The declaration with the child of its owner that is made for it, if this can be made. -/
def made? (r : Request) (model : ClassModel) : Option DeclarationNode :=
  match model.document.addChild r.owner .ownedElements r.declaration.kind.nodeKind
      (some r.declaration.name) with
  | .ok (id, _) => some ⟨r.declaration, id⟩
  | .error _ => none

end Request

namespace ClassModel

/-- The class model after declarations were mapped in order. -/
def after (model : ClassModel) (rs : List Request) : ClassModel :=
  rs.foldl (fun model r => r.perform model) model

/-- The declarations that get a node when they are mapped in order. -/
def made (model : ClassModel) : List Request → List DeclarationNode
  | [] => []
  | r :: rs => (r.made? model).toList ++ (r.perform model).made rs

/-- The document of a class model is extended, and its list of classes and its names remain. -/
def KeepsClasses (model after : ClassModel) : Prop :=
  model.document.Extends after.document ∧ after.classes.classes = model.classes.classes ∧
    after.classes.bindings = model.classes.bindings

instance : IsPreorder ClassModel KeepsClasses where
  refl _ := ⟨refl_of Document.Extends _, rfl, rfl⟩
  trans _ _ _ h h' :=
    ⟨trans_of Document.Extends h.1 h'.1, h'.2.1.trans h.2.1, h'.2.2.trans h.2.2⟩

end ClassModel

/-! ## What one mapping does -/

/-- What is left to be done after the class of a declaration was stored. -/
def Mapping.mapRest (d : Declaration) (id : NodeId) : Mapping MappedDeclaration := do
  Mapping.store (·.addRelationships d.supertypes)
  let edges ← d.members.mapM (Mapping.mapMember d.name id)
  return ⟨id, edges.flatten⟩

/-- After the class was stored, the list of classes and the names remain. -/
lemma Mapping.within_mapRest (d : Declaration) (id : NodeId) :
    Within ClassModel.KeepsClasses (fun _ => True) (Mapping.mapRest d id) := by
  have hmember (member : Member) :
      Within ClassModel.KeepsClasses (fun _ => True) (Mapping.mapMember d.name id member) :=
    Mapping.within_mapMember permits_extends (fun _ _ h => ⟨h, rfl, rfl⟩)
      (fun _ _ => ⟨refl_of Document.Extends _, rfl, rfl⟩) (fun _ => trivial) _ _ member
  refine (Within.store fun _ => ⟨refl_of Document.Extends _, rfl, rfl⟩).bind fun _ => ?_
  exact (Within.mapM hmember _).bind fun edges => .pure _

namespace Request

variable {r : Request} {model : ClassModel}

/-- Whether a node can be attached does not depend on what it starts with. -/
lemma attach_eq (r : Request) (model : ClassModel) :
    (∃ d doc, r.made? model = some d ∧ d.declaration = r.declaration ∧
        model.document.attach r.owner .ownedElements r.declaration.draft = .ok (d.id, doc)) ∨
      ∃ e, r.made? model = none ∧
        model.document.attach r.owner .ownedElements r.declaration.draft = .error e := by
  unfold made? Document.addChild Document.attach
  cases model.document.index? r.owner with
  | none => exact .inr ⟨_, rfl, rfl⟩
  | some i =>
    cases model.document.ids.next? with
    | none => exact .inr ⟨_, rfl, rfl⟩
    | some issued => exact .inl ⟨⟨r.declaration, issued.1⟩, _, rfl, rfl, rfl⟩

/-- A mapping draws the node of its declaration first. -/
lemma run_draw_attach (r : Request) (model : ClassModel) {outcome : Except ModelError NodeId}
    {doc : Document}
    (h : Attempt.run (Drawing.attach r.owner .ownedElements r.declaration.draft) model.document =
      (outcome, doc)) :
    Attempt.run (Mapping.draw (Drawing.attach r.owner .ownedElements r.declaration.draft)) model =
      (outcome, { model with document := doc }) := by
  show ((Attempt.run (Drawing.attach r.owner .ownedElements r.declaration.draft) model.document).1,
    { model with
      document := (Attempt.run (Drawing.attach r.owner .ownedElements r.declaration.draft)
        model.document).2 }) = _
  rw [h]

/-- A declaration that gets no node changes nothing. -/
lemma perform_of_refused (h : r.made? model = none) : r.perform model = model := by
  obtain ⟨d, doc, hmade, -⟩ | ⟨e, -, hattach⟩ := r.attach_eq model
  · rw [h] at hmade
    cases hmade
  · have hrun := r.run_draw_attach model (Attempt.run_step_of_error hattach)
    exact congrArg Prod.snd (Attempt.run_bind_of_error hrun _)

/-- After the node of a declaration was made, the class is stored.  Nothing that follows changes the
list of classes or the names. -/
lemma exists_of_made {d : DeclarationNode} (h : r.made? model = some d) :
    ∃ doc, d.declaration = r.declaration ∧
      model.document.attach r.owner .ownedElements r.declaration.draft = .ok (d.id, doc) ∧
      ClassModel.KeepsClasses ⟨doc, model.classes.addClass d.entry⟩ (r.perform model) := by
  obtain ⟨d', doc, hmade, hd, hattach⟩ | ⟨e, hmade, -⟩ := r.attach_eq model
  · obtain rfl := Option.some.inj (h.symm.trans hmade)
    refine ⟨doc, hd, hattach, ?_⟩
    have hrun := r.run_draw_attach model (Attempt.run_step_of_ok hattach)
    have hentry : d.entry = ⟨r.declaration.name, r.declaration.kind, d.id⟩ := by
      rw [DeclarationNode.entry, hd]
    have hperform : r.perform model = (Attempt.run (Mapping.mapRest r.declaration d.id)
        ⟨doc, model.classes.addClass d.entry⟩).2 := by
      rw [hentry]
      exact congrArg Prod.snd (Attempt.run_bind_of_ok hrun _)
    rw [hperform]
    exact (Mapping.within_mapRest r.declaration d.id _).1
  · rw [h] at hmade
    cases hmade

/-- A mapping that succeeds gives the node that was made for the declaration. -/
lemma made?_of_ok {mapped : MappedDeclaration}
    (h : (Attempt.run (Mapping.mapDeclaration r.owner r.declaration) model).1 = .ok mapped) :
    r.made? model = some ⟨r.declaration, mapped.id⟩ := by
  have hrun : Attempt.run (Mapping.mapDeclaration r.owner r.declaration) model =
      (.ok mapped, r.perform model) := Prod.ext h rfl
  obtain ⟨id, drawn, hdraw, hrun⟩ := Attempt.exists_of_run_bind hrun
  obtain ⟨-, _, -, hrun⟩ := Attempt.exists_of_run_bind hrun
  obtain ⟨-, _, -, hrun⟩ := Attempt.exists_of_run_bind hrun
  obtain ⟨edges, last, -, hreturn⟩ := Attempt.exists_of_run_bind hrun
  obtain rfl : ⟨id, edges.flatten⟩ = mapped := Except.ok.inj (congrArg Prod.fst hreturn)
  have hdrawn := Attempt.eq_ok_of_run_step (Attempt.run_draw hdraw).1
  obtain ⟨d, doc, hmade, hd, hattach⟩ | ⟨e, -, hattach⟩ := r.attach_eq model
  · obtain ⟨rfl, -⟩ := Prod.mk.inj (Except.ok.inj (hattach.symm.trans hdrawn))
    rw [hmade, ← hd]
  · cases hattach.symm.trans hdrawn

/-- What a mapping does to the list of classes and to the names. -/
lemma lists_perform {entries : List ClassEntry} {rs : List Relationship}
    (hl : model.classes.Lists entries rs) :
    ∃ rs', (r.perform model).classes.Lists
      (entries ++ (r.made? model).toList.map DeclarationNode.entry) rs' := by
  cases hmade : r.made? model with
  | none =>
    rw [perform_of_refused hmade]
    exact ⟨rs, by simpa using hl⟩
  | some d =>
    obtain ⟨doc, -, -, -, hclasses, hbindings⟩ := exists_of_made hmade
    have hl' := hl.addClass d.entry
    exact ⟨_, hclasses.trans hl'.classes, hbindings.trans hl'.bindings, rfl⟩

lemma extends_perform (r : Request) (model : ClassModel) :
    model.document.Extends (r.perform model).document :=
  (Mapping.within_extends r.owner r.declaration model).1.1

/-- The node of a declaration has the next identifier, the type for the declaration and its name. -/
lemma exists_node (h : model.document.Reachable) {d : DeclarationNode}
    (hmade : r.made? model = some d) :
    d.id = ⟨model.document.next⟩ ∧ ∃ node, (r.perform model).document.get? d.id = some node ∧
      node.kind = d.declaration.kind.nodeKind ∧ node.name = some d.declaration.name := by
  obtain ⟨doc, hd, hattach, hextends, -, -⟩ := exists_of_made hmade
  have htidy := r.declaration.tidy_draft
  obtain ⟨hid, hg, hnodes⟩ := h.sound.nodes_of_attach htidy.slots hattach
  have hdoc : doc.Reachable := h.attach htidy hattach
  obtain ⟨-, -, -, hkept⟩ := hextends hdoc
  obtain ⟨node, hnode, hext⟩ := hkept _ _ (hdoc.sound.get?_of_mem
    (hnodes ▸ List.mem_append_right _ (List.mem_singleton_self _)))
  refine ⟨hid, node, hid ▸ hnode, ?_, ?_⟩
  · rw [hext.kind, hd]
    rfl
  · rw [hext.name, hd]
    rfl

end Request

/-! ## What all of them do -/

namespace ClassModel

variable {model : ClassModel} {rs : List Request}

lemma made_append (model : ClassModel) (rs later : List Request) :
    model.made (rs ++ later) = model.made rs ++ (model.after rs).made later := by
  induction rs generalizing model with
  | nil => rfl
  | cons r rs ih =>
    rw [List.cons_append, made, made, ih, List.append_assoc]
    rfl

lemma extends_after (model : ClassModel) (rs : List Request) :
    model.document.Extends (model.after rs).document := by
  induction rs generalizing model with
  | nil => exact refl_of Document.Extends _
  | cons r rs ih => exact trans_of Document.Extends (r.extends_perform model) (ih (r.perform model))

/-- The store lists the declarations that have got a node. -/
lemma lists_after {entries : List ClassEntry} {relationships : List Relationship}
    (hl : model.classes.Lists entries relationships) (rs : List Request) :
    ∃ rs', (model.after rs).classes.Lists
      (entries ++ (model.made rs).map DeclarationNode.entry) rs' := by
  induction rs generalizing model entries relationships with
  | nil => exact ⟨relationships, by simpa [made, after] using hl⟩
  | cons r rs ih =>
    obtain ⟨rs', hl'⟩ := r.lists_perform hl
    obtain ⟨rs'', hl''⟩ := ih hl'
    rw [made, List.map_append, ← List.append_assoc]
    exact ⟨rs'', hl''⟩

lemma next_le_of_extends (h : model.document.Reachable) {after : ClassModel}
    (he : model.document.Extends after.document) : model.document.next ≤ after.document.next := by
  obtain ⟨-, hroot, hsize, -⟩ := he h
  rw [Document.next, Document.next, hroot]
  exact Nat.add_le_add_left hsize _

/-- Every declaration that has got a node has one in the end, with its type and name. -/
lemma exists_node_of_made (h : model.document.Reachable) {d : DeclarationNode}
    (hd : d ∈ model.made rs) :
    model.document.next ≤ d.id.value ∧ ∃ node, (model.after rs).document.get? d.id = some node ∧
      node.kind = d.declaration.kind.nodeKind ∧ node.name = some d.declaration.name := by
  induction rs generalizing model with
  | nil => cases hd
  | cons r rs ih =>
    have hr := (r.extends_perform model h).1
    rcases List.mem_append.mp hd with hd | hd
    · obtain ⟨hid, node, hnode, hkind, hname⟩ := r.exists_node h (Option.mem_toList.mp hd)
      obtain ⟨-, -, -, hkept⟩ := extends_after (r.perform model) rs hr
      obtain ⟨node', hnode', hext⟩ := hkept _ _ hnode
      exact ⟨by rw [hid], node', hnode', hext.kind.trans hkind, hext.name.trans hname⟩
    · obtain ⟨hle, hnode⟩ := ih hr hd
      exact ⟨Nat.le_trans (next_le_of_extends h (r.extends_perform model)) hle, hnode⟩

/-- The nodes of declarations have increasing identifiers. -/
lemma pairwise_made (h : model.document.Reachable) (rs : List Request) :
    (model.made rs).Pairwise fun a b => a.id.value < b.id.value := by
  induction rs generalizing model with
  | nil => exact .nil
  | cons r rs ih =>
    have hr := (r.extends_perform model h).1
    rw [made]
    cases hmade : r.made? model with
    | none => exact ih hr
    | some d =>
      refine .cons (fun later hlater => ?_) (ih hr)
      -- the document has grown by the node of the first declaration before the later ones come
      obtain ⟨hid, node, hnode, -⟩ := r.exists_node h hmade
      obtain ⟨hmem, hnodeid⟩ := hr.sound.get?_eq_some_iff.mp hnode
      have hlt := (hr.sound.has_of_mem hmem).2
      have hle := (exists_node_of_made hr hlater).1
      rw [hnodeid] at hlt
      exact Nat.lt_of_lt_of_le hlt hle

end ClassModel

/-! ## Looking up a name -/

/-- What is found from the end is the last that fits. -/
lemma find?_reverse_eq_some_iff {α : Type} {p : α → Bool} {xs : List α} {x : α} :
    xs.reverse.find? p = some x ↔ ∃ before later, xs = before ++ x :: later ∧ p x = true ∧
      ∀ other ∈ later, p other = false := by
  rw [List.find?_eq_some_iff_append]
  constructor
  · rintro ⟨hx, later, before, hsplit, hlater⟩
    refine ⟨before.reverse, later.reverse, ?_, hx, fun other ho => ?_⟩
    · simpa using congrArg List.reverse hsplit
    · simpa using hlater other (List.mem_reverse.mp ho)
  · rintro ⟨before, later, rfl, hx, hlater⟩
    refine ⟨hx, later.reverse, before.reverse, by simp, fun other ho => ?_⟩
    simpa using hlater other (List.mem_reverse.mp ho)

/-- If no two classes have the same node, then a name leads to the last class that has it. -/
lemma ClassStore.Lists.get?_eq {store : ClassStore} {entries : List ClassEntry}
    {rs : List Relationship} (hl : store.Lists entries rs)
    (hnodup : (entries.map ClassEntry.id).Nodup) (name : String) :
    store.get? name = entries.reverse.find? fun entry => entry.name = name := by
  have hresolve : store.resolve name =
      (entries.reverse.find? fun entry => entry.name = name).map ClassEntry.id := by
    rw [ClassStore.resolve, hl.bindings, ClassEntry.resolve_table]
  rw [ClassStore.get?, hresolve, hl.classes]
  cases hlast : entries.reverse.find? fun entry => entry.name = name with
  | none => rfl
  | some entry =>
    have hmem : entry ∈ entries := List.mem_reverse.mp (List.mem_of_find?_eq_some hlast)
    refine List.find?_eq_some_iff_append.mpr ⟨by simp, ?_⟩
    obtain ⟨before, behind, hsplit⟩ := List.append_of_mem hmem
    refine ⟨before, behind, hsplit, fun other ho => ?_⟩
    -- an earlier class with the same identifier would be the same class twice
    rw [hsplit, List.map_append, List.nodup_append] at hnodup
    have hne := hnodup.2.2 _ (List.mem_map_of_mem ho) entry.id (by simp)
    simpa using hne

lemma nodup_map_entry {made : List DeclarationNode}
    (hne : made.Pairwise fun a b => a.id ≠ b.id) :
    ((made.map DeclarationNode.entry).map ClassEntry.id).Nodup := by
  rw [List.map_map]
  exact List.pairwise_map.mpr hne

/-- A name leads to the last of the declarations that are listed with it. -/
lemma ClassStore.Lists.get?_eq_entry {store : ClassStore} {made : List DeclarationNode}
    {rs : List Relationship} (hl : store.Lists (made.map DeclarationNode.entry) rs)
    (hne : made.Pairwise fun a b => a.id ≠ b.id) (name : String) :
    store.get? name =
      (made.reverse.find? fun d => d.declaration.name = name).map DeclarationNode.entry := by
  rw [hl.get?_eq (nodup_map_entry hne), ← List.map_reverse, List.find?_map]
  rfl

/-- Whatever declarations are mapped into a document and a store, with or without success: the store
lists those that have got a node, in order, with each declaration that was mapped successfully among
them; their nodes are different ones, with the types and the names of the declarations; and a name
leads to the latest of the declarations that have this name, to its kind and its node, or to nothing
if there is none. -/
theorem Document.Reachable.names_lead_to_latest {doc : Document} (h : doc.Reachable)
    (rs : List Request) :
    let model : ClassModel := ⟨doc, .empty⟩
    let after := model.after rs
    after.classes.classes = (model.made rs).map DeclarationNode.entry ∧
    (∀ earlier r later mapped, rs = earlier ++ r :: later →
      (Attempt.run (Mapping.mapDeclaration r.owner r.declaration) (model.after earlier)).1 =
        .ok mapped → ⟨r.declaration, mapped.id⟩ ∈ model.made rs) ∧
    ((model.made rs).Pairwise fun a b => a.id ≠ b.id) ∧
    (∀ d ∈ model.made rs, ∃ node, after.document.get? d.id = some node ∧
      node.kind = d.declaration.kind.nodeKind ∧ node.name = some d.declaration.name) ∧
    (∀ name entry, after.classes.get? name = some entry ↔
      ∃ before d later, model.made rs = before ++ d :: later ∧ d.declaration.name = name ∧
        (∀ other ∈ later, other.declaration.name ≠ name) ∧
        entry = ⟨d.declaration.name, d.declaration.kind, d.id⟩) ∧
    (∀ name, after.classes.get? name = none ↔ ∀ d ∈ model.made rs, d.declaration.name ≠ name) ∧
    ∀ name, after.classes.resolve name = (after.classes.get? name).map ClassEntry.id := by
  intro model after
  have hempty : model.classes.Lists [] [] := .empty
  obtain ⟨relationships, hl⟩ := ClassModel.lists_after hempty rs
  rw [List.nil_append] at hl
  have hpairwise : (model.made rs).Pairwise fun a b => a.id.value < b.id.value :=
    ClassModel.pairwise_made h rs
  have hne : (model.made rs).Pairwise fun a b => a.id ≠ b.id :=
    hpairwise.imp fun hlt he => Nat.ne_of_lt hlt (congrArg NodeId.value he)
  have hget (name : String) : after.classes.get? name =
      ((model.made rs).reverse.find? fun d => d.declaration.name = name).map
        DeclarationNode.entry := hl.get?_eq_entry hne name
  refine ⟨hl.classes, ?_, hne, fun d hd => (ClassModel.exists_node_of_made h hd).2,
    fun name entry => ?_, fun name => ?_, fun name => ?_⟩
  · rintro earlier r later mapped rfl hmapped
    rw [ClassModel.made_append, ClassModel.made, Request.made?_of_ok hmapped]
    simp
  · rw [hget, Option.map_eq_some_iff]
    simp only [find?_reverse_eq_some_iff, decide_eq_true_eq, decide_eq_false_iff_not]
    constructor
    · rintro ⟨d, ⟨before, later, hsplit, hname, hlater⟩, rfl⟩
      exact ⟨before, d, later, hsplit, hname, hlater, rfl⟩
    · rintro ⟨before, d, later, hsplit, hname, hlater, rfl⟩
      exact ⟨d, ⟨before, later, hsplit, hname, hlater⟩, rfl⟩
  · simp [hget]
  · rw [hl.get?_eq (nodup_map_entry hne), ClassStore.resolve, hl.bindings, ClassEntry.resolve_table]

/-- A mapping that fails at an annotation has stored its class, and one whose owner is not there has
stored nothing.  The name goes to the interface that comes after both. -/
theorem names_lead_to_latest_of_failed_mapping :
    let failing : Declaration :=
      { kind := .classType, name := "A"
        members := [.method ⟨"m", [], .named "void", [], [.group .trigger [⟨" ", .one "b"⟩]]⟩] }
    let rs : List Request := [⟨⟨10⟩, failing⟩, ⟨⟨7⟩, { kind := .classType, name := "A" }⟩,
      ⟨⟨10⟩, { kind := .interfaceType, name := "A" }⟩]
    ∃ doc : Document, doc.Reachable ∧
      let after := ClassModel.after ⟨doc, .empty⟩ rs
      (∃ fault, (Attempt.run (Mapping.mapDeclaration ⟨10⟩ failing) ⟨doc, .empty⟩).1 =
        .error (.malformed fault)) ∧
      after.classes.classes = [⟨"A", .classType, ⟨11⟩⟩, ⟨"A", .interfaceType, ⟨14⟩⟩] ∧
      after.classes.get? "A" = some ⟨"A", .interfaceType, ⟨14⟩⟩ ∧
      after.classes.resolve "A" = some ⟨14⟩ ∧ after.classes.get? "B" = none := by
  intro failing rs
  let doc : Document := ⟨⟨10, 1⟩, #[{ id := ⟨10⟩, kind := .project, name := some "p" }], by decide⟩
  have hdoc : doc.Reachable := .new (show Document.new (.new 10) .project "p" = .ok doc from rfl)
  refine ⟨doc, hdoc, ⟨⟨⟨.trigger, true⟩, "m", .blankSource⟩, by decide +kernel⟩, ?_⟩
  obtain ⟨hclasses, -, -, -, hsome, hnone, hresolve⟩ := hdoc.names_lead_to_latest rs
  have hmade : ClassModel.made ⟨doc, .empty⟩ rs =
      [⟨failing, ⟨11⟩⟩, ⟨{ kind := .interfaceType, name := "A" }, ⟨14⟩⟩] := by decide +kernel
  have hget := (hsome "A" ⟨"A", .interfaceType, ⟨14⟩⟩).mpr
    ⟨[⟨failing, ⟨11⟩⟩], _, [], hmade, rfl, nofun, rfl⟩
  refine ⟨?_, hget, ?_, ?_⟩
  · rw [hclasses, hmade]
    rfl
  · rw [hresolve, hget]
    rfl
  · rw [hnone, hmade]
    decide

end JavaUml
