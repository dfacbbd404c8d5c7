/-
# What a computation does at most

A computation stays within limits if, wherever it ends, its state has changed in an allowed way only
and its error, if there is one, is an allowed one (`Within`).  The allowed changes may follow one
another and include no change at all, so that what holds of the steps of a computation holds of the
computation, also if an error ends it in the middle.

All that the builders of a model do to a document is to attach nodes and to declare collections.
-/
import JavaUml.ClassModel.Relationships
import JavaUml.Interaction
import JavaUml.Proofs.Drawing.Edges
import JavaUml.StateMachine
import Mathlib.Order.Defs.Unbundled

namespace JavaUml

variable {σ α β ι : Type}

/-- Wherever a computation ends, the state has changed as `T` allows, and an error is one of `E`. -/
def Within (T : σ → σ → Prop) (E : ModelError → Prop) (m : ExceptT ModelError (StateM σ) α) :
    Prop :=
  ∀ s, T s (Attempt.run m s).2 ∧ ∀ e, (Attempt.run m s).1 = .error e → E e

namespace Within

variable {T : σ → σ → Prop} [IsPreorder σ T] {E : ModelError → Prop}
variable {m : ExceptT ModelError (StateM σ) α}

lemma pure (a : α) : Within T E (Pure.pure a : ExceptT ModelError (StateM σ) α) :=
  fun s => ⟨refl_of T s, fun _ he => by cases he⟩

lemma throw {e : ModelError} (he : E e) : Within T E (throw e : ExceptT ModelError (StateM σ) α) :=
  fun s => ⟨refl_of T s, fun _ h => by cases h; exact he⟩

/-- Whether the first computation ends with a result or with an error, both changes are allowed. -/
lemma bind (hm : Within T E m) {f : α → ExceptT ModelError (StateM σ) β}
    (hf : ∀ a, Within T E (f a)) : Within T E (m >>= f) := by
  intro s
  obtain ⟨hchange, herror⟩ := hm s
  cases hrun : Attempt.run m s with
  | mk outcome s' =>
    rw [hrun] at hchange herror
    cases outcome with
    | ok a =>
      rw [Attempt.run_bind_of_ok hrun]
      exact ⟨trans_of T hchange (hf a s').1, (hf a s').2⟩
    | error e =>
      rw [Attempt.run_bind_of_error hrun]
      exact ⟨hchange, fun e' he => by cases he; exact herror e rfl⟩

lemma mapM {f : ι → ExceptT ModelError (StateM σ) α} (hf : ∀ x, Within T E (f x)) (xs : List ι) :
    Within T E (xs.mapM f) := by
  induction xs with
  | nil => exact pure []
  | cons x xs ih =>
    rw [List.mapM_cons]
    exact (hf x).bind fun a => ih.bind fun as => pure (a :: as)

lemma forM {f : ι → ExceptT ModelError (StateM σ) PUnit} (hf : ∀ x, Within T E (f x))
    (xs : List ι) : Within T E (xs.forM f) := by
  induction xs with
  | nil => exact pure ()
  | cons x xs ih =>
    rw [List.forM_eq_forM, List.forM_cons]
    exact (hf x).bind fun _ => ih

lemma foldlM {f : α → ι → ExceptT ModelError (StateM σ) α} (hf : ∀ a x, Within T E (f a x))
    (xs : List ι) (a : α) : Within T E (xs.foldlM f a) := by
  induction xs generalizing a with
  | nil => exact pure a
  | cons x xs ih =>
    rw [List.foldlM_cons]
    exact (hf a x).bind ih

/-! ## The steps of drawings and mappings -/

section Steps

variable {T : Document → Document → Prop} [IsPreorder Document T]

lemma step {f : Document → Except ModelError (α × Document)}
    (hok : ∀ doc a after, f doc = .ok (a, after) → T doc after)
    (herror : ∀ doc e, f doc = .error e → E e) : Within T E (Drawing.step f) := by
  intro doc
  cases hf : f doc with
  | ok result =>
    obtain ⟨a, after⟩ := result
    rw [Attempt.run_step_of_ok hf]
    exact ⟨hok doc a after hf, fun e he => by cases he⟩
  | error e =>
    rw [Attempt.run_step_of_error hf]
    exact ⟨refl_of T doc, fun e' he => by cases he; exact herror doc e hf⟩

lemma root : Within T E Drawing.root :=
  step (fun doc _ _ h => by cases h; exact refl_of T doc) fun _ _ h => by cases h

/-! ## Edges -/

lemma getOrBind {create : Drawing NodeId} (h : Within T E create) (table : NameTable)
    (name : String) : Within T E (table.getOrBind name create) := by
  unfold NameTable.getOrBind
  split
  · exact pure _
  · exact h.bind fun id => pure _

lemma edge {vertex : String → Drawing NodeId} {link : NodeId → NodeId → String → Drawing Unit}
    {e : Edge} (hv : ∀ name ∈ e.ends, Within T E (vertex name))
    (hl : ∀ a b label, Within T E (link a b label)) (table : NameTable) :
    Within T E (Drawing.edge vertex link table e) := by
  have hsource := hv e.source (by simp [Edge.ends])
  have htarget := hv e.target (by simp [Edge.ends])
  refine (hsource.getOrBind table e.source).bind fun source => ?_
  refine (htarget.getOrBind source.2 e.target).bind fun target => ?_
  exact (hl source.1 target.1 e.label).bind fun _ => pure _

lemma edges {vertex : String → Drawing NodeId} {link : NodeId → NodeId → String → Drawing Unit}
    {es : List Edge} (hv : ∀ name ∈ es.flatMap Edge.ends, Within T E (vertex name))
    (hl : ∀ a b label, Within T E (link a b label)) (table : NameTable) :
    Within T E (Drawing.edges vertex link table es) := by
  induction es generalizing table with
  | nil => exact pure table
  | cons e es ih =>
    have hfirst := edge (fun name hname => hv name (List.mem_append_left _ hname)) hl table
    exact hfirst.bind fun table' =>
      ih (fun name hname => hv name (List.mem_append_right _ hname)) table'

end Steps

section Mappings

variable {T : ClassModel → ClassModel → Prop}

/-- What is drawn in a class model changes its document only. -/
lemma draw {T₀ : Document → Document → Prop} {drawing : Drawing α} (h : Within T₀ E drawing)
    (hT : ∀ model doc, T₀ model.document doc → T model { model with document := doc }) :
    Within T E (Mapping.draw drawing) :=
  fun model => ⟨hT model _ (h model.document).1, (h model.document).2⟩

lemma store {change : ClassStore → ClassStore}
    (h : ∀ model : ClassModel, T model { model with classes := change model.classes }) :
    Within T E (Mapping.store change) :=
  fun model => ⟨h model, fun e he => by cases he⟩

lemma outcome [IsPreorder ClassModel T] {result : Except ModelError α}
    (h : ∀ e, result = .error e → E e) : Within T E (Mapping.outcome result) :=
  fun model => ⟨refl_of T model, h⟩

end Mappings

end Within

/-! ## Drafts -/

/-- The keys of the fields of a model, each behind those before which it never stands. -/
def fieldKeys : List String :=
  ["visibility", "isStatic", "isAbstract", "type", "direction", "source", "target", "reference",
    "aggregation", "kind", "defaultDiagram"]

lemma sublist_keys_flagField (key : String) (present : Bool) :
    ((flagField key present).map Prod.fst).Sublist [key] := by
  cases present
  · exact .cons _ .slnil
  · exact .refl _

lemma sublist_keys_visibilityField (modifiers : List String) :
    ((visibilityField modifiers).map Prod.fst).Sublist ["visibility"] := by
  unfold visibilityField
  split
  · exact .refl _
  · exact .cons _ .slnil

lemma Declaration.sublist_keys_draft (d : Declaration) :
    (d.draft.fields.map Prod.fst).Sublist fieldKeys :=
  (sublist_keys_flagField "isAbstract" _).trans (by decide)

lemma Field.sublist_keys_draft (f : Field) : (f.draft.fields.map Prod.fst).Sublist fieldKeys := by
  have hfields := ((sublist_keys_visibilityField f.modifiers).append
    (sublist_keys_flagField "isStatic" (f.modifiers.contains "static"))).append
      (List.Sublist.refl ["type"])
  rw [draft, List.map_append, List.map_append]
  exact hfields.trans (by decide)

lemma Method.sublist_keys_draft (m : Method) : (m.draft.fields.map Prod.fst).Sublist fieldKeys := by
  have hfields := ((sublist_keys_visibilityField m.modifiers).append
    (sublist_keys_flagField "isStatic" (m.hasModifier "static"))).append
      (sublist_keys_flagField "isAbstract" (m.hasModifier "abstract"))
  rw [draft, List.map_append, List.map_append]
  exact hfields.trans (by decide)

/-- A draft names no collection and no field twice. -/
structure NodeDraft.Tidy (draft : NodeDraft) : Prop where
  slots : draft.slots.Nodup
  keys : (draft.fields.map Prod.fst).Nodup

lemma NodeDraft.Tidy.of_keys {kind : NodeKind} {name : Option String} {fields : FieldList}
    (h : (fields.map Prod.fst).Nodup) : NodeDraft.Tidy { kind, name, fields } := ⟨.nil, h⟩

lemma NodeDraft.Tidy.plain {kind : NodeKind} {name : Option String} :
    NodeDraft.Tidy { kind, name } := .of_keys .nil

lemma NodeDraft.Tidy.of_sublist {draft : NodeDraft} (hs : draft.slots.Nodup)
    (hk : (draft.fields.map Prod.fst).Sublist fieldKeys) : draft.Tidy :=
  ⟨hs, hk.nodup (by decide)⟩

lemma Declaration.tidy_draft (d : Declaration) : d.draft.Tidy :=
  .of_sublist (show [Slot.attributes, Slot.operations].Nodup by decide) d.sublist_keys_draft

/-! ## Builders -/

section Builders

variable {T : Document → Document → Prop} [IsPreorder Document T] {E : ModelError → Prop}

/-- Attaching nodes and declaring collections stays within limits. -/
structure Permits (T : Document → Document → Prop) (E : ModelError → Prop) : Prop where
  attach : ∀ parent slot (draft : NodeDraft), draft.Tidy →
    Within T E (Drawing.attach parent slot draft)
  declareSlot : ∀ id slot, Within T E (Drawing.declareSlot id slot)

lemma StateMachine.within_draw (h : Permits T E) (name : String) {states : StateRegistry}
    (hv : ∀ name ∈ states.edges.flatMap Edge.ends,
      states.kind? name = none → E (.integrity (.unregisteredState name))) :
    Within T E (draw name states) := by
  have hvertex (region : NodeId) : ∀ name ∈ states.edges.flatMap Edge.ends,
      Within T E (drawVertex states region name) := by
    intro name hname
    unfold drawVertex
    cases hkind : states.kind? name with
    | some kind =>
      have htidy : (kind.draft name).Tidy := by
        cases kind with
        | initial => exact .of_keys (List.nodup_singleton _)
        | final => exact .plain
        | state => exact .plain
      exact h.attach region .vertices _ htidy
    | none => exact .throw (hv name hname hkind)
  have hlink (region source target : NodeId) (label : String) :
      Within T E (drawTransition region source target label) := by
    refine (h.attach region .transitions _ (.of_keys (by simp))).bind fun transition => ?_
    exact (h.attach transition .triggers _ .plain).bind fun _ => .pure ()
  have hregion : NodeDraft.Tidy { kind := .region, slots := [.vertices, .transitions] } :=
    ⟨by decide, .nil⟩
  unfold draw
  split
  · exact .pure none
  · refine Within.root.bind fun root => ?_
    refine (h.attach root .ownedElements _ .plain).bind fun machine => ?_
    refine (h.attach machine .regions _ hregion).bind fun region => ?_
    exact (Within.edges (hvertex region) (hlink region) .empty).bind fun _ => .pure _

lemma Interaction.within_draw (h : Permits T E) (names : Names) {participants : ParticipantRegistry}
    (hv : ∀ name ∈ participants.edges.flatMap Edge.ends,
      participants.kind? name = none → E (.integrity (.unregisteredParticipant name))) :
    Within T E (draw names participants) := by
  have hvertex (interaction : NodeId) : ∀ name ∈ participants.edges.flatMap Edge.ends,
      Within T E (drawLifeline participants interaction name) := by
    intro name hname
    unfold drawLifeline
    cases hkind : participants.kind? name with
    | some kind => exact h.attach interaction .participants _ .plain
    | none => exact .throw (hv name hname hkind)
  have hlink (interaction source target : NodeId) (label : String) :
      Within T E (drawMessage interaction source target label) :=
    (h.attach interaction .messages _ (.of_keys (by simp))).bind fun _ => .pure ()
  unfold draw
  split
  · exact .pure none
  · refine Within.root.bind fun root => ?_
    refine (h.attach root .ownedElements _ .plain).bind fun collaboration => ?_
    refine (h.attach collaboration .ownedElements _ .plain).bind
      fun interaction => ?_
    refine (h.attach interaction .ownedElements _ .plain).bind fun _ => ?_
    refine (h.declareSlot interaction .participants).bind fun _ => ?_
    refine (h.declareSlot interaction .messages).bind fun _ => ?_
    exact (Within.edges (hvertex interaction) (hlink interaction) .empty).bind fun _ => .pure _

lemma Relationship.within_draw (h : Permits T E) (bindings : NameTable) (reporting : Bool)
    (report : RelationshipReport) (r : Relationship) :
    Within T E (draw bindings reporting report r) := by
  have hdirected (kind : NodeKind) (source target : NodeId) :
      Within T E (drawDirected kind source target) :=
    (h.attach source .ownedElements _ (.of_keys (by simp))).bind fun _ => .pure ()
  have hassociation (part whole : NodeId) : Within T E (drawAssociation part whole) := by
    refine (h.attach part .ownedElements _ .plain).bind fun association => ?_
    refine (h.attach association .endOne _ (.of_keys (by simp))).bind fun _ => ?_
    exact (h.attach association .endTwo _ (.of_keys (by simp))).bind fun _ => .pure ()
  have hbetween (source target : NodeId) (kind : RelationshipKind) :
      Within T E (drawBetween source target kind) := by
    cases kind with
    | generalization => exact hdirected .generalization source target
    | realization => exact hdirected .interfaceRealization source target
    | aggregation => exact hassociation source target
  unfold draw
  split
  · next source target _ => exact (hbetween source target r.kind).bind fun _ => .pure _
  · exact .pure _

lemma Relationship.within_drawAll (h : Permits T E) (reporting : Bool) (store : ClassStore) :
    Within T E (drawAll reporting store) :=
  Within.foldlM (fun report r => within_draw h store.bindings reporting report r) _ _

namespace Mapping

lemma within_drawMethod (h : Permits T E) (classNode : NodeId) (m : Method) :
    Within T E (drawMethod classNode m) := by
  have hmethod : m.draft.Tidy := .of_sublist (List.nodup_singleton _) m.sublist_keys_draft
  have hresult : (returnDraft m.returnType).Tidy := .of_keys (by simp [typeField])
  unfold drawMethod drawParameters
  refine (h.attach classNode .operations _ hmethod).bind fun operation => ?_
  refine (h.attach operation .parameters _ hresult).bind fun _ => ?_
  refine .forM (fun p => ?_) m.parameters
  have hparameter : p.draft.Tidy := .of_keys (List.nodup_singleton _)
  exact (h.attach operation .parameters _ hparameter).bind fun _ => .pure ()

variable {T' : ClassModel → ClassModel → Prop} [IsPreorder ClassModel T']

/-- The members of a class draw in the document and add relationships to the store. -/
lemma within_mapMember (h : Permits T E)
    (hdraw : ∀ model doc, T model.document doc → T' model { model with document := doc })
    (hrelate : ∀ (model : ClassModel) rs,
      T' model { model with classes := model.classes.addRelationships rs })
    (hfault : ∀ e, E (.malformed e)) (className : String) (classNode : NodeId) (member : Member) :
    Within T' E (mapMember className classNode member) := by
  cases member with
  | field f =>
    have hfield : f.draft.Tidy := .of_sublist .nil f.sublist_keys_draft
    refine (Within.draw (h.attach classNode .attributes _ hfield) hdraw).bind fun _ => ?_
    exact (Within.store fun model => hrelate model _).bind fun _ => .pure []
  | method m =>
    refine (Within.draw (within_drawMethod h classNode m) hdraw).bind fun _ => .outcome ?_
    intro e he
    unfold annotationEdges at he
    split at he
    · cases he
    · cases he
      exact hfault _
  | other => exact .pure []

/-- Besides drawing, the mapping of a declaration adds to the store of classes. -/
lemma within_mapDeclaration (h : Permits T E)
    (hdraw : ∀ model doc, T model.document doc → T' model { model with document := doc })
    (hclass : ∀ (model : ClassModel) entry,
      T' model { model with classes := model.classes.addClass entry })
    (hrelate : ∀ (model : ClassModel) rs,
      T' model { model with classes := model.classes.addRelationships rs })
    (hfault : ∀ e, E (.malformed e)) (owner : NodeId) (d : Declaration) :
    Within T' E (mapDeclaration owner d) := by
  unfold mapDeclaration
  refine (Within.draw (h.attach owner .ownedElements _ d.tidy_draft) hdraw).bind fun id => ?_
  refine (Within.store fun model => hclass model _).bind fun _ => ?_
  refine (Within.store fun model => hrelate model _).bind fun _ => ?_
  refine (Within.mapM (fun member => ?_) d.members).bind fun edges => .pure _
  exact within_mapMember h hdraw hrelate hfault d.name id member

end Mapping

end Builders

end JavaUml
