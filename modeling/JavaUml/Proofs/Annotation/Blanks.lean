/-
# Annotations with blank names

Turning annotations into edges fails at the first entry with a blank name, and if there is none it
gives the edges of all entries in order.  Both are said here without the order of evaluation: the
edges are read off the entries (`Declaration.links`), and the entry where it fails is described by
what stands before it (`FirstBlank`).
-/
import JavaUml.ClassModel.Mapping
import Mathlib.Tactic.Common
import Mathlib.Tactic.Lemma

namespace JavaUml

section Barring

variable {ε α β : Type}

/-- A value, unless there is a fault. -/
def barring (fault : Option ε) (a : α) : Except ε α :=
  match fault with
  | some e => .error e
  | none => .ok a

lemma eq_of_barring {fault : Option ε} {a b : α} (h : barring fault a = .ok b) : b = a := by
  cases fault with
  | some e => cases h
  | none => exact (Except.ok.inj h).symm

/-- A loop over a list fails with the first fault of an item. -/
lemma mapM_eq_barring {f : α → Except ε β} {fault? : α → Option ε} {g : α → β}
    (h : ∀ x, f x = barring (fault? x) (g x)) (xs : List α) :
    xs.mapM f = barring (xs.findSome? fault?) (xs.map g) := by
  induction xs with
  | nil => rfl
  | cons x xs ih =>
    rw [List.mapM_cons, h x, ih]
    cases hx : fault? x with
    | some e =>
      rw [List.findSome?_cons_of_isSome (by simp [hx]), hx]
      rfl
    | none =>
      rw [List.findSome?_cons_of_isNone (by simp [hx])]
      cases xs.findSome? fault? <;> rfl

/-- An item is the first one of a list with a property, after some items without it. -/
structure IsFirst (P : α → Prop) (before : List α) (x : α) (xs : List α) : Prop where
  split : ∃ after, xs = before ++ x :: after
  holds : P x
  not_before : ∀ y ∈ before, ¬P y

lemma findSome?_eq_some_iff_isFirst {fault? : α → Option ε} {P : α → Prop}
    (h : ∀ x, fault? x = none ↔ ¬P x) {xs : List α} {e : ε} :
    xs.findSome? fault? = some e ↔ ∃ before x, IsFirst P before x xs ∧ fault? x = some e := by
  rw [List.findSome?_eq_some_iff]
  constructor
  · rintro ⟨before, x, after, rfl, hx, hbefore⟩
    refine ⟨before, x, ⟨⟨after, rfl⟩, ?_, fun y hy => (h y).mp (hbefore y hy)⟩, hx⟩
    by_contra hP
    rw [(h x).mpr hP] at hx
    cases hx
  · rintro ⟨before, x, ⟨⟨after, rfl⟩, -, hbefore⟩, hx⟩
    exact ⟨before, x, after, rfl, hx, fun y hy => (h y).mpr (hbefore y hy)⟩

lemma findSome?_eq_none_iff_not_exists {fault? : α → Option ε} {P : α → Prop}
    (h : ∀ x, fault? x = none ↔ ¬P x) {xs : List α} :
    xs.findSome? fault? = none ↔ ¬∃ x ∈ xs, P x := by
  simp [List.findSome?_eq_none_iff, h]

end Barring

/-! ## Entries -/

namespace Endpoints

/-- The source or a target of an entry is blank. -/
def HasBlank (e : Endpoints) : Prop :=
  Text.isBlank e.source = true ∨ ∃ name ∈ e.targets.names, Text.isBlank name = true

instance (e : Endpoints) : Decidable e.HasBlank := inferInstanceAs (Decidable (_ ∨ _))

/-- What is wrong with an entry that has a blank name. -/
def fault (e : Endpoints) : AnnotationFault :=
  if Text.isBlank e.source then .blankSource else .blankTarget

/-- What is wrong with an entry, if anything. -/
def fault? (e : Endpoints) : Option AnnotationFault :=
  if Text.isBlank e.source || e.targets.names.any Text.isBlank then some e.fault else none

/-- The edges of an entry, be its names blank or not. -/
def links (label : String) (e : Endpoints) : List Edge :=
  e.targets.names.map (⟨e.source, ·, label⟩)

lemma fault?_eq_none_iff (e : Endpoints) : e.fault? = none ↔ ¬e.HasBlank := by
  simp [fault?, HasBlank]

lemma fault_of_fault? {e : Endpoints} {f : AnnotationFault} (h : e.fault? = some f) :
    f = e.fault := by
  unfold fault? at h
  split at h
  · exact (Option.some.inj h).symm
  · cases h

lemma edges_eq (label : String) (e : Endpoints) :
    e.edges label = barring e.fault? (e.links label) := by
  have htargets : ∀ names : List String, names.findSome? (fun name =>
      if Text.isBlank name then some AnnotationFault.blankTarget else none) =
      if names.any Text.isBlank then some .blankTarget else none := by
    intro names
    induction names with
    | nil => rfl
    | cons name names ih =>
      by_cases hb : Text.isBlank name <;> simp [hb, ih]
  have htarget : ∀ name : String,
      (if Text.isBlank name then throw .blankTarget else return ⟨e.source, name, label⟩ :
        Except AnnotationFault Edge) =
      barring (if Text.isBlank name then some AnnotationFault.blankTarget else none)
        ⟨e.source, name, label⟩ := by
    intro name
    by_cases hb : Text.isBlank name <;> simp only [hb] <;> rfl
  have hloop := mapM_eq_barring htarget e.targets.names
  rw [htargets] at hloop
  unfold edges fault? fault links
  by_cases hs : Text.isBlank e.source
  · simp [hs]
    rfl
  · simp only [hs, Bool.false_eq_true, if_false, Bool.false_or]
    exact hloop

end Endpoints

/-! ## Annotations, methods and declarations -/

namespace Annotation

/-- An entry of an annotation has a blank name. -/
def HasBlank (a : Annotation) : Prop := ∃ e ∈ a.entries, e.HasBlank

/-- What is wrong with an annotation of a method, if anything. -/
def fault? (method : String) (a : Annotation) : Option MalformedAnnotation :=
  (a.entries.findSome? Endpoints.fault?).map (⟨a.family, method, ·⟩)

/-- The edges of an annotation, be their names blank or not. -/
def links (method : String) (a : Annotation) : List RoutedEdge :=
  (a.entries.flatMap (Endpoints.links (label method))).map (⟨a.channel, ·⟩)

lemma fault?_eq_none_iff (a : Annotation) (method : String) :
    a.fault? method = none ↔ ¬a.HasBlank := by
  rw [fault?, Option.map_eq_none_iff]
  exact findSome?_eq_none_iff_not_exists Endpoints.fault?_eq_none_iff

lemma edges_eq (a : Annotation) (method : String) :
    a.edges method = barring (a.fault? method) (a.links method) := by
  rw [edges, mapM_eq_barring (Endpoints.edges_eq (label method)), fault?]
  cases a.entries.findSome? Endpoints.fault? <;> rfl

end Annotation

namespace Method

/-- An annotation of a method has a blank name. -/
def HasBlank (m : Method) : Prop := ∃ a ∈ m.annotations, a.HasBlank

/-- The error at the annotations of a method, if there is one. -/
def fault? (m : Method) : Option ModelError :=
  (m.annotations.findSome? fun a => a.fault? m.name).map .malformed

/-- The edges of the annotations of a method, be their names blank or not. -/
def links (m : Method) : List RoutedEdge := m.annotations.flatMap fun a => a.links m.name

lemma fault?_eq_none_iff (m : Method) : m.fault? = none ↔ ¬m.HasBlank := by
  rw [fault?, Option.map_eq_none_iff]
  exact findSome?_eq_none_iff_not_exists fun a : Annotation => a.fault?_eq_none_iff m.name

lemma annotationEdges_eq (m : Method) :
    Mapping.annotationEdges m = barring m.fault? m.links := by
  have hedges := fun a : Annotation => a.edges_eq m.name
  rw [Mapping.annotationEdges, mapM_eq_barring hedges, fault?]
  cases m.annotations.findSome? fun a => a.fault? m.name <;> rfl

end Method

namespace Member

/-- A member is a method that has a blank name in an annotation. -/
def HasBlank (member : Member) : Prop := ∃ m, member.method? = some m ∧ m.HasBlank

/-- The error at the annotations of a member, if there is one. -/
def fault? (member : Member) : Option ModelError := member.method?.bind Method.fault?

/-- The edges of the annotations of a member. -/
def links (member : Member) : List RoutedEdge := (member.method?.map Method.links).getD []

lemma fault?_eq_none_iff (member : Member) : member.fault? = none ↔ ¬member.HasBlank := by
  simp [fault?, HasBlank, Method.fault?_eq_none_iff]

end Member

namespace Declaration

/-- A method of a declaration has a blank name in an annotation. -/
def HasBlank (d : Declaration) : Prop := ∃ member ∈ d.members, member.HasBlank

/-- The error at the annotations of a declaration, if there is one. -/
def fault? (d : Declaration) : Option ModelError := d.members.findSome? Member.fault?

/-- The edges of all annotations of a declaration in order. -/
def links (d : Declaration) : List RoutedEdge := d.members.flatMap Member.links

lemma fault?_eq_none_iff (d : Declaration) : d.fault? = none ↔ ¬d.HasBlank :=
  findSome?_eq_none_iff_not_exists Member.fault?_eq_none_iff

lemma hasBlank_iff (d : Declaration) :
    d.HasBlank ↔ ∃ m ∈ d.methods, ∃ a ∈ m.annotations, ∃ e ∈ a.entries, e.HasBlank := by
  simp only [HasBlank, Member.HasBlank, Method.HasBlank, Annotation.HasBlank, methods,
    List.mem_filterMap]
  constructor
  · rintro ⟨member, hmember, m, hm, hblank⟩
    exact ⟨m, ⟨member, hmember, hm⟩, hblank⟩
  · rintro ⟨m, ⟨member, hmember, hm⟩, hblank⟩
    exact ⟨member, hmember, m, hm, hblank⟩

end Declaration

/-! ## The first blank -/

/-- The first entry with a blank name in the order of declarations, members, annotations and
entries: what stands before it, the method to which it belongs, and its annotation. -/
structure FirstBlank (ds : List Declaration) where
  declarations : List Declaration
  declaration : Declaration
  members : List Member
  method : Method
  annotation : Annotation
  entry : Endpoints
  first_declaration : IsFirst Declaration.HasBlank declarations declaration ds
  first_member : IsFirst Member.HasBlank members (.method method) declaration.members
  first_annotation :
    ∃ before, IsFirst Annotation.HasBlank before annotation method.annotations
  first_entry : ∃ before, IsFirst Endpoints.HasBlank before entry annotation.entries

/-- The annotation that cannot be used because of the first blank. -/
def FirstBlank.malformed {ds : List Declaration} (p : FirstBlank ds) : MalformedAnnotation :=
  ⟨p.annotation.family, p.method.name, p.entry.fault⟩

/-- The first blank tells the error at the annotations of declarations. -/
lemma FirstBlank.findSome?_eq {ds : List Declaration} (p : FirstBlank ds) :
    ds.findSome? Declaration.fault? = some (.malformed p.malformed) := by
  obtain ⟨_, hannotation⟩ := p.first_annotation
  obtain ⟨_, hentry⟩ := p.first_entry
  have hfault : p.entry.fault? = some p.entry.fault := by
    obtain ⟨f, hf⟩ := Option.ne_none_iff_exists'.mp fun h =>
      (p.entry.fault?_eq_none_iff.mp h) hentry.holds
    rw [hf, Endpoints.fault_of_fault? hf]
  have hentries : p.annotation.entries.findSome? Endpoints.fault? = some p.entry.fault :=
    (findSome?_eq_some_iff_isFirst Endpoints.fault?_eq_none_iff).mpr ⟨_, _, hentry, hfault⟩
  have hbad : p.annotation.fault? p.method.name = some p.malformed := by
    unfold Annotation.fault?
    rw [hentries]
    rfl
  have hannotations : (p.method.annotations.findSome? fun a => a.fault? p.method.name) =
      some p.malformed :=
    (findSome?_eq_some_iff_isFirst fun a : Annotation => a.fault?_eq_none_iff p.method.name).mpr
      ⟨_, _, hannotation, hbad⟩
  have hmethod : (Member.method p.method).fault? = some (.malformed p.malformed) :=
    congrArg (Option.map ModelError.malformed) hannotations
  have hmembers : p.declaration.fault? = some (.malformed p.malformed) :=
    (findSome?_eq_some_iff_isFirst Member.fault?_eq_none_iff).mpr ⟨_, _, p.first_member, hmethod⟩
  exact (findSome?_eq_some_iff_isFirst Declaration.fault?_eq_none_iff).mpr
    ⟨_, _, p.first_declaration, hmembers⟩

/-- If there is an error at the annotations of declarations, then there is a first blank. -/
lemma exists_firstBlank {ds : List Declaration} {e : ModelError}
    (h : ds.findSome? Declaration.fault? = some e) : Nonempty (FirstBlank ds) := by
  obtain ⟨declarations, d, hd, hde⟩ :=
    (findSome?_eq_some_iff_isFirst Declaration.fault?_eq_none_iff).mp h
  obtain ⟨members, member, hmember, hme⟩ :=
    (findSome?_eq_some_iff_isFirst Member.fault?_eq_none_iff).mp hde
  obtain ⟨m, hm, hmethod⟩ := Option.bind_eq_some_iff.mp hme
  obtain rfl : member = .method m := by
    cases member <;> simp_all [Member.method?]
  obtain ⟨bad, hbad, -⟩ := Option.map_eq_some_iff.mp hmethod
  obtain ⟨annotations, a, ha, hae⟩ :=
    (findSome?_eq_some_iff_isFirst fun a : Annotation => a.fault?_eq_none_iff m.name).mp hbad
  obtain ⟨fault, hfault, -⟩ := Option.map_eq_some_iff.mp hae
  obtain ⟨entries, entry, hentry, -⟩ :=
    (findSome?_eq_some_iff_isFirst Endpoints.fault?_eq_none_iff).mp hfault
  exact ⟨⟨declarations, d, members, m, a, entry, hd, hmember, ⟨_, ha⟩, ⟨_, hentry⟩⟩⟩

end JavaUml
