/-
# The annotations of the methods in a source

A scan decodes the annotations of the methods in a source one after the other.  It fails with the
first one that cannot be decoded (`failure?_scanSource`), and otherwise each of them that belongs to
a family is an annotation of the method that it was found at (`exists_method_of_mark`).
-/
import JavaUml.Java.Scanner
import JavaUml.Proofs.Loops

namespace JavaUml.Java

/-! ## Annotations in order -/

/-- The annotations of a member with the name of the method. -/
def MemberSyntax.marks : MemberSyntax → List (String × AnnotationSyntax)
  | .method m => (m.modifiers.filterMap ModifierSyntax.mark?).map (m.name, ·)
  | .field _ => []
  | .other => []

/-- The annotations of the methods of a class or interface, in order. -/
def ClassifierSyntax.marks (c : ClassifierSyntax) : List (String × AnnotationSyntax) :=
  c.members.flatMap MemberSyntax.marks

/-- What is wrong with an annotation of a method, if anything. -/
def markFailure? (mark : String × AnnotationSyntax) : Option MalformedAnnotation :=
  failure? (mark.2.decode mark.1)

lemma failure?_members (member : MemberSyntax) :
    failure? member.members = member.marks.findSome? markFailure? := by
  cases member with
  | field f => rfl
  | other => rfl
  | method m =>
    have hmarks := failure?_mapM (f := AnnotationSyntax.decode m.name)
      (m.modifiers.filterMap ModifierSyntax.mark?)
    rw [MemberSyntax.marks, List.findSome?_map]
    refine Eq.trans ?_ hmarks
    rw [MemberSyntax.members, MethodSyntax.method]
    cases (m.modifiers.filterMap ModifierSyntax.mark?).mapM (AnnotationSyntax.decode m.name) <;> rfl

lemma failure?_declaration (c : ClassifierSyntax) :
    failure? c.declaration = c.marks.findSome? markFailure? := by
  rw [ClassifierSyntax.marks, findSome?_flatMap]
  simp only [← failure?_members]
  rw [← failure?_mapM, ClassifierSyntax.declaration]
  cases c.members.mapM MemberSyntax.members <;> rfl

section Sources

variable {source : String} {classifiers : List ClassifierSyntax} {ds : List Declaration}

/-- A scan fails at the first annotation of a method that cannot be decoded. -/
lemma failure?_scanSource (h : readSource? source = some classifiers) :
    failure? (scanSource source) =
      (classifiers.flatMap ClassifierSyntax.marks).findSome? markFailure? := by
  rw [findSome?_flatMap]
  simp only [← failure?_declaration]
  rw [scanSource, h, ← failure?_mapM]
  exact failure?_map _ _

lemma exists_of_declaration {c : ClassifierSyntax} {d : Declaration} (h : c.declaration = .ok d) :
    ∃ members, c.members.mapM MemberSyntax.members = .ok members ∧
      d = {
        kind := c.kind
        name := c.name
        modifiers := c.modifiers.filterMap ModifierSyntax.word?
        members := members.flatten
        parents := c.parents.filterMap SupertypeSyntax.name?
        interfaces := c.interfaces.filterMap SupertypeSyntax.name? } := by
  unfold ClassifierSyntax.declaration at h
  cases hmembers : c.members.mapM MemberSyntax.members with
  | error e =>
    rw [hmembers] at h
    cases h
  | ok members =>
    rw [hmembers] at h
    cases h
    exact ⟨members, rfl, rfl⟩

lemma exists_of_method {m : MethodSyntax} {members : List Member}
    (h : (MemberSyntax.method m).members = .ok members) :
    ∃ m' as, members = [.method m'] ∧ m'.name = m.name ∧ m'.annotations = as.filterMap id ∧
      (m.modifiers.filterMap ModifierSyntax.mark?).mapM (AnnotationSyntax.decode m.name) =
        .ok as := by
  rw [MemberSyntax.members, MethodSyntax.method] at h
  cases has : (m.modifiers.filterMap ModifierSyntax.mark?).mapM
      (AnnotationSyntax.decode m.name) with
  | error e =>
    rw [has] at h
    cases h
  | ok as =>
    rw [has] at h
    cases h
    exact ⟨_, as, rfl, rfl, rfl, rfl⟩

/-- An annotation of a method in a source is an annotation of the method that is found. -/
lemma exists_method_of_mark (h : readSource? source = some classifiers)
    (hscan : scanSource source = .ok (some ds)) {name : String} {mark : AnnotationSyntax}
    (hmark : (name, mark) ∈ classifiers.flatMap ClassifierSyntax.marks) {a : Annotation}
    (ha : mark.decode name = .ok (some a)) :
    ∃ d ∈ ds, ∃ m ∈ d.methods, m.name = name ∧ a ∈ m.annotations := by
  obtain ⟨c, hc, hmark⟩ := List.mem_flatMap.mp hmark
  obtain ⟨member, hmember, hmark⟩ := List.mem_flatMap.mp hmark
  obtain ⟨m, rfl⟩ : ∃ m, member = .method m := by
    cases member with
    | method m => exact ⟨m, rfl⟩
    | field f => cases hmark
    | other => cases hmark
  obtain ⟨_, hmark, heq⟩ := List.mem_map.mp hmark
  cases heq
  have hdeclarations : classifiers.mapM ClassifierSyntax.declaration = .ok ds := by
    rw [scanSource, h] at hscan
    cases hall : classifiers.mapM ClassifierSyntax.declaration with
    | error e => simp [hall, Except.map] at hscan
    | ok ds' =>
      simp only [hall, Except.map, Except.ok.injEq, Option.some.injEq] at hscan
      rw [hscan]
  -- the declaration, the method in it, and the annotation of the method
  obtain ⟨d, hd, hdeclaration⟩ := exists_of_forall₂ (mapM_eq_ok_iff.mp hdeclarations) hc
  obtain ⟨members, hmembers, rfl⟩ := exists_of_declaration hdeclaration
  obtain ⟨ms, hms, hmethod⟩ := exists_of_forall₂ (mapM_eq_ok_iff.mp hmembers) hmember
  obtain ⟨m', as, rfl, hname, hannotations, has⟩ := exists_of_method hmethod
  obtain ⟨a', ha', hdecode⟩ := exists_of_forall₂ (mapM_eq_ok_iff.mp has) hmark
  rw [ha] at hdecode
  cases hdecode
  refine ⟨_, hd, m', ?_, hname, ?_⟩
  · refine List.mem_filterMap.mpr ⟨.method m', ?_, rfl⟩
    exact List.mem_flatten.mpr ⟨_, hms, List.mem_cons_self⟩
  · rw [hannotations]
    exact List.mem_filterMap.mpr ⟨some a, ha', rfl⟩

end Sources

end JavaUml.Java
