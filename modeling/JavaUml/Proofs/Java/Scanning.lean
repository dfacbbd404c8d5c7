/-
# What a scan finds

A source holds the declarations that are read from it.  One that is not text, or not correct Java,
holds none (`SourceFile.Holds`); one in which an annotation is malformed makes the scan fail
(`SourceFile.IsMalformed`).  A scan finds what the sources hold, one after the other
(`scanTree_eq_ok_iff`), or there is nothing to be scanned, or it fails at the first source that is
malformed (`scanTree_eq_error_iff`).
-/
import JavaUml.Java.Sources
import JavaUml.Proofs.Loops

namespace JavaUml.Java

lemma fromUTF8?_toUTF8 (text : String) : String.fromUTF8? text.toUTF8 = some text :=
  dif_pos text.isValidUTF8

/-- What a source file adds to a scan. -/
inductive SourceFile.Holds (file : SourceFile) : List Declaration → Prop
  | notText : String.fromUTF8? file.content = none → Holds file []
  | incorrect {source : String} : String.fromUTF8? file.content = some source →
      scanSource source = .ok none → Holds file []
  | read {source : String} {ds : List Declaration} : String.fromUTF8? file.content = some source →
      scanSource source = .ok (some ds) → Holds file ds

/-- A source file in which an annotation of a method cannot be understood. -/
def SourceFile.IsMalformed (file : SourceFile) (e : MalformedAnnotation) : Prop :=
  ∃ source, String.fromUTF8? file.content = some source ∧ scanSource source = .error e

section

variable {file : SourceFile} {files : List SourceFile} {ds : List Declaration}

lemma SourceFile.declarations_eq_ok_iff : file.declarations = .ok ds ↔ file.Holds ds := by
  rw [declarations]
  constructor
  · intro h
    split at h
    · next hnone =>
      cases h
      exact .notText hnone
    · next source hsource =>
      split at h
      · next found? hscan =>
        cases found? with
        | none =>
          cases h
          exact .incorrect hsource hscan
        | some found =>
          cases h
          exact .read hsource hscan
      · cases h
  · rintro (hnone | ⟨hsource, hscan⟩ | ⟨hsource, hscan⟩)
    · rw [hnone]
    · rw [hsource]
      simp only [hscan]
      rfl
    · rw [hsource]
      simp only [hscan]
      rfl

lemma SourceFile.declarations_eq_error_iff {e : ScanError} : file.declarations = .error e ↔
    ∃ malformed, e = .malformed file.path malformed ∧ file.IsMalformed malformed := by
  rw [declarations]
  constructor
  · intro h
    split at h
    · cases h
    · next source hsource =>
      split at h
      · cases h
      · next malformed hscan =>
        cases h
        exact ⟨malformed, rfl, source, hsource, hscan⟩
  · rintro ⟨malformed, rfl, source, hsource, hscan⟩
    rw [hsource]
    simp only [hscan]

/-- The sources are scanned one after the other. -/
lemma mapM_declarations_eq_ok_iff {dss : List (List Declaration)} :
    files.mapM SourceFile.declarations = .ok dss ↔ List.Forall₂ SourceFile.Holds files dss := by
  simp only [mapM_eq_ok_iff, SourceFile.declarations_eq_ok_iff]

end

section

variable {path : String} {tree? : Option FileTree}

/-- The declarations that are found are those that the sources hold, one source after the other. -/
lemma scanTree_eq_ok_iff {ds : List Declaration} : scanTree path tree? = .ok ds ↔
    ∃ tree dss, tree? = some tree ∧ List.Forall₂ SourceFile.Holds (sourcesAt path tree) dss ∧
      ds = dss.flatten := by
  cases tree? with
  | none => simp [scanTree]
  | some tree =>
    simp only [scanTree, Option.some.injEq, ← mapM_declarations_eq_ok_iff]
    cases hscan : (sourcesAt path tree).mapM SourceFile.declarations with
    | error e => simp [hscan, bind, Except.bind]
    | ok dss => simp [hscan, bind, Except.bind, pure, Except.pure, eq_comm]

/-- A scan fails at the first source that is malformed. -/
lemma scanTree_eq_error_iff {tree : FileTree} {e : ScanError} :
    scanTree path (some tree) = .error e ↔ ∃ before file after fault,
      sourcesAt path tree = before ++ file :: after ∧ (∀ earlier ∈ before, ∃ ds, earlier.Holds ds) ∧
        file.IsMalformed fault ∧ e = .malformed file.path fault := by
  have hscan : scanTree path (some tree) =
      ((sourcesAt path tree).mapM SourceFile.declarations).map List.flatten := rfl
  have hholds (file : SourceFile) : failure? file.declarations = none ↔ ∃ ds, file.Holds ds := by
    simp only [← SourceFile.declarations_eq_ok_iff]
    cases file.declarations <;> simp [failure?]
  rw [← failure?_eq_some_iff, hscan, failure?_map, failure?_mapM, List.findSome?_eq_some_iff]
  simp only [failure?_eq_some_iff, SourceFile.declarations_eq_error_iff, hholds]
  constructor
  · rintro ⟨before, file, after, hsplit, ⟨fault, rfl, hfault⟩, hbefore⟩
    exact ⟨before, file, after, fault, hsplit, hbefore, hfault, rfl⟩
  · rintro ⟨before, file, after, fault, hsplit, hbefore, hfault, rfl⟩
    exact ⟨before, file, after, hsplit, ⟨fault, rfl, hfault⟩, hbefore⟩

/-- A scan fails only if there is nothing to be scanned, or a source is malformed. -/
lemma exists_of_scanTree_error {e : ScanError} (h : scanTree path tree? = .error e) :
    tree? = none ∨ ∃ tree, tree? = some tree ∧ ∃ file ∈ sourcesAt path tree, ∃ malformed,
      file.IsMalformed malformed := by
  cases tree? with
  | none => exact .inl rfl
  | some tree =>
    obtain ⟨before, file, after, malformed, hsplit, -, hmalformed, -⟩ := scanTree_eq_error_iff.mp h
    exact .inr ⟨tree, rfl, file, by simp [hsplit], malformed, hmalformed⟩

/-- Nothing is found if a source is malformed. -/
lemma SourceFile.IsMalformed.scanTree_ne_ok {tree : FileTree} {file : SourceFile}
    {malformed : MalformedAnnotation} (h : file.IsMalformed malformed)
    (hfile : file ∈ sourcesAt path tree) (ds : List Declaration) :
    scanTree path (some tree) ≠ .ok ds := by
  intro hscan
  obtain ⟨_, dss, ht, hholds, -⟩ := scanTree_eq_ok_iff.mp hscan
  cases ht
  obtain ⟨i, hi, rfl⟩ := List.getElem_of_mem hfile
  have hfound := SourceFile.declarations_eq_ok_iff.mpr (hholds.get hi (hholds.length_eq ▸ hi))
  have hnot := SourceFile.declarations_eq_error_iff.mpr ⟨malformed, rfl, h⟩
  exact absurd (hfound.symm.trans hnot) nofun

end

end JavaUml.Java
