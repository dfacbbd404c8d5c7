/-
# What a run writes

A run finds the declarations under the source path, makes an assembly of them and writes its text.
Each of these can fail, and the file is written last: a run that fails leaves the files as they are,
and one that succeeds writes one file (`run_writes_output_only`).  Where this file is depends on
what the output path leads to, and what is in it depends on nothing but the declarations that were
found and the options.
-/
import Mathlib
import JavaUml.CommandLine.Run
import JavaUml.Proofs.Assembly.Outcome
import JavaUml.Proofs.FileSystem.Writing
import JavaUml.Proofs.Java.Scanning

namespace JavaUml.CommandLine

/-! ## What a run depends on -/

/-- The declarations that a run finds: those that the sources at the source path hold. -/
def Finds (options : Options) (files : FileSystem) (ds : List Declaration) : Prop :=
  ∃ tree dss, files.entry? (options.source.getD ".") = some tree ∧
    List.Forall₂ Java.SourceFile.Holds (Java.sourcesAt (options.source.getD ".") tree) dss ∧
    ds = dss.flatten

/-- What a run chooses about the model. -/
def chosenConfig (options : Options) : AssemblyConfig :=
  { seed := options.seed.getD defaultSeed, project := options.project
    reporting := options.reporting }

/-- The text that a run writes, on one line or indented. -/
def chosenText (options : Options) (a : Assembly) : String :=
  if options.compact then a.document.toJson.compact else a.document.toJson.pretty

/-- The path to which a run writes.  What ends in a separator or leads to a directory is
completed. -/
def chosenPath (options : Options) (files : FileSystem) : String :=
  match options.output with
  | none => "uml.mdj"
  | some path =>
    if path.toList.getLast? = some '/' ∨ path.toList.getLast? = some '\\' ∨
        files.isDirectory path = true
    then Path.join path "uml.mdj" else path

/-- Why there is nothing that a run could write: there are no sources, one of them has a malformed
annotation, or the declarations have no assembly. -/
inductive Lacks (options : Options) (files : FileSystem) : Prop
  | source : files.entry? (options.source.getD ".") = none → Lacks options files
  | understanding {tree : FileTree} {file : Java.SourceFile} {e : MalformedAnnotation} :
      files.entry? (options.source.getD ".") = some tree →
      file ∈ Java.sourcesAt (options.source.getD ".") tree → file.IsMalformed e →
      Lacks options files
  | model {ds : List Declaration} {e : ModelError} : Finds options files ds →
      assemble (chosenConfig options) ds = .error e → Lacks options files

section

variable {options : Options} {files : FileSystem} {ds : List Declaration}

lemma outputPath_eq (options : Options) (files : FileSystem) :
    outputPath files.isDirectory options.output = chosenPath options files := by
  unfold outputPath chosenPath
  cases options.output with
  | none => rfl
  | some path => simp [defaultFileName, or_assoc]

lemma text_eq_chosenText (options : Options) (a : Assembly) :
    a.document.text (!options.compact) = chosenText options a := by
  cases hc : options.compact <;> simp [Document.text, chosenText, hc]

lemma finds_iff : Finds options files ds ↔
    Java.scanTree options.sourcePath (files.entry? options.sourcePath) = .ok ds :=
  Java.scanTree_eq_ok_iff.symm

/-- If nothing is found, a run fails. -/
lemma run_of_scan_error {e : Java.ScanError}
    (h : Java.scanTree options.sourcePath (files.entry? options.sourcePath) = .error e) :
    (run options files).result = .error (.scan e) ∧ (run options files).files = files := by
  simp [run, plan, h]

/-- If there is no assembly, a run fails. -/
lemma run_of_model_error (h : Finds options files ds) {e : ModelError}
    (ha : assemble (chosenConfig options) ds = .error e) :
    (run options files).result = .error (.model e) ∧ (run options files).files = files := by
  have hconfig : assemble options.config ds = .error e := ha
  simp [run, plan, finds_iff.mp h, hconfig]

/-- If there is an assembly, it is written. -/
lemma run_of_assembly (h : Finds options files ds) {a : Assembly}
    (ha : assemble (chosenConfig options) ds = .ok a) :
    (run options files).result =
        ((files.write (chosenPath options files) (chosenText options a).toUTF8).map
          fun _ => ()).mapError (RunError.write (chosenPath options files)) ∧
      (run options files).files =
        match files.write (chosenPath options files) (chosenText options a).toUTF8 with
        | .ok after => after
        | .error _ => files := by
  have hconfig : assemble options.config ds = .ok a := ha
  simp only [run, plan, finds_iff.mp h, hconfig, text_eq_chosenText, outputPath_eq]
  cases files.write (chosenPath options files) (chosenText options a).toUTF8 <;> exact ⟨rfl, rfl⟩

end

/-- A run writes nothing but its output, and this only if everything else has succeeded.

If something is lacking, then the run fails and the files remain as they are.  Otherwise
declarations are found, and there is an assembly of them.  If its text cannot be written to the
output path, then the run fails, and the files remain as they are; else the run succeeds and has
written the text to this path and nothing else.

The files are those to which the paths lead when links on them are resolved, as they are before the
sources are read (`Main.load`); only a link below the source path is something special. -/
theorem run_writes_output_only (options : Options) (files : FileSystem) :
    (Lacks options files →
      (∃ e, (run options files).result = .error e) ∧ (run options files).files = files) ∧
    (¬Lacks options files →
      ∃ ds a, Finds options files ds ∧ assemble (chosenConfig options) ds = .ok a ∧
        ((∃ e, files.write (chosenPath options files) (chosenText options a).toUTF8 = .error e ∧
            (run options files).result = .error (.write (chosenPath options files) e) ∧
            (run options files).files = files) ∨
          (run options files).result = .ok () ∧
            files.WritesOnly (chosenPath options files) (chosenText options a).toUTF8
              (run options files).files)) := by
  constructor
  · rintro (hnone | ⟨htree, hfile, hmalformed⟩ | ⟨hfinds, ha⟩)
    · have hscan : Java.scanTree options.sourcePath (files.entry? options.sourcePath) =
          .error (.missingRoot options.sourcePath) := by
        rw [Options.sourcePath, hnone, Java.scanTree]
      obtain ⟨hresult, hfiles⟩ := run_of_scan_error hscan
      exact ⟨⟨_, hresult⟩, hfiles⟩
    · cases hscan : Java.scanTree options.sourcePath (files.entry? options.sourcePath) with
      | error e =>
        obtain ⟨hresult, hfiles⟩ := run_of_scan_error hscan
        exact ⟨⟨_, hresult⟩, hfiles⟩
      | ok ds =>
        rw [Options.sourcePath, htree] at hscan
        exact absurd hscan (hmalformed.scanTree_ne_ok hfile ds)
    · obtain ⟨hresult, hfiles⟩ := run_of_model_error hfinds ha
      exact ⟨⟨_, hresult⟩, hfiles⟩
  · intro hlacks
    cases hscan : Java.scanTree options.sourcePath (files.entry? options.sourcePath) with
    | error e =>
      rcases Java.exists_of_scanTree_error hscan with hnone | ⟨tree, htree, file, hfile, _, hm⟩
      · exact absurd (.source hnone) hlacks
      · exact absurd (.understanding htree hfile hm) hlacks
    | ok ds =>
      have hfinds := finds_iff.mpr hscan
      cases ha : assemble (chosenConfig options) ds with
      | error e => exact absurd (.model hfinds ha) hlacks
      | ok a =>
        obtain ⟨hresult, hfiles⟩ := run_of_assembly hfinds ha
        refine ⟨ds, a, hfinds, ha, ?_⟩
        cases hwrite : files.write (chosenPath options files) (chosenText options a).toUTF8 with
        | error e =>
          rw [hwrite] at hresult hfiles
          exact .inl ⟨e, rfl, hresult, hfiles⟩
        | ok after =>
          rw [hwrite] at hresult hfiles
          refine .inr ⟨hresult, ?_⟩
          rw [hfiles]
          exact FileSystem.writesOnly_of_write hwrite

/-- An annotation without arguments stops a run.  Without the annotation the document is written
into the directory that is given. -/
theorem run_writes_output_only_of_directory :
    let options : Options := { source := some "A.java", output := some "out" }
    let files (text : String) : FileSystem :=
      ⟨.directory [("A.java", .file text.toUTF8), ("out", .directory [])], []⟩
    let malformed := files "class A { @Trigger void m(); }"
    let correct := files "class A {}"
    ((∃ e, (run options malformed).result = .error e) ∧
        (run options malformed).files = malformed) ∧
      ∃ a, assemble (chosenConfig options) [{ kind := .classType, name := "A" }] = .ok a ∧
        (run options correct).result = .ok () ∧
        correct.WritesOnly "out/uml.mdj" (chosenText options a).toUTF8
          (run options correct).files := by
  intro options files malformed correct
  have hentry (text : String) :
      FileSystem.entry? (files text) "A.java" = some (.file text.toUTF8) := rfl
  have hsources (text : String) :
      Java.sourcesAt "A.java" (.file text.toUTF8) = [⟨"A.java", text.toUTF8⟩] := rfl
  refine ⟨(run_writes_output_only options malformed).1 ?_, ?_⟩
  · have hscan : Java.scanSource "class A { @Trigger void m(); }" =
        .error ⟨⟨.trigger, false⟩, "m", .missingBoth⟩ := by
      cbv
    exact .understanding (hentry _) (hsources _ ▸ List.mem_singleton_self _)
      ⟨_, Java.fromUTF8?_toUTF8 "class A { @Trigger void m(); }", hscan⟩
  · have hscan : Java.scanSource "class A {}" =
        .ok (some [{ kind := .classType, name := "A" }]) := by
      cbv
    have hholds : Java.SourceFile.Holds ⟨"A.java", "class A {}".toUTF8⟩
        [{ kind := .classType, name := "A" }] :=
      .read (Java.fromUTF8?_toUTF8 "class A {}") hscan
    have hall : List.Forall₂ Java.SourceFile.Holds
        (Java.sourcesAt "A.java" (.file "class A {}".toUTF8))
        [[{ kind := .classType, name := "A" }]] := by
      rw [hsources]
      exact .cons hholds .nil
    have hfinds : Finds options correct [{ kind := .classType, name := "A" }] :=
      ⟨_, [_], hentry _, hall, rfl⟩
    obtain ⟨a, ha, -⟩ := @Assembly.assemble_of_nodeCount_le (chosenConfig options)
      [{ kind := .classType, name := "A" }] (by decide) (by decide)
    have hpath : chosenPath options correct = "out/uml.mdj" := by decide +kernel
    have hwrite (content : ByteArray) : correct.write "out/uml.mdj" content =
        .ok (correct.store ["out", "uml.mdj"] content) := rfl
    obtain ⟨hresult, -⟩ := run_of_assembly hfinds ha
    rw [hpath, hwrite] at hresult
    have hlacks : ¬Lacks options correct := by
      intro hlacks
      obtain ⟨⟨e, he⟩, -⟩ := (run_writes_output_only options correct).1 hlacks
      rw [hresult] at he
      cases he
    obtain ⟨ds, a', hfinds', ha', ⟨e, he, -⟩ | ⟨-, hwrites⟩⟩ :=
      (run_writes_output_only options correct).2 hlacks
    · rw [hpath, hwrite] at he
      cases he
    · obtain rfl := Except.ok.inj ((finds_iff.mp hfinds).symm.trans (finds_iff.mp hfinds'))
      obtain rfl := Except.ok.inj (ha.symm.trans ha')
      rw [hpath] at hwrites
      exact ⟨a, ha, hresult, hwrites⟩

end JavaUml.CommandLine
