/-
# Running twice

A second run with the same options reads what the first one has written, as the output may lie among
the sources.  It changes nothing, if the first run has not replaced a source (`run_again`): paths
lead where they led before, and the text of a document is no source in Java, so that the same
declarations are found and the same text is written once more.
-/
import JavaUml.Proofs.CommandLine.Run
import JavaUml.Proofs.Java.Foreign
import JavaUml.Proofs.Java.Silent

namespace JavaUml.CommandLine

variable {options : Options} {files : FileSystem}

/-- A source is found at a place: below the source path the names that make up its path lead
there. -/
def FindsSourceAt (options : Options) (files : FileSystem) (place : List String) : Prop :=
  ∃ tree top names, files.entry? (options.source.getD ".") = some tree ∧
    files.place? (options.source.getD ".") = some top ∧ place = top ++ names ∧
    ∃ file ∈ Java.sourcesAt (options.source.getD ".") tree,
      file.path = Java.pathBelow (options.source.getD ".") names

/-- In a text that is no source there are no declarations. -/
lemma silent_of_readSource? {text : String} (h : Java.readSource? text = none) :
    Java.Silent text.toUTF8 := by
  intro path
  have hscan : Java.scanSource text = .ok none := by
    rw [Java.scanSource, h]
  have hdeclarations : (⟨path, text.toUTF8⟩ : Java.SourceFile).declarations = .ok [] :=
    Java.SourceFile.declarations_eq_ok_iff.mpr (.incorrect (Java.fromUTF8?_toUTF8 text) hscan)
  rw [Java.SourceFile.isHeard, hdeclarations]

lemma silent_chosenText (options : Options) (a : Assembly) :
    Java.Silent (chosenText options a).toUTF8 := by
  rw [← text_eq_chosenText]
  exact silent_of_readSource? (a.document.readSource?_text _)

/-- A run that succeeds has written an assembly of what it has found. -/
lemma exists_of_run_ok (h : (run options files).result = .ok ()) :
    ∃ ds a, Finds options files ds ∧ assemble (chosenConfig options) ds = .ok a ∧
      files.write (chosenPath options files) (chosenText options a).toUTF8 =
        .ok (run options files).files := by
  cases hscan : Java.scanTree options.sourcePath (files.entry? options.sourcePath) with
  | error e =>
    rw [(run_of_scan_error hscan).1] at h
    cases h
  | ok ds =>
    have hfinds := finds_iff.mpr hscan
    cases ha : assemble (chosenConfig options) ds with
    | error e =>
      rw [(run_of_model_error hfinds ha).1] at h
      cases h
    | ok a =>
      obtain ⟨hresult, hfiles⟩ := run_of_assembly hfinds ha
      refine ⟨ds, a, hfinds, ha, ?_⟩
      rw [hfiles]
      cases hwrite : files.write (chosenPath options files) (chosenText options a).toUTF8 with
      | error e =>
        rw [hresult, hwrite] at h
        cases h
      | ok after => rfl

/-- The same is found after a file was stored that is no source, and has not replaced one. -/
lemma finds_store {ds : List Declaration} (h : Finds options files ds) {place : List String}
    (htakes : files.root.Takes place) {content : ByteArray} (hs : Java.Silent content)
    (hfree : (files.root.item? place).isSome → ¬FindsSourceAt options files place) :
    Finds options (files.store place content) ds := by
  rw [finds_iff] at h ⊢
  cases hentry : files.entry? options.sourcePath with
  | none =>
    rw [hentry] at h
    cases h
  | some tree =>
    have hat := hentry
    rw [FileSystem.entry?_eq] at hat
    obtain ⟨top, htop, htree⟩ := Option.bind_eq_some_iff.mp hat
    rw [FileSystem.entry?_eq, FileSystem.place?_store htakes content htop, Option.bind_some]
    rw [hentry] at h
    have hnot : ∀ names, place = top ++ names → (tree.at? names).isSome →
        ∀ file ∈ Java.sourcesAt options.sourcePath tree,
          file.path ≠ Java.pathBelow options.sourcePath names := by
      intro names hplace hsome file hfile hpath
      refine hfree ?_ ⟨tree, top, names, hentry, htop, hplace, file, hfile, hpath⟩
      rw [FileTree.item?, Option.isSome_map, hplace, FileTree.at?_append, htree]
      exact hsome
    rcases htakes.at?_insert (.file content) htree with
      ⟨names, hplace, hnew, ⟨rfl, hd⟩ | htakes'⟩ | hsame
    · -- the source path leads to the file itself
      have hold : Java.heard (Java.sourcesAt options.sourcePath tree) = [] :=
        Java.heard_eq_nil hd (hnot [] hplace (by simp))
      have hheard : Java.heard (Java.sourcesAt options.sourcePath (.file content)) = [] :=
        hs.heard_file _
      rw [show (files.store place content).root.at? top = _ from hnew, FileTree.insert,
        Java.scanTree_eq_of_heard (hheard.trans hold.symm), h]
    · rw [show (files.store place content).root.at? top = _ from hnew, Java.scanTree_eq_of_heard
        (Java.heard_sourcesAt_insert hs htakes' _ (hnot names hplace)), h]
    · rw [show (files.store place content).root.at? top = _ from hsame, h]

/-- Running a second time with the same options changes nothing, wherever the output is: the run
succeeds, the output path is the same, and so are the files.  The only exception is an output that
replaces a source.

Whether it does so is a matter of places and not of spellings.  Links on the paths are resolved
before (`Main.load`), so that a link to a source is at the place of the source; only a link below
the source path is something special, and no source. -/
theorem run_again (options : Options) (files : FileSystem)
    (h : (run options files).result = .ok ())
    (hfree : ∀ place, files.place? (outputPath files.isDirectory options.output) = some place →
      ¬FindsSourceAt options files place) :
    (run options (run options files).files).result = .ok () ∧
      outputPath (run options files).files.isDirectory options.output =
        outputPath files.isDirectory options.output ∧
      (run options (run options files).files).files = (run options files).files := by
  obtain ⟨ds, a, hfinds, ha, hwrite⟩ := exists_of_run_ok h
  rw [outputPath_eq] at hfree
  rcases FileSystem.exists_of_write hwrite with ⟨hsame, -⟩ | ⟨place, htakes, hafter, -, hplace⟩
  · rw [hsame]
    exact ⟨h, rfl, hsame⟩
  · have hagain := FileSystem.write_again hwrite
    have hdirectory : (run options files).files.isDirectory = files.isDirectory := by
      rw [hafter]
      exact funext (FileSystem.isDirectory_store htakes _)
    have hpath : chosenPath options (run options files).files = chosenPath options files := by
      rw [← outputPath_eq, ← outputPath_eq, hdirectory]
    have hfinds' : Finds options (run options files).files ds := by
      rw [hafter]
      exact finds_store hfinds htakes (silent_chosenText options a)
        fun hsome => hfree place (hplace hsome)
    obtain ⟨hresult, hfiles⟩ := run_of_assembly hfinds' ha
    rw [hpath, hagain] at hresult hfiles
    exact ⟨hresult, by rw [hdirectory], hfiles⟩

/-- The document may even replace a source that is not found, as it is hidden. -/
theorem run_again_of_hidden_source :
    let options : Options := { output := some ".B.java" }
    let sources : FileTree := .directory [("A.java", .file "class A {}".toUTF8),
      (".B.java", .file "class B {}".toUTF8)]
    let files : FileSystem := ⟨.directory [("src", sources)], ["src"]⟩
    let after := (run options files).files
    (run options files).result = .ok () ∧ files.place? ".B.java" = some ["src", ".B.java"] ∧
      ¬FindsSourceAt options files ["src", ".B.java"] ∧
      (run options after).result = .ok () ∧ (run options after).files = after := by
  intro options sources files after
  have hjoin : Path.join "." "A.java" = "./A.java" := by decide
  have hextension : Path.hasExtension Java.sourceExtension (Path.fileName "./A.java") = true := by
    decide
  have hhidden : Path.isHidden "A.java" = false ∧ Path.isHidden ".B.java" = true := by decide
  have hsources : Java.sourcesAt "." sources = [⟨"./A.java", "class A {}".toUTF8⟩] := by
    simp [sources, Java.sourcesAt, Java.sourcesIn, Java.inOrder, hhidden, hjoin, hextension]
  have hentry : files.entry? "." = some sources := rfl
  have hroot : files.place? "." = some ["src"] := rfl
  have hplace : files.place? ".B.java" = some ["src", ".B.java"] := rfl
  have hpath : chosenPath options files = ".B.java" := by decide +kernel
  have hfree : ¬FindsSourceAt options files ["src", ".B.java"] := by
    rintro ⟨tree, top, names, htree, htop, hnames, file, hfile, hbelow⟩
    obtain rfl : sources = tree := Option.some.inj (hentry.symm.trans htree)
    obtain rfl : ["src"] = top := Option.some.inj (hroot.symm.trans htop)
    obtain rfl : [".B.java"] = names := (List.cons.inj hnames).2
    obtain rfl := List.mem_singleton.mp (hsources ▸ hfile)
    exact absurd hbelow (by decide)
  have hscan : Java.scanSource "class A {}" = .ok (some [{ kind := .classType, name := "A" }]) := by
    cbv
  have hholds : Java.SourceFile.Holds ⟨"./A.java", "class A {}".toUTF8⟩
      [{ kind := .classType, name := "A" }] :=
    .read (Java.fromUTF8?_toUTF8 "class A {}") hscan
  have hfinds : Finds options files [{ kind := .classType, name := "A" }] :=
    ⟨sources, [_], hentry, by simpa [options, hsources] using hholds, rfl⟩
  obtain ⟨a, ha, -⟩ := @Assembly.assemble_of_nodeCount_le (chosenConfig options)
    [{ kind := .classType, name := "A" }] (by decide) (by decide)
  have hwrite (content : ByteArray) : files.write ".B.java" content =
      .ok (files.store ["src", ".B.java"] content) := rfl
  obtain ⟨hresult, -⟩ := run_of_assembly hfinds ha
  rw [hpath, hwrite] at hresult
  have hkeep : ∀ place, files.place? (outputPath files.isDirectory options.output) = some place →
      ¬FindsSourceAt options files place := by
    intro place h
    rw [outputPath_eq, hpath, hplace] at h
    exact Option.some.inj h ▸ hfree
  obtain ⟨hagain, -, hsame⟩ := run_again options files hresult hkeep
  exact ⟨hresult, hplace, hfree, hagain, hsame⟩

end JavaUml.CommandLine
