/-
# Which sources are found, and in which order

A walk below a path finds a file by the names that lead to it (`FoundFile`).  The files that are
found are those with the extension of sources to which no hidden name leads, each of them once
(`FoundFile.IsSource`).  They are in the order of the names, name by name and octet by octet, which
is not the order of their paths: what is in a directory `a` comes before `a.java`.

This is shown along the tree.  A directory shows the entries that are not hidden in the order of
their names (`sourcesAt_directory`), and the names of what is found in an entry start with its name
(`FoundFile.isSource_directory_iff`).

Only files of readable text without errors of syntax count for a scan, so that all trees in which
the same such files are found are scanned with the same outcome.
-/
import Mathlib
import JavaUml.Proofs.FileSystem.Names
import JavaUml.Proofs.Java.Silent

namespace JavaUml

/-- A tree as it is in a file system: no name occurs twice in a directory, and no slash in a
name. -/
inductive FileTree.Proper : FileTree → Prop
  | file (content : ByteArray) : Proper (.file content)
  | special : Proper .special
  | directory {entries : List (String × FileTree)} (nodup : (entries.map Prod.fst).Nodup)
      (noSlash : ∀ entry ∈ entries, '/' ∉ entry.1.toList)
      (proper : ∀ entry ∈ entries, Proper entry.2) : Proper (.directory entries)

namespace Java

/-! ## Files below a path -/

/-- A file below a path: the names that lead to it, and its content. -/
structure FoundFile where
  names : List String
  content : ByteArray

namespace FoundFile

/-- The source file that it is below a path. -/
def under (path : String) (f : FoundFile) : SourceFile := ⟨pathBelow path f.names, f.content⟩

/-- The file as it is found from the directory above. -/
def inside (name : String) (f : FoundFile) : FoundFile := ⟨name :: f.names, f.content⟩

/-- What files are compared by: the octets of the names that lead to them. -/
def components (f : FoundFile) : List (List UInt8) := f.names.map Text.octets

/-- What is found in a tree: a file whose name has the extension of sources, after something else,
and to which no hidden name leads. -/
structure IsSource (path : String) (tree : FileTree) (f : FoundFile) : Prop where
  found : tree.at? f.names = some (.file f.content)
  extension : ∃ stem, stem ≠ "" ∧ f.names.getLastD (Path.fileName path) = stem ++ ".java"
  visible : ∀ name ∈ f.names, Path.isHidden name = false

/-- Whether a file counts for a scan: it can be read as text, and there are no errors of syntax. -/
def Counts (f : FoundFile) : Prop :=
  ∃ source, String.fromUTF8? f.content = some source ∧ scanSource source ≠ .ok none

variable {path : String} {f : FoundFile}

lemma hasExtension_iff {name : String} :
    Path.hasExtension sourceExtension name = true ↔ ∃ stem, stem ≠ "" ∧ name = stem ++ ".java" := by
  rw [Path.hasExtension_iff (by decide)]
  simp only [String.append_assoc]
  rfl

lemma isSource_file_iff {content : ByteArray} : f.IsSource path (.file content) ↔
    Path.hasExtension sourceExtension (Path.fileName path) = true ∧ f = ⟨[], content⟩ := by
  obtain ⟨names, found⟩ := f
  constructor
  · rintro ⟨hfound, hextension, -⟩
    cases names with
    | nil =>
      cases hfound
      exact ⟨hasExtension_iff.mpr hextension, rfl⟩
    | cons name names => cases hfound
  · rintro ⟨hextension, hf⟩
    cases hf
    exact ⟨rfl, hasExtension_iff.mp hextension, nofun⟩

lemma not_isSource_special : ¬f.IsSource path .special := by
  rintro ⟨hfound, -, -⟩
  obtain ⟨names, content⟩ := f
  cases names <;> cases hfound

lemma isSource_directory_iff {entries : List (String × FileTree)}
    (h : (FileTree.directory entries).Proper) : f.IsSource path (.directory entries) ↔
      ∃ entry ∈ entries, Path.isHidden entry.1 = false ∧
        ∃ g : FoundFile, g.IsSource (Path.join path entry.1) entry.2 ∧ f = g.inside entry.1 := by
  cases h with
  | directory nodup noSlash proper =>
    obtain ⟨names, content⟩ := f
    constructor
    · rintro ⟨hfound, hextension, hvisible⟩
      cases names with
      | nil => cases hfound
      | cons name names =>
        obtain ⟨sub, hsub, hbelow⟩ := Option.bind_eq_some_iff.mp hfound
        have hmem := (Entries.lookup_eq_some_iff_mem nodup).mp hsub
        obtain ⟨hname, hnames⟩ := List.forall_mem_cons.mp hvisible
        refine ⟨(name, sub), hmem, hname, ⟨names, content⟩, ⟨hbelow, ?_, hnames⟩, rfl⟩
        rw [Path.fileName_join (noSlash _ hmem)]
        rwa [List.getLastD_cons] at hextension
    · rintro ⟨⟨name, sub⟩, hmem, hname, g, ⟨hfound, hextension, hvisible⟩, hf⟩
      cases hf
      refine ⟨?_, ?_, List.forall_mem_cons.mpr ⟨hname, hvisible⟩⟩
      · exact Option.bind_eq_some_iff.mpr
          ⟨sub, (Entries.lookup_eq_some_iff_mem nodup).mpr hmem, hfound⟩
      · rw [Path.fileName_join (noSlash _ hmem)] at hextension
        rwa [List.getLastD_cons]

end FoundFile

/-! ## Walking through a tree -/

/-- The entries of a directory that are not hidden, in the order of their names. -/
def visible (entries : List (String × FileTree)) : List (String × FileTree) :=
  (entries.filter fun entry => !Path.isHidden entry.1).mergeSort fun a b => decide (a.1 ≤ b.1)

lemma mem_visible {entry : String × FileTree} {entries : List (String × FileTree)} :
    entry ∈ visible entries ↔ entry ∈ entries ∧ Path.isHidden entry.1 = false := by
  rw [visible, (List.mergeSort_perm _ _).mem_iff, List.mem_filter]
  simp

/-- No two entries have the same name, so that each name comes before the next one. -/
lemma pairwise_visible {entries : List (String × FileTree)} (h : (entries.map Prod.fst).Nodup) :
    (visible entries).Pairwise fun a b => a.1 < b.1 := by
  have hsorted : (visible entries).Pairwise fun a b => decide (a.1 ≤ b.1) = true :=
    List.pairwise_mergeSort (fun a b c => by simpa using String.le_trans)
      (fun a b => by simpa using String.le_total a.1 b.1) _
  have hne : (visible entries).Pairwise fun a b => a.1 ≠ b.1 := by
    refine List.pairwise_map.mp ?_
    exact ((List.mergeSort_perm _ _).map _).nodup_iff.mpr (h.sublist (List.filter_sublist.map _))
  refine hsorted.imp₂ (fun a b hle hne => ?_) hne
  by_contra hlt
  exact hne (String.le_antisymm (of_decide_eq_true hle) (String.not_lt.mp hlt))

lemma sourcesAt_directory (path : String) (entries : List (String × FileTree)) :
    sourcesAt path (.directory entries) =
      (visible entries).flatMap fun entry => sourcesAt (Path.join path entry.1) entry.2 := by
  have hin : sourcesIn path entries = (entries.filter fun entry => !Path.isHidden entry.1).map
      fun entry => (entry.1, sourcesAt (Path.join path entry.1) entry.2) := by
    induction entries with
    | nil => rfl
    | cons entry entries ih =>
      obtain ⟨name, tree⟩ := entry
      rw [sourcesIn, ih]
      by_cases hname : Path.isHidden name = true
      · rw [if_pos hname, List.filter_cons_of_neg (by simp [hname])]
      · rw [if_neg hname, List.filter_cons_of_pos (by simp [hname]), List.map_cons]
  rw [sourcesAt, inOrder, hin, visible, ← List.map_mergeSort, List.flatMap_map]
  exact fun _ _ _ _ => rfl

/-- What is found at a path and below, by the names that lead there. -/
lemma exists_found {tree : FileTree} (h : tree.Proper) (path : String) :
    ∃ found : List FoundFile, sourcesAt path tree = found.map (·.under path) ∧
      (∀ f, f ∈ found ↔ f.IsSource path tree) ∧
      found.Pairwise fun a b => a.components < b.components := by
  induction h generalizing path with
  | file content =>
    rw [sourcesAt]
    by_cases hextension : Path.hasExtension sourceExtension (Path.fileName path) = true
    · rw [if_pos hextension]
      refine ⟨[⟨[], content⟩], rfl, fun f => ?_, List.pairwise_singleton _ _⟩
      rw [List.mem_singleton, FoundFile.isSource_file_iff]
      exact ⟨fun hf => ⟨hextension, hf⟩, fun hf => hf.2⟩
    · rw [if_neg hextension]
      refine ⟨[], rfl, fun f => ?_, .nil⟩
      rw [FoundFile.isSource_file_iff]
      exact iff_of_false List.not_mem_nil fun hf => hextension hf.1
  | special =>
    exact ⟨[], rfl, fun f => iff_of_false List.not_mem_nil FoundFile.not_isSource_special, .nil⟩
  | @directory entries nodup noSlash proper ih =>
    choose! found hsources hfound hsorted using
      fun entry (hentry : entry ∈ entries) => ih entry hentry (Path.join path entry.1)
    have hmem : ∀ entry ∈ visible entries, entry ∈ entries := fun _ h => (mem_visible.mp h).1
    refine ⟨(visible entries).flatMap fun entry => (found entry).map (.inside entry.1), ?_,
      fun f => ?_, ?_⟩
    · rw [sourcesAt_directory, List.map_flatMap]
      refine List.flatMap_congr fun entry hentry => ?_
      rw [hsources entry (hmem entry hentry), List.map_map]
      rfl
    · rw [FoundFile.isSource_directory_iff (.directory nodup noSlash proper), List.mem_flatMap]
      constructor
      · rintro ⟨entry, hentry, hf⟩
        obtain ⟨g, hg, rfl⟩ := List.mem_map.mp hf
        obtain ⟨hentry, hname⟩ := mem_visible.mp hentry
        exact ⟨entry, hentry, hname, g, (hfound entry hentry g).mp hg, rfl⟩
      · rintro ⟨entry, hentry, hname, g, hg, rfl⟩
        exact ⟨entry, mem_visible.mpr ⟨hentry, hname⟩,
          List.mem_map_of_mem ((hfound entry hentry g).mpr hg)⟩
    · rw [List.pairwise_flatMap]
      refine ⟨fun entry hentry => ?_, (pairwise_visible nodup).imp fun {a b} hlt => ?_⟩
      · -- in one entry all names start with the same one
        exact List.pairwise_map.mpr ((hsorted entry (hmem entry hentry)).imp fun hlt =>
          List.cons_lt_cons_iff.mpr (.inr ⟨rfl, hlt⟩))
      · intro x hx y hy
        obtain ⟨f, -, rfl⟩ := List.mem_map.mp hx
        obtain ⟨g, -, rfl⟩ := List.mem_map.mp hy
        exact List.cons_lt_cons_iff.mpr (.inl (Text.octets_lt hlt))

/-! ## Scanning what is found -/

/-- What is heard counts. -/
lemma FoundFile.counts_of_isHeard {path : String} {f : FoundFile}
    (h : (f.under path).isHeard = true) : f.Counts := by
  have hne : (f.under path).declarations ≠ .ok [] := by
    intro hnothing
    rw [SourceFile.isHeard, hnothing] at h
    cases h
  rw [Ne, SourceFile.declarations_eq_ok_iff] at hne
  cases hsource : String.fromUTF8? f.content with
  | none => exact absurd (.notText hsource) hne
  | some source => exact ⟨source, hsource, fun hscan => hne (.incorrect hsource hscan)⟩

/-- Files that are in the order of their names are known by which ones they are. -/
lemma eq_of_mem_iff {found found' : List FoundFile}
    (h : found.Pairwise fun a b => a.components < b.components)
    (h' : found'.Pairwise fun a b => a.components < b.components)
    (hmem : ∀ f, f ∈ found ↔ f ∈ found') : found = found' := by
  have hnodup {fs : List FoundFile} (hfs : fs.Pairwise fun a b => a.components < b.components) :
      fs.Nodup := by
    refine hfs.imp fun {a b} hlt => ?_
    rintro rfl
    exact List.lt_irrefl _ hlt
  refine List.Perm.eq_of_pairwise (fun a b _ _ hab hba => absurd hba (List.lt_asymm hab)) h h' ?_
  exact (List.perm_ext_iff_of_nodup (hnodup h) (hnodup h')).mpr hmem

/-- The sources at a path and below are the files with the extension of sources to which no hidden
name leads, each of them once, in the order of the octets of the names that lead there.  A scan
finds what they hold, one after the other, unless one of them is malformed, and then it fails at the
first such one.  What is found does not depend on files that are not discovered, are not readable as
text or have errors of syntax. -/
theorem sources_found_in_order {tree : FileTree} (h : tree.Proper) (path : String) :
    (∃ found : List FoundFile, sourcesAt path tree = found.map (·.under path) ∧
      (∀ f, f ∈ found ↔ f.IsSource path tree) ∧
      found.Pairwise fun a b => a.components < b.components) ∧
    (∀ ds, scanTree path (some tree) = .ok ds ↔
      ∃ dss, List.Forall₂ SourceFile.Holds (sourcesAt path tree) dss ∧ ds = dss.flatten) ∧
    (∀ e, scanTree path (some tree) = .error e ↔ ∃ before file after fault,
      sourcesAt path tree = before ++ file :: after ∧ (∀ earlier ∈ before, ∃ ds, earlier.Holds ds) ∧
        file.IsMalformed fault ∧ e = .malformed file.path fault) ∧
    ∀ tree' : FileTree, tree'.Proper →
      (∀ f : FoundFile, f.Counts → (f.IsSource path tree' ↔ f.IsSource path tree)) →
      scanTree path (some tree') = scanTree path (some tree) := by
  obtain ⟨found, hsources, hfound, hsorted⟩ := exists_found h path
  refine ⟨⟨found, hsources, hfound, hsorted⟩, fun ds => ?_, fun e => scanTree_eq_error_iff,
    fun tree' h' hcounts => ?_⟩
  · rw [scanTree_eq_ok_iff]
    simp
  · obtain ⟨found', hsources', hfound', hsorted'⟩ := exists_found h' path
    refine scanTree_eq_of_heard ?_
    rw [hsources, hsources', heard, heard, List.filter_map, List.filter_map]
    congr 1
    refine eq_of_mem_iff (hsorted'.sublist List.filter_sublist)
      (hsorted.sublist List.filter_sublist) fun f => ?_
    rw [List.mem_filter, List.mem_filter, hfound, hfound']
    exact and_congr_left fun hheard => hcounts f (FoundFile.counts_of_isHeard hheard)

/-- What is in a directory `a` is found before `a.java`.  Nothing is changed by a file that is not
text. -/
theorem sources_found_in_order_of_directory :
    let entries : List (String × FileTree) := [("a.java", .file "class A {}".toUTF8),
      (".b.java", .file "class B {}".toUTF8),
      ("a", .directory [("x.java", .file "class X {}".toUTF8)])]
    let tree : FileTree := .directory entries
    let more : FileTree := .directory (("c.java", .file ⟨#[0xFF]⟩) :: entries)
    tree.Proper ∧ more.Proper ∧
      sourcesAt "src" tree = [⟨"src/a/x.java", "class X {}".toUTF8⟩,
        ⟨"src/a.java", "class A {}".toUTF8⟩] ∧
      scanTree "src" (some tree) =
        .ok [{ kind := .classType, name := "X" }, { kind := .classType, name := "A" }] ∧
      scanTree "src" (some more) = scanTree "src" (some tree) := by
  intro entries tree more
  have hinner : (FileTree.directory [("x.java", .file "class X {}".toUTF8)]).Proper :=
    .directory (by decide) (by decide) (by simpa using .file _)
  have htree : tree.Proper := .directory (by decide) (by decide) (by
    simp only [entries, List.forall_mem_cons]
    exact ⟨.file _, .file _, hinner, nofun⟩)
  have hmore : more.Proper := .directory (by decide) (by decide) (by
    simp only [entries, List.forall_mem_cons]
    exact ⟨.file _, .file _, .file _, hinner, nofun⟩)
  have hfound (a b x : ByteArray) : sourcesAt "src" (.directory [("a.java", .file a),
      (".b.java", .file b), ("a", .directory [("x.java", .file x)])]) =
      [⟨"src/a/x.java", x⟩, ⟨"src/a.java", a⟩] := by
    have hhidden : Path.isHidden "a" = false ∧ Path.isHidden "a.java" = false ∧
      Path.isHidden "x.java" = false ∧ Path.isHidden ".b.java" = true := by decide +kernel
    have hjoin : Path.join "src" "a.java" = "src/a.java" ∧ Path.join "src" "a" = "src/a" ∧
      Path.join "src/a" "x.java" = "src/a/x.java" := by decide +kernel
    have hextension : ∀ name ∈ ["src/a.java", "src/a/x.java"],
      Path.hasExtension sourceExtension (Path.fileName name) = true := by decide +kernel
    have hle : ¬"a.java" ≤ "a" := by decide +kernel
    simp [sourcesAt, sourcesIn, inOrder, hhidden, hjoin, hextension, List.mergeSort, hle]
  have hsources := hfound "class A {}".toUTF8 "class B {}".toUTF8 "class X {}".toUTF8
  have hx : scanSource "class X {}" = .ok (some [{ kind := .classType, name := "X" }]) := by cbv
  have ha : scanSource "class A {}" = .ok (some [{ kind := .classType, name := "A" }]) := by cbv
  obtain ⟨-, hscan, -, hsame⟩ := sources_found_in_order htree "src"
  refine ⟨htree, hmore, hsources, ?_, hsame more hmore fun f hf => ?_⟩
  · refine (hscan _).mpr ⟨[[{ kind := .classType, name := "X" }],
      [{ kind := .classType, name := "A" }]], ?_, rfl⟩
    rw [hsources]
    exact .cons (.read (fromUTF8?_toUTF8 "class X {}") hx)
      (.cons (.read (fromUTF8?_toUTF8 "class A {}") ha) .nil)
  · rw [FoundFile.isSource_directory_iff hmore, FoundFile.isSource_directory_iff htree,
      List.exists_mem_cons_iff]
    refine or_iff_right ?_
    rintro ⟨-, g, hg, rfl⟩
    obtain ⟨-, rfl⟩ := FoundFile.isSource_file_iff.mp hg
    obtain ⟨source, hsource, -⟩ := hf
    cases hsource

end Java

end JavaUml
