/-
# Files that a scan does not hear

A source that holds no declarations adds nothing to a scan: only the others are heard
(`scanTree_eq_of_heard`).  If a file that holds no declarations is put into a directory, and no
source is replaced, then the same sources are heard as before, in the same order
(`heard_sourcesAt_insert`).  For a directory is sorted by the names in it, and leaving some of them
out does not change the order of the others (`filter_mergeSort`).
-/
import JavaUml.Proofs.FileSystem.Places
import JavaUml.Proofs.Java.Scanning

namespace JavaUml.Java

/-! ## Sorting a part -/

section Sorting

variable {α : Type} {le : α → α → Bool}
variable (trans : ∀ a b c, le a b = true → le b c = true → le a c = true)
variable (total : ∀ a b, (le a b || le b a) = true)

include trans total

/-- The first element stands where the smaller ones of the others end. -/
lemma mergeSort_cons_eq (x : α) (xs : List α) : (x :: xs).mergeSort le =
    (xs.mergeSort le).filter (fun y => !le x y) ++ x :: (xs.mergeSort le).filter (le x ·) := by
  obtain ⟨front, back, hcons, hrest, hfront⟩ := List.mergeSort_cons trans total x xs
  have hback : ∀ y ∈ back, le x y = true := by
    have hsorted := List.pairwise_mergeSort trans total (x :: xs)
    rw [hcons, List.pairwise_append, List.pairwise_cons] at hsorted
    exact hsorted.2.1.1
  rw [hcons, hrest, List.filter_append, List.filter_append, List.filter_eq_self.mpr hfront,
    List.filter_eq_self.mpr hback, List.filter_eq_nil_iff.mpr (by simpa using hback),
    List.filter_eq_nil_iff.mpr (by simpa using hfront), List.append_nil, List.nil_append]

/-- Sorting keeps the order of what remains if something is left out. -/
lemma filter_mergeSort (p : α → Bool) (xs : List α) :
    (xs.mergeSort le).filter p = (xs.filter p).mergeSort le := by
  induction xs with
  | nil => simp
  | cons x xs ih =>
    by_cases hx : p x = true
    · have hcomm : ∀ q : α → Bool, ((xs.mergeSort le).filter q).filter p =
          ((xs.filter p).mergeSort le).filter q := by
        intro q
        rw [← ih, List.filter_filter, List.filter_filter]
        exact List.filter_congr fun y _ => Bool.and_comm _ _
      rw [List.filter_cons_of_pos hx, mergeSort_cons_eq trans total x xs,
        mergeSort_cons_eq trans total x (xs.filter p), List.filter_append,
        List.filter_cons_of_pos hx, hcomm, hcomm]
    · obtain ⟨front, back, hcons, hrest, -⟩ := List.mergeSort_cons trans total x xs
      rw [hrest, List.filter_append] at ih
      rw [List.filter_cons_of_neg hx, hcons, List.filter_append, List.filter_cons_of_neg hx, ih]

end Sorting

/-! ## What is heard -/

/-- Whether a source is of importance for a scan: it holds a declaration, or is malformed. -/
def SourceFile.isHeard (file : SourceFile) : Bool :=
  match file.declarations with
  | .ok [] => false
  | _ => true

/-- The sources that are of importance for a scan. -/
def heard (files : List SourceFile) : List SourceFile := files.filter SourceFile.isHeard

/-- Nothing is changed by what is not heard. -/
lemma map_flatten_heard (files : List SourceFile) :
    ((heard files).mapM SourceFile.declarations).map List.flatten =
      (files.mapM SourceFile.declarations).map List.flatten := by
  induction files with
  | nil => rfl
  | cons file files ih =>
    have hcons : ∀ (file : SourceFile) (files : List SourceFile),
        ((file :: files).mapM SourceFile.declarations).map List.flatten =
          file.declarations >>= fun ds =>
            (files.mapM SourceFile.declarations).map List.flatten >>= fun rest =>
              .ok (ds ++ rest) := by
      intro file files
      rw [List.mapM_cons]
      cases file.declarations with
      | error e => rfl
      | ok ds => cases files.mapM SourceFile.declarations <;> rfl
    rw [heard]
    by_cases hfile : file.isHeard = true
    · rw [List.filter_cons_of_pos hfile, hcons, hcons, ← heard, ih]
    · have hsilent : file.declarations = .ok [] := by
        rw [SourceFile.isHeard] at hfile
        split at hfile
        · next h => exact h
        · exact absurd rfl hfile
      rw [List.filter_cons_of_neg hfile, hcons, hsilent, ← heard, ih]
      cases (files.mapM SourceFile.declarations).map List.flatten <;> rfl

/-- A scan depends only on what is heard. -/
lemma scanTree_eq_of_heard {path : String} {tree tree' : FileTree}
    (h : heard (sourcesAt path tree') = heard (sourcesAt path tree)) :
    scanTree path (some tree') = scanTree path (some tree) := by
  have hscan : ∀ tree, scanTree path (some tree) =
      ((sourcesAt path tree).mapM SourceFile.declarations).map List.flatten := fun _ => rfl
  rw [hscan, hscan, ← map_flatten_heard, h, map_flatten_heard]

/-- What is heard in a directory depends only on the entries in which something is heard. -/
lemma heard_inOrder (found : List (String × List SourceFile)) :
    heard (inOrder found) =
      inOrder ((found.map fun entry => (entry.1, heard entry.2)).filter fun entry =>
        !entry.2.isEmpty) := by
  have hskip : ∀ found : List (String × List SourceFile),
      (found.filter fun entry => !entry.2.isEmpty).flatMap (·.2) = found.flatMap (·.2) := by
    intro found
    induction found with
    | nil => rfl
    | cons entry found ih =>
      cases hentry : entry.2 with
      | nil => simp [hentry, ih]
      | cons file files => simp [hentry, ih]
  have htrans : ∀ a b c : String × List SourceFile, decide (a.1 ≤ b.1) = true →
      decide (b.1 ≤ c.1) = true → decide (a.1 ≤ c.1) = true := by
    intro a b c
    simpa using String.le_trans
  have htotal : ∀ a b : String × List SourceFile,
      (decide (a.1 ≤ b.1) || decide (b.1 ≤ a.1)) = true := by
    intro a b
    simpa using String.le_total a.1 b.1
  rw [inOrder, inOrder, ← filter_mergeSort htrans htotal, hskip, ← List.map_mergeSort, heard,
    List.filter_flatMap, List.flatMap_map]
  · rfl
  · exact fun _ _ _ _ => rfl

/-! ## Directories -/

/-- The entry of a directory with what is heard in it, if something is. -/
def heardEntry (path : String) (entry : String × FileTree) : List (String × List SourceFile) :=
  if Path.isHidden entry.1 ∨ heard (sourcesAt (Path.join path entry.1) entry.2) = [] then []
  else [(entry.1, heard (sourcesAt (Path.join path entry.1) entry.2))]

lemma heard_directory (path : String) (entries : List (String × FileTree)) :
    heard (sourcesAt path (.directory entries)) = inOrder (entries.flatMap (heardEntry path)) := by
  rw [sourcesAt, heard_inOrder]
  congr 1
  induction entries with
  | nil => rfl
  | cons entry entries ih =>
    obtain ⟨name, tree⟩ := entry
    rw [sourcesIn, List.flatMap_cons, ← ih, heardEntry]
    by_cases hhidden : Path.isHidden name = true
    · rw [if_pos hhidden, if_pos (.inl hhidden), List.nil_append]
    · rw [if_neg hhidden, List.map_cons]
      by_cases hheard : heard (sourcesAt (Path.join path name) tree) = []
      · rw [List.filter_cons_of_neg (by simp [hheard]), if_pos (.inr hheard), List.nil_append]
      · rw [List.filter_cons_of_pos (by simp [hheard]), if_neg (not_or.mpr ⟨hhidden, hheard⟩)]
        rfl

lemma mem_sourcesAt_directory {path name : String} {entries : List (String × FileTree)}
    {sub : FileTree} {file : SourceFile} (hsub : entries.lookup name = some sub)
    (hhidden : Path.isHidden name = false) (h : file ∈ sourcesAt (Path.join path name) sub) :
    file ∈ sourcesAt path (.directory entries) := by
  have hentry : (name, sourcesAt (Path.join path name) sub) ∈ sourcesIn path entries := by
    induction entries with
    | nil => cases hsub
    | cons entry entries ih =>
      obtain ⟨key, tree⟩ := entry
      rw [sourcesIn]
      by_cases hkey : name = key
      · subst hkey
        obtain rfl : tree = sub := by simpa using hsub
        rw [if_neg (by simp [hhidden])]
        exact List.mem_cons_self
      · rw [List.lookup_cons, beq_false_of_ne hkey] at hsub
        split
        · exact ih hsub
        · exact List.mem_cons_of_mem _ (ih hsub)
  rw [sourcesAt, inOrder, List.mem_flatMap]
  exact ⟨_, (List.mergeSort_perm _ _).mem_iff.mpr hentry, h⟩

/-- An entry is replaced by one that counts as much, or one that counts for nothing is added. -/
lemma flatMap_set {α β : Type} {f : String × α → List β} {name : String} {value : α}
    {entries : List (String × α)}
    (hold : ∀ old, entries.lookup name = some old → f (name, value) = f (name, old))
    (hnone : entries.lookup name = none → f (name, value) = []) :
    (Entries.set name value entries).flatMap f = entries.flatMap f := by
  induction entries with
  | nil => simpa [Entries.set] using hnone rfl
  | cons entry entries ih =>
    obtain ⟨key, old⟩ := entry
    by_cases hkey : key = name
    · subst hkey
      simp [Entries.set, hold old (by simp)]
    · have hlookup : ((key, old) :: entries).lookup name = entries.lookup name := by
        rw [List.lookup_cons, beq_false_of_ne (Ne.symm hkey)]
      rw [hlookup] at hold hnone
      simp [Entries.set, hkey, ih hold hnone]

/-! ## A file that is not heard -/

/-- The path of what names below a path lead to. -/
def pathBelow (path : String) (names : List String) : String := names.foldl Path.join path

/-- A file of which nothing is heard, wherever it is. -/
def Silent (content : ByteArray) : Prop := ∀ path, (⟨path, content⟩ : SourceFile).isHeard = false

lemma Silent.heard_file {content : ByteArray} (h : Silent content) (path : String) :
    heard (sourcesAt path (.file content)) = [] := by
  rw [sourcesAt]
  split
  · simp [heard, h path]
  · rfl

/-- Where no source is found there is nothing heard in what is no directory. -/
lemma heard_eq_nil {path : String} {tree : FileTree} (hd : tree.isDirectory = false)
    (h : ∀ file ∈ sourcesAt path tree, file.path ≠ path) : heard (sourcesAt path tree) = [] := by
  cases tree with
  | file content =>
    rw [sourcesAt] at h ⊢
    split
    · next hext =>
      rw [if_pos hext] at h
      exact absurd rfl (h _ (List.mem_singleton_self _))
    · rfl
  | special => rfl
  | directory entries => cases hd

/-- If a file of which nothing is heard is put where no source is found, then the same is heard as
before. -/
lemma heard_sourcesAt_insert {content : ByteArray} (hs : Silent content) {tree : FileTree}
    {names : List String} (h : tree.Takes names) (path : String)
    (hfree : (tree.at? names).isSome →
      ∀ file ∈ sourcesAt path tree, file.path ≠ pathBelow path names) :
    heard (sourcesAt path (FileTree.insert (.file content) names tree)) =
      heard (sourcesAt path tree) := by
  induction h generalizing path with
  | @here entries name free =>
    rw [FileTree.insert, FileTree.insert, heard_directory, heard_directory]
    congr 1
    refine flatMap_set (fun old hold => ?_) fun _ => if_pos (.inr (hs.heard_file _))
    rw [heardEntry, heardEntry]
    by_cases hhidden : Path.isHidden name = true
    · rw [if_pos (.inl hhidden), if_pos (.inl hhidden)]
    · have hnothing : heard (sourcesAt (Path.join path name) old) = [] :=
        heard_eq_nil (free old hold) fun file hfile =>
          hfree (by simp [hold]) file
            (mem_sourcesAt_directory hold (by simpa using hhidden) hfile)
      rw [if_pos (.inr (hs.heard_file _)), if_pos (.inr hnothing)]
  | @into entries name sub names found rest ih =>
    rw [FileTree.insert, found, Option.getD_some, heard_directory, heard_directory]
    congr 1
    refine flatMap_set (fun old hold => ?_) fun hnone => ?_
    · obtain rfl : sub = old := Option.some.inj (found.symm.trans hold)
      rw [heardEntry, heardEntry]
      by_cases hhidden : Path.isHidden name = true
      · rw [if_pos (.inl hhidden), if_pos (.inl hhidden)]
      · simp only
        rw [ih (Path.join path name) fun hsome file hfile => hfree (by simpa [found] using hsome)
          file (mem_sourcesAt_directory found (by simpa using hhidden) hfile)]
    · rw [found] at hnone
      cases hnone

end JavaUml.Java
