/-
# Places in a file system

A place is given by the names that lead to it from the root.  What is at a place is a file with its
content, something special, or a directory; what is in a directory is at other places
(`FileTree.item?`).  Two trees with the same items everywhere hold the same files.

A file can be put where a directory is prepared for it (`FileTree.Takes`), and then only the item at
this place is another one (`FileTree.Takes.item?_insert`).
-/
import JavaUml.FileSystem.Basic
import Mathlib.Tactic.Common

namespace JavaUml

/-! ## Items -/

namespace FileTree

/-- What is at a place, without what is below it. -/
inductive Item
  | file (content : ByteArray)
  | special
  | directory

/-- The item that a tree is at its top. -/
def item : FileTree → Item
  | .file content => .file content
  | .special => .special
  | .directory _ => .directory

/-- The item where names in order lead. -/
def item? (tree : FileTree) (names : List String) : Option Item := (tree.at? names).map item

lemma isDirectory_iff {tree : FileTree} : tree.isDirectory = true ↔ tree.item = .directory := by
  cases tree <;> simp [isDirectory, item]

lemma at?_eq_file {tree : FileTree} {names : List String} {content : ByteArray}
    (h : tree.item? names = some (.file content)) : tree.at? names = some (.file content) := by
  obtain ⟨found, hfound, hitem⟩ := Option.map_eq_some_iff.mp h
  cases found with
  | file other =>
    cases hitem
    exact hfound
  | special => cases hitem
  | directory entries => cases hitem

@[simp] lemma at?_nil (tree : FileTree) : tree.at? [] = some tree := by
  cases tree <;> rfl

@[simp] lemma at?_directory (entries : List (String × FileTree)) (name : String)
    (names : List String) :
    (directory entries).at? (name :: names) = (entries.lookup name).bind (·.at? names) := rfl

lemma at?_append (tree : FileTree) (names more : List String) :
    tree.at? (names ++ more) = (tree.at? names).bind (·.at? more) := by
  induction names generalizing tree with
  | nil => simp
  | cons name names ih =>
    cases tree with
    | directory entries =>
      rw [List.cons_append, at?_directory, at?_directory]
      cases entries.lookup name with
      | none => rfl
      | some sub => exact ih sub
    | file content => rfl
    | special => rfl

/-- Nothing is below what is not a directory. -/
lemma at?_eq_none {tree : FileTree} (h : tree.isDirectory = false) {names : List String}
    (hn : names ≠ []) : tree.at? names = none := by
  cases names with
  | nil => exact absurd rfl hn
  | cons name names =>
    cases tree with
    | directory entries => cases h
    | _ => rfl

/-! ## Putting a file somewhere -/

/-- A file can be put at a place: it is in a directory that is there, and not a directory itself. -/
inductive Takes : FileTree → List String → Prop
  | here {entries : List (String × FileTree)} {name : String}
      (free : ∀ old, entries.lookup name = some old → old.isDirectory = false) :
      Takes (directory entries) [name]
  | into {entries : List (String × FileTree)} {name : String} {sub : FileTree}
      {names : List String} (found : entries.lookup name = some sub) (rest : Takes sub names) :
      Takes (directory entries) (name :: names)

lemma takes_of_item? {tree : FileTree} {place : List String} {name : String}
    (hd : tree.item? place = some .directory)
    (hnot : tree.item? (place ++ [name]) ≠ some .directory) : tree.Takes (place ++ [name]) := by
  induction place generalizing tree with
  | nil =>
    cases tree with
    | directory entries =>
      refine .here fun old hold => ?_
      rw [← Bool.not_eq_true, isDirectory_iff]
      intro hitem
      exact hnot (by simp [item?, hold, hitem])
    | file content => cases hd
    | special => cases hd
  | cons first place ih =>
    cases tree with
    | directory entries =>
      cases hsub : entries.lookup first with
      | none => simp [item?, hsub] at hd
      | some sub =>
        simp only [item?, at?_directory, List.cons_append, hsub, Option.bind_some] at hd hnot
        exact .into hsub (ih hd hnot)
    | file content => cases hd
    | special => cases hd

namespace Takes

variable {tree : FileTree} {place : List String}

/-- No directory is replaced. -/
lemma item?_ne_directory (h : tree.Takes place) : tree.item? place ≠ some .directory := by
  induction h with
  | @here entries name free =>
    rw [item?, at?_directory]
    cases hold : entries.lookup name with
    | none => simp
    | some old =>
      have hitem : old.item ≠ .directory := fun hitem => by
        have hfree := free old hold
        rw [isDirectory_iff.mpr hitem] at hfree
        cases hfree
      simpa using hitem
  | @into entries name sub names found rest ih =>
    rw [item?, at?_directory, found]
    exact ih

/-- At other places there is what was there before. -/
lemma item?_insert (h : tree.Takes place) (content : ByteArray) (other : List String) :
    (insert (.file content) place tree).item? other =
      if other = place then some (.file content) else tree.item? other := by
  induction h generalizing other with
  | @here entries name free =>
    cases other with
    | nil => rfl
    | cons first rest =>
      simp only [insert, item?, at?_directory]
      by_cases hfirst : first = name
      · subst hfirst
        rw [Entries.lookup_set_self, Option.bind_some]
        cases rest with
        | nil => simp [item]
        | cons next rest =>
          -- a file was there or nothing, and now there is a file
          rw [if_neg (by simp), at?_eq_none rfl (List.cons_ne_nil _ _)]
          cases hold : entries.lookup first with
          | none => rfl
          | some old => rw [Option.bind_some, at?_eq_none (free old hold) (List.cons_ne_nil _ _)]
      · rw [Entries.lookup_set_of_ne _ _ hfirst, if_neg (by simp [hfirst])]
  | @into entries name sub names found rest ih =>
    cases other with
    | nil => rfl
    | cons first others =>
      simp only [insert, item?, at?_directory, found, Option.getD_some]
      by_cases hfirst : first = name
      · subst hfirst
        rw [Entries.lookup_set_self, found]
        simpa [item?] using ih others
      · rw [Entries.lookup_set_of_ne _ _ hfirst, if_neg (by simp [hfirst])]

/-- What is at a place after a file was put somewhere: what was there, with the file put into it if
the way to the file leads over this place. -/
lemma at?_insert (h : tree.Takes place) (leaf : FileTree) {top : List String} {sub : FileTree}
    (hsub : tree.at? top = some sub) :
    (∃ names, place = top ++ names ∧
        (insert leaf place tree).at? top = some (insert leaf names sub) ∧
        (names = [] ∧ sub.isDirectory = false ∨ sub.Takes names)) ∨
      (insert leaf place tree).at? top = some sub := by
  induction h generalizing top with
  | @here entries name free =>
    cases top with
    | nil =>
      obtain rfl : directory entries = sub := by simpa using hsub
      exact .inl ⟨[name], rfl, by simp, .inr (.here free)⟩
    | cons first rest =>
      obtain ⟨old, hold, hrest⟩ := Option.bind_eq_some_iff.mp hsub
      simp only [insert, at?_directory]
      by_cases hfirst : first = name
      · subst hfirst
        -- nothing is below what is replaced
        obtain rfl : rest = [] := by
          by_contra hne
          rw [at?_eq_none (free old hold) hne] at hrest
          cases hrest
        obtain rfl : old = sub := by simpa using hrest
        exact .inl ⟨[], rfl, by simp [Entries.lookup_set_self, insert], .inl ⟨rfl, free old hold⟩⟩
      · rw [Entries.lookup_set_of_ne _ _ hfirst, hold]
        exact .inr hrest
  | @into entries name inner names found rest ih =>
    cases top with
    | nil =>
      obtain rfl : directory entries = sub := by simpa using hsub
      exact .inl ⟨name :: names, rfl, by simp, .inr (.into found rest)⟩
    | cons first others =>
      obtain ⟨old, hold, hrest⟩ := Option.bind_eq_some_iff.mp hsub
      simp only [insert, at?_directory, found, Option.getD_some]
      by_cases hfirst : first = name
      · subst hfirst
        obtain rfl : inner = old := Option.some.inj (found.symm.trans hold)
        rw [Entries.lookup_set_self, Option.bind_some]
        exact (ih hrest).imp_left fun ⟨below, hbelow, hat, hcase⟩ =>
          ⟨below, by rw [hbelow, List.cons_append], hat, hcase⟩
      · rw [Entries.lookup_set_of_ne _ _ hfirst, hold]
        exact .inr hrest

end Takes

end FileTree

/-- What is there already can be put there once more. -/
lemma FileTree.insert_eq_self {leaf : FileTree} {place : List String} {tree : FileTree}
    (h : tree.at? place = some leaf) : FileTree.insert leaf place tree = tree := by
  induction place generalizing tree with
  | nil => simpa [FileTree.insert] using h.symm
  | cons name names ih =>
    cases tree with
    | directory entries =>
      obtain ⟨sub, hsub, hrest⟩ := Option.bind_eq_some_iff.mp h
      simp only [FileTree.insert, hsub, Option.getD_some, ih hrest]
      rw [Entries.set_eq_self hsub]
    | file content => cases h
    | special => cases h

end JavaUml
