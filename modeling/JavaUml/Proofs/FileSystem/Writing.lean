/-
# Writing a file

A path leads to a place (`FileSystem.place?`), from a directory to what is in it, name by name.  A
file that is written is stored at the place to which the path leads, unless there is something
special, such as a device, which takes what is written (`FileSystem.exists_of_write`).  Everywhere
else there is what was there before.

When a file is stored, no directory is made or removed, so that paths to directories lead where they
led before (`FileSystem.isDirectory_store`), and the same can be written once more
(`FileSystem.write_again`).
-/
import JavaUml.Proofs.FileSystem.Places

namespace JavaUml

lemma Path.names_ne_nil (path : String) : Path.names path ≠ [] := by
  have hsplit : ∀ cs, Path.splitSlashes cs ≠ [] := by
    intro cs
    induction cs with
    | nil => simp [Path.splitSlashes]
    | cons c cs ih =>
      unfold Path.splitSlashes
      split
      · simp
      · cases h : Path.splitSlashes cs with
        | nil => exact absurd h ih
        | cons first rest => simp [Text.extendFirst]
  simpa [Path.names] using hsplit path.toList

lemma Path.names_eq_dropLast_append (path : String) :
    Path.names path = (Path.names path).dropLast ++ [(Path.names path).getLastD ""] := by
  rw [List.getLastD_eq_getLast?, List.getLast?_eq_some_getLast (Path.names_ne_nil path)]
  exact (List.dropLast_concat_getLast (Path.names_ne_nil path)).symm

namespace FileSystem

variable {root root' : FileTree} {fs after : FileSystem} {place target : List String}
variable {name : String} {names more : List String}

/-! ## Following names -/

/-- A name that leads into a directory, and neither stays nor goes back. -/
def IsEntryName (name : String) : Prop := name ≠ "" ∧ name ≠ "." ∧ name ≠ ".."

/-- Where one name leads from a directory. -/
inductive Step (root : FileTree) (place : List String) : String → List String → Prop
  | stay {name : String} (h : name = "" ∨ name = ".") : Step root place name place
  | up : Step root place ".." place.dropLast
  | down {name : String} (h : IsEntryName name) (found : (root.item? (place ++ [name])).isSome) :
      Step root place name (place ++ [name])

lemma item?_eq_directory_iff :
    root.item? names = some .directory ↔ ∃ entries, root.at? names = some (.directory entries) := by
  rw [FileTree.item?, Option.map_eq_some_iff]
  constructor
  · rintro ⟨tree, htree, hitem⟩
    cases tree with
    | directory entries => exact ⟨entries, htree⟩
    | file content => cases hitem
    | special => cases hitem
  · rintro ⟨entries, h⟩
    exact ⟨_, h, rfl⟩

/-- Names are followed from directories, one after the other. -/
lemma follow_cons_iff : follow root place (name :: names) = .ok target ↔
    root.item? place = some .directory ∧
      ∃ next, Step root place name next ∧ follow root next names = .ok target := by
  rw [follow, item?_eq_directory_iff]
  constructor
  · intro h
    split at h
    · cases h
    · next tree hat =>
      cases tree with
      | directory entries =>
        refine ⟨⟨entries, hat⟩, ?_⟩
        rw [if_neg (by simp [FileTree.isDirectory])] at h
        split at h
        · next hstay => exact ⟨_, .stay hstay, h⟩
        · next hstay =>
          rw [not_or] at hstay
          split at h
          · next hup =>
            subst hup
            exact ⟨_, .up, h⟩
          · next hup =>
            split at h
            · next hfound =>
              refine ⟨_, .down ⟨hstay.1, hstay.2, hup⟩ ?_, h⟩
              rwa [FileTree.item?, Option.isSome_map]
            · cases h
      | file content => cases h
      | special => cases h
  · rintro ⟨⟨entries, hat⟩, next, hstep, hrest⟩
    simp only [hat, FileTree.isDirectory, Bool.not_true, Bool.false_eq_true, if_false]
    cases hstep with
    | stay hstay => rwa [if_pos hstay]
    | up => rwa [if_neg (by decide), if_pos rfl]
    | down hname hfound =>
      rw [FileTree.item?, Option.isSome_map] at hfound
      rwa [if_neg (not_or.mpr ⟨hname.1, hname.2.1⟩), if_neg hname.2.2, if_pos hfound]

/-- Names are followed in parts. -/
lemma follow_append_iff : follow root place (names ++ more) = .ok target ↔
    ∃ mid, follow root place names = .ok mid ∧ follow root mid more = .ok target := by
  induction names generalizing place with
  | nil => simp [follow]
  | cons name names ih =>
    simp only [List.cons_append, follow_cons_iff, ih]
    constructor
    · rintro ⟨hd, next, hstep, mid, hnames, hmore⟩
      exact ⟨mid, ⟨hd, next, hstep, hnames⟩, hmore⟩
    · rintro ⟨mid, ⟨hd, next, hstep, hnames⟩, hmore⟩
      exact ⟨hd, next, hstep, mid, hnames, hmore⟩

/-- Names lead to the same place where there is more. -/
lemma follow_of_follow (hdirectory : ∀ p, root.item? p = some .directory →
      root'.item? p = some .directory)
    (hfound : ∀ p, (root.item? p).isSome → (root'.item? p).isSome)
    (h : follow root place names = .ok target) : follow root' place names = .ok target := by
  induction names generalizing place with
  | nil => exact h
  | cons name names ih =>
    obtain ⟨hd, next, hstep, hrest⟩ := follow_cons_iff.mp h
    refine follow_cons_iff.mpr ⟨hdirectory _ hd, next, ?_, ih hrest⟩
    cases hstep with
    | stay hstay => exact .stay hstay
    | up => exact .up
    | down hname hin => exact .down hname (hfound _ hin)

/-- The way to a directory leads over directories only. -/
lemma item?_of_follow (h : follow root place names = .ok target)
    (hd : root.item? target = some .directory) : root.item? place = some .directory := by
  cases names with
  | nil =>
    cases h
    exact hd
  | cons name names => exact (follow_cons_iff.mp h).1

/-- Names lead to the same directory where there are the same directories. -/
lemma follow_to_directory (hdirectory : ∀ p, root.item? p = some .directory →
      root'.item? p = some .directory)
    (h : follow root place names = .ok target) (hd : root.item? target = some .directory) :
    follow root' place names = .ok target := by
  induction names generalizing place with
  | nil => exact h
  | cons name names ih =>
    obtain ⟨hplace, next, hstep, hrest⟩ := follow_cons_iff.mp h
    refine follow_cons_iff.mpr ⟨hdirectory _ hplace, next, ?_, ih hrest⟩
    cases hstep with
    | stay hstay => exact .stay hstay
    | up => exact .up
    | down hname _ =>
      refine .down hname ?_
      rw [hdirectory _ (item?_of_follow hrest hd)]
      rfl

/-! ## Places of paths -/

/-- The place to which a path leads. -/
def place? (fs : FileSystem) (path : String) : Option (List String) :=
  if path = "" then none else (follow fs.root (fs.start path) (Path.names path)).toOption

lemma place?_eq_some_iff {path : String} : fs.place? path = some place ↔
    path ≠ "" ∧ follow fs.root (fs.start path) (Path.names path) = .ok place := by
  rw [place?]
  split
  · next h => simp [h]
  · next h =>
    cases follow fs.root (fs.start path) (Path.names path) <;> simp [h, Except.toOption]

lemma entry?_eq (fs : FileSystem) (path : String) :
    fs.entry? path = (fs.place? path).bind fs.root.at? := by
  have hentry : fs.entry? path = (fs.entry path).toOption := rfl
  rw [hentry, place?, entry]
  split
  · rfl
  · cases follow fs.root (fs.start path) (Path.names path) with
    | error e => rfl
    | ok place =>
      simp only [bind, Except.bind, Option.bind, Except.toOption]
      cases fs.root.at? place <;> rfl

lemma isDirectory_iff {path : String} : fs.isDirectory path = true ↔
    ∃ place, fs.place? path = some place ∧ fs.root.item? place = some .directory := by
  rw [isDirectory, entry?_eq]
  simp only [item?_eq_directory_iff]
  cases fs.place? path with
  | none => simp
  | some place =>
    cases hat : fs.root.at? place with
    | none => simp [hat]
    | some tree => cases tree <;> simp [hat, FileTree.isDirectory]

/-! ## Storing a file -/

/-- The file system in which a file was put at a place. -/
def store (fs : FileSystem) (place : List String) (content : ByteArray) : FileSystem :=
  { fs with root := FileTree.insert (.file content) place fs.root }

lemma writeIn_eq_ok_iff {content : ByteArray} : fs.writeIn place name content = .ok after ↔
    IsEntryName name ∧ (fs.root.item? (place ++ [name]) = some .special ∧ after = fs ∨
      fs.root.item? (place ++ [name]) ≠ some .special ∧
        fs.root.item? (place ++ [name]) ≠ some .directory ∧
        after = fs.store (place ++ [name]) content) := by
  rw [writeIn, FileTree.item?]
  by_cases hname : name = "" ∨ name = "." ∨ name = ".."
  · have hnot : ¬IsEntryName name := by
      rintro ⟨h₁, h₂, h₃⟩
      rcases hname with h | h | h <;> contradiction
    simp [hname, hnot]
  · have hentry : IsEntryName name := by
      rw [not_or, not_or] at hname
      exact hname
    rw [if_neg hname]
    cases hat : fs.root.at? (place ++ [name]) with
    | none => simp [hentry, store, eq_comm]
    | some tree => cases tree <;> simp [hentry, store, FileTree.item, eq_comm]

/-- A file is written in the directory to which all names but the last one lead. -/
lemma write_eq_ok_iff {path : String} {content : ByteArray} :
    fs.write path content = .ok after ↔ path ≠ "" ∧ ∃ directory,
      follow fs.root (fs.start path) (Path.names path).dropLast = .ok directory ∧
      fs.root.item? directory = some .directory ∧
      fs.writeIn directory ((Path.names path).getLastD "") content = .ok after := by
  by_cases hpath : path = ""
  · simp [write, hpath]
  · rw [write, if_neg hpath]
    dsimp only
    cases follow fs.root (fs.start path) (Path.names path).dropLast with
    | error e => simp [bind, Except.bind]
    | ok directory =>
      simp only [bind, Except.bind, FileTree.item?]
      cases hat : fs.root.at? directory with
      | none => simp [hat, hpath]
      | some tree => cases tree <;> simp [hat, hpath, FileTree.item]

section Store

variable {path : String} {content : ByteArray}

/-- Elsewhere there is what was there before. -/
lemma item?_store (h : fs.root.Takes place) (content : ByteArray) (other : List String) :
    (fs.store place content).root.item? other =
      if other = place then some (.file content) else fs.root.item? other :=
  h.item?_insert content other

/-- The directories are the same. -/
lemma directory_store_iff (h : fs.root.Takes place) (content : ByteArray) {other : List String} :
    (fs.store place content).root.item? other = some .directory ↔
      fs.root.item? other = some .directory := by
  rw [item?_store h]
  split
  · next heq =>
    subst heq
    simp [h.item?_ne_directory]
  · exact Iff.rfl

lemma isSome_item?_store (h : fs.root.Takes place) (content : ByteArray) {other : List String}
    (hsome : (fs.root.item? other).isSome) :
    ((fs.store place content).root.item? other).isSome := by
  rw [item?_store h]
  split
  · rfl
  · exact hsome

/-- Names lead where they led before. -/
lemma follow_store (h : fs.root.Takes place) (content : ByteArray) {start : List String}
    (hfollow : follow fs.root start names = .ok target) :
    follow (fs.store place content).root start names = .ok target :=
  follow_of_follow (fun _ hd => (directory_store_iff h content).mpr hd)
    (fun _ => isSome_item?_store h content) hfollow

/-- A path leads where it led before. -/
lemma place?_store (h : fs.root.Takes place) (content : ByteArray)
    (hp : fs.place? path = some target) : (fs.store place content).place? path = some target := by
  obtain ⟨hne, hfollow⟩ := place?_eq_some_iff.mp hp
  exact place?_eq_some_iff.mpr ⟨hne, follow_store h content hfollow⟩

/-- A path leads to a directory if it did so before. -/
lemma isDirectory_store (h : fs.root.Takes place) (content : ByteArray) (path : String) :
    (fs.store place content).isDirectory path = fs.isDirectory path := by
  rw [Bool.eq_iff_iff, isDirectory_iff, isDirectory_iff]
  constructor
  · rintro ⟨target, hp, hd⟩
    obtain ⟨hne, hfollow⟩ := place?_eq_some_iff.mp hp
    refine ⟨target, place?_eq_some_iff.mpr ⟨hne, follow_to_directory
      (fun _ hd => (directory_store_iff h content).mp hd) hfollow hd⟩,
      (directory_store_iff h content).mp hd⟩
  · rintro ⟨target, hp, hd⟩
    exact ⟨target, place?_store h content hp, (directory_store_iff h content).mpr hd⟩

/-- A file is written in a directory, under the last name of the path.  It is stored there, unless
something special takes what is written. -/
lemma exists_directory_of_write (h : fs.write path content = .ok after) :
    ∃ directory, path ≠ "" ∧
      follow fs.root (fs.start path) (Path.names path).dropLast = .ok directory ∧
      fs.root.item? directory = some .directory ∧ IsEntryName ((Path.names path).getLastD "") ∧
      (fs.root.item? (directory ++ [(Path.names path).getLastD ""]) = some .special ∧ after = fs ∨
        fs.root.Takes (directory ++ [(Path.names path).getLastD ""]) ∧
          after = fs.store (directory ++ [(Path.names path).getLastD ""]) content) := by
  obtain ⟨hne, directory, hfollow, hd, hwrite⟩ := write_eq_ok_iff.mp h
  obtain ⟨hname, hspecial | ⟨-, hnot, hafter⟩⟩ := writeIn_eq_ok_iff.mp hwrite
  · exact ⟨directory, hne, hfollow, hd, hname, .inl hspecial⟩
  · exact ⟨directory, hne, hfollow, hd, hname, .inr ⟨FileTree.takes_of_item? hd hnot, hafter⟩⟩

/-- A path leads to the item with its last name in the directory to which the others lead. -/
lemma place?_of_directory (hne : path ≠ "")
    (hfollow : follow fs.root (fs.start path) (Path.names path).dropLast = .ok target)
    (hd : fs.root.item? target = some .directory)
    (hname : IsEntryName ((Path.names path).getLastD ""))
    (hsome : (fs.root.item? (target ++ [(Path.names path).getLastD ""])).isSome) :
    fs.place? path = some (target ++ [(Path.names path).getLastD ""]) := by
  rw [place?_eq_some_iff]
  refine ⟨hne, ?_⟩
  have hstep : follow fs.root target [(Path.names path).getLastD ""] =
      .ok (target ++ [(Path.names path).getLastD ""]) :=
    follow_cons_iff.mpr ⟨hd, _, .down hname hsome, rfl⟩
  have hparts := follow_append_iff.mpr ⟨target, hfollow, hstep⟩
  rwa [← Path.names_eq_dropLast_append] at hparts

/-- A file that is written is afterwards where the path leads, unless something special takes what
is written. -/
lemma exists_of_write (h : fs.write path content = .ok after) :
    (after = fs ∧ ∃ place, fs.place? path = some place ∧ fs.root.item? place = some .special) ∨
      ∃ place, fs.root.Takes place ∧ after = fs.store place content ∧
        after.place? path = some place ∧
        ((fs.root.item? place).isSome → fs.place? path = some place) := by
  obtain ⟨directory, hne, hfollow, hd, hname, ⟨hspecial, rfl⟩ | ⟨htakes, rfl⟩⟩ :=
    exists_directory_of_write h
  · exact .inl ⟨rfl, _, place?_of_directory hne hfollow hd hname (by rw [hspecial]; rfl), hspecial⟩
  · refine .inr ⟨_, htakes, rfl, place?_of_directory hne (follow_store htakes content hfollow)
      ((directory_store_iff htakes content).mpr hd) hname ?_,
      place?_of_directory hne hfollow hd hname⟩
    rw [item?_store htakes, if_pos rfl]
    rfl

/-- What was written can be written once more, and nothing changes. -/
lemma write_again (h : fs.write path content = .ok after) :
    after.write path content = .ok after := by
  obtain ⟨directory, hne, hfollow, hd, hname, ⟨-, rfl⟩ | ⟨htakes, rfl⟩⟩ :=
    exists_directory_of_write h
  · exact h
  · have hitem := item?_store htakes content (directory ++ [(Path.names path).getLastD ""])
    rw [if_pos rfl] at hitem
    refine write_eq_ok_iff.mpr ⟨hne, directory, follow_store htakes content hfollow,
      (directory_store_iff htakes content).mpr hd,
      writeIn_eq_ok_iff.mpr ⟨hname, .inr ⟨hitem ▸ nofun, hitem ▸ nofun, ?_⟩⟩⟩
    have hat := FileTree.at?_eq_file hitem
    conv_rhs => rw [store, FileTree.insert_eq_self hat]

/-- Of all places only the one to which a path leads has another item than before, which is a file.
What is written to something special does not stay. -/
structure WritesOnly (fs : FileSystem) (path : String) (content : ByteArray) (after : FileSystem) :
    Prop where
  workingDirectory : after.workingDirectory = fs.workingDirectory
  only : ∃ place, after.place? path = some place ∧
    (∀ other, other ≠ place → after.root.item? other = fs.root.item? other) ∧
    (after.root.item? place = some (.file content) ∨
      fs.root.item? place = some .special ∧ after = fs)

lemma writesOnly_of_write (h : fs.write path content = .ok after) :
    fs.WritesOnly path content after := by
  rcases exists_of_write h with ⟨rfl, place, hplace, hspecial⟩ | ⟨place, htakes, rfl, hplace, -⟩
  · exact ⟨rfl, place, hplace, fun _ _ => rfl, .inr ⟨hspecial, rfl⟩⟩
  · refine ⟨rfl, place, hplace, fun other hother => ?_, .inl ?_⟩
    · rw [item?_store htakes, if_neg hother]
    · rw [item?_store htakes, if_pos rfl]

end Store

end FileSystem

end JavaUml
