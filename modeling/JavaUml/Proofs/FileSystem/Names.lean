/-
# Names of files

What the name of a file says about it: the extension (`Path.hasExtension_iff`), and the place among
the other names of a directory.  Names are compared character by character, which comes to the same
as comparing their octets (`Text.octets_lt`): if one character comes before another one, then its
octets do so too, whatever octets follow (`Text.encode_append_lt`).
-/
import JavaUml.FileSystem.Path
import Mathlib.Data.List.Lex
import Mathlib.Tactic.Common
import Mathlib.Tactic.SplitIfs

namespace JavaUml

/-! ## Order -/

namespace Text

/-- The octets of a text in UTF-8. -/
def octets (s : String) : List UInt8 := s.toUTF8.data.toList

lemma octets_eq (s : String) : octets s = s.toList.flatMap String.utf8EncodeChar := by
  have h : s.toUTF8 = (s.toList.flatMap String.utf8EncodeChar).toByteArray := by
    rw [String.toUTF8_eq_toByteArray, ← String.utf8Encode_toList, List.utf8Encode]
  rw [octets, h, List.toList_data_toByteArray]

/-- The octets of two different characters differ before one of them ends, and the first difference
tells which character comes first. -/
lemma encode_append_lt {c d : Char} (h : c < d) (xs ys : List UInt8) :
    String.utf8EncodeChar c ++ xs < String.utf8EncodeChar d ++ ys := by
  have hlt : c.val.toNat < d.val.toNat := h
  have hd : d.val.toNat < 0x110000 := by
    rcases d.valid with hvalid | hvalid <;> omega
  unfold String.utf8EncodeChar
  generalize c.val.toNat = v at *
  generalize d.val.toNat = w at *
  -- the numbers are compared by their digits to the base 64, of which there are one to four
  have htwo : v / 64 < w / 64 ∨ v / 64 = w / 64 ∧ v % 64 < w % 64 := by omega
  have hthree : v / 4096 < w / 4096 ∨ v / 4096 = w / 4096 ∧ (v / 64 % 64 < w / 64 % 64 ∨
      v / 64 % 64 = w / 64 % 64 ∧ v % 64 < w % 64) := by omega
  have hfour : v / 262144 < w / 262144 ∨ v / 262144 = w / 262144 ∧
      (v / 4096 % 64 < w / 4096 % 64 ∨ v / 4096 % 64 = w / 4096 % 64 ∧
        (v / 64 % 64 < w / 64 % 64 ∨ v / 64 % 64 = w / 64 % 64 ∧ v % 64 < w % 64)) := by omega
  -- if the numbers of digits differ then the first octets do
  dsimp only
  split_ifs <;>
    simp only [List.cons_append, List.nil_append, List.cons_lt_cons_iff, UInt8.lt_iff_toNat_lt,
      ← UInt8.toNat_inj, UInt8.toNat_ofNat'] <;>
    simp (disch := omega) only [Nat.mod_eq_of_lt] <;>
    omega

/-- Texts are in the order of their octets. -/
lemma octets_lt {s t : String} (h : s < t) : octets s < octets t := by
  have hlist : s.toList < t.toList := h
  rw [octets_eq, octets_eq]
  generalize s.toList = cs at hlist
  generalize t.toList = ds at hlist
  induction cs generalizing ds with
  | nil =>
    cases ds with
    | nil => exact absurd hlist (List.lt_irrefl _)
    | cons d ds =>
      rw [List.flatMap_nil, List.flatMap_cons]
      cases hd : String.utf8EncodeChar d with
      | nil => exact absurd hd String.utf8EncodeChar_ne_nil
      | cons x xs => exact List.nil_lt_cons _ _
  | cons c cs ih =>
    cases ds with
    | nil => exact absurd hlist (List.not_lt_nil _)
    | cons d ds =>
      rw [List.flatMap_cons, List.flatMap_cons]
      rcases List.cons_lt_cons_iff.mp hlist with hlt | ⟨rfl, hrest⟩
      · exact encode_append_lt hlt _ _
      · exact List.append_left_lt (ih ds hrest)

end Text

/-! ## Extensions and paths -/

namespace Path

/-- A name with an extension has a dot before it, and something before the dot. -/
lemma hasExtension_iff {extension name : String} (h : '.' ∉ extension.toList) :
    hasExtension extension name = true ↔
      ∃ stem, stem ≠ "" ∧ name = stem ++ "." ++ extension := by
  have hdots : ∀ c ∈ extension.toList.reverse, (c != '.') = true := by
    intro c hc
    refine bne_iff_ne.mpr ?_
    rintro rfl
    exact h (List.mem_reverse.mp hc)
  rw [hasExtension, Bool.and_eq_true, beq_iff_eq]
  constructor
  · rintro ⟨hstem, rfl⟩
    have hsplit := List.takeWhile_append_dropWhile (p := (· != '.')) (l := name.toList.reverse)
    cases hback : name.toList.reverse.dropWhile (· != '.') with
    | nil => simp [hback] at hstem
    | cons c stem =>
      have hc : (c != '.') = false := by
        have hhead :=
          List.head_dropWhile_not (· != '.') (l := name.toList.reverse) (by simp [hback])
        simpa [hback] using hhead
      obtain rfl : c = '.' := by simpa using hc
      rw [hback] at hstem hsplit
      refine ⟨String.ofList stem.reverse, ?_, ?_⟩
      · simpa using hstem
      · have hname := congrArg List.reverse hsplit
        refine String.toList_inj.mp ?_
        simpa using hname.symm
  · rintro ⟨stem, hstem, rfl⟩
    have hname : (stem ++ "." ++ extension).toList.reverse =
        extension.toList.reverse ++ '.' :: stem.toList.reverse := by simp
    rw [hname, List.takeWhile_append_of_pos hdots, List.dropWhile_append_of_pos hdots]
    simpa using hstem

lemma splitSlashes_of_not_mem {cs : List Char} (h : '/' ∉ cs) : splitSlashes cs = [cs] := by
  induction cs with
  | nil => rfl
  | cons c cs ih =>
    rw [List.mem_cons, not_or] at h
    rw [splitSlashes, if_neg (Ne.symm h.1), ih h.2, Text.extendFirst]

/-- A slash ends a part, so that what comes after it is split for itself. -/
lemma exists_splitSlashes_append (cs more : List Char) :
    ∃ first rest, splitSlashes (cs ++ '/' :: more) = (first :: rest) ++ splitSlashes more := by
  induction cs with
  | nil => exact ⟨[], [], rfl⟩
  | cons c cs ih =>
    obtain ⟨first, rest, hsplit⟩ := ih
    rw [List.cons_append, splitSlashes, hsplit]
    split
    · exact ⟨[], first :: rest, rfl⟩
    · exact ⟨c :: first, rest, rfl⟩

/-- The last name in the path of a name in a directory. -/
lemma fileName_join {name : String} (h : '/' ∉ name.toList) (directory : String) :
    fileName (join directory name) = name := by
  have hslash (cs : List Char) : (names (String.ofList (cs ++ '/' :: name.toList))).getLastD "" =
      name := by
    obtain ⟨first, rest, hsplit⟩ := exists_splitSlashes_append cs name.toList
    have hnames : names (String.ofList (cs ++ '/' :: name.toList)) =
        (String.ofList first :: rest.map String.ofList) ++ [name] := by
      simp [names, hsplit, splitSlashes_of_not_mem h]
    rw [hnames, List.getLastD_concat]
  rw [fileName, join]
  split
  · next hend =>
    rcases Bool.or_eq_true_iff.mp hend with hempty | hlast
    · simp [String.isEmpty_iff.mp hempty, names, splitSlashes_of_not_mem h]
    · obtain ⟨cs, hcs⟩ := List.getLast?_eq_some_iff.mp (eq_of_beq hlast)
      have hpath : directory ++ name = String.ofList (cs ++ '/' :: name.toList) :=
        String.toList_inj.mp (by simp [hcs])
      rw [hpath, hslash]
  · have hpath :
        directory ++ "/" ++ name = String.ofList (directory.toList ++ '/' :: name.toList) :=
      String.toList_inj.mp (by simp)
    rw [hpath, hslash]

end Path

end JavaUml
