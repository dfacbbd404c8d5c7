/-
# Words

A text is made of its words and of white space between them, which stands in front of the first word
and behind the last one as well (`words_induction`).  To collapse a text leaves its words as they
are (`words_collapse`).
-/
import JavaUml.Text.Blank
import Mathlib.Tactic.Common
import Mathlib.Data.List.TakeWhile

namespace JavaUml.Text

variable {c : Char} {cs word rest : List Char}

/-- A text without white space that is not empty. -/
def IsRun (cs : List Char) : Prop := cs ≠ [] ∧ ∀ c ∈ cs, isWhiteSpace c = false

/-- A text that white space begins, or the empty text. -/
def StartsBlank (cs : List Char) : Prop := ∀ c ∈ cs.head?, isWhiteSpace c = true

lemma words_blank (hc : isWhiteSpace c = true) (cs : List Char) : words (c :: cs) = words cs := by
  cases cs <;> simp [words, hc]

lemma words_run_append (hword : IsRun word) (hrest : StartsBlank rest) :
    words (word ++ rest) = word :: words rest := by
  obtain ⟨hne, hword⟩ := hword
  induction word with
  | nil => exact absurd rfl hne
  | cons c word ih =>
    rw [List.forall_mem_cons] at hword
    cases word with
    | nil =>
      cases rest with
      | nil => simp [words, hword.1]
      | cons d rest => simp [words, hword.1, hrest d rfl]
    | cons d word =>
      have hd := hword.2 d List.mem_cons_self
      have htail := ih (List.cons_ne_nil d word) hword.2
      rw [List.cons_append] at htail
      simp [words, hword.1, hd, htail, extendFirst]

/-- What holds of the empty text, of a text with more white space in front and of a text with one
more word in front of white space holds of every text. -/
theorem words_induction {motive : List Char → Prop} (nil : motive [])
    (blank : ∀ c cs, isWhiteSpace c = true → motive cs → motive (c :: cs))
    (run : ∀ word rest, IsRun word → StartsBlank rest → motive rest → motive (word ++ rest))
    (cs : List Char) : motive cs := by
  induction hk : cs.length using Nat.strongRecOn generalizing cs with
  | _ k ih =>
    cases cs with
    | nil => exact nil
    | cons c cs =>
      cases hc : isWhiteSpace c with
      | true => exact blank c cs hc (ih cs.length (by simp [← hk]) cs rfl)
      | false =>
        have happend := List.takeWhile_append_dropWhile (p := fun d => !isWhiteSpace d) (l := cs)
        have hle : (cs.dropWhile fun d => !isWhiteSpace d).length ≤ cs.length :=
          (List.dropWhile_suffix _).length_le
        have hrun : IsRun (c :: cs.takeWhile fun d => !isWhiteSpace d) := by
          refine ⟨List.cons_ne_nil _ _, List.forall_mem_cons.mpr ⟨hc, fun d hd => ?_⟩⟩
          simpa using List.mem_takeWhile_imp hd
        have hrest : StartsBlank (cs.dropWhile fun d => !isWhiteSpace d) := by
          intro d hd
          have hhead := List.head?_dropWhile_not (fun d => !isWhiteSpace d) cs
          rw [Option.mem_def.mp hd] at hhead
          simpa using hhead
        have hlt := Nat.lt_succ_of_le hle
        have hstep := run _ _ hrun hrest (ih _ (hk ▸ hlt) _ rfl)
        rwa [List.cons_append, happend] at hstep

lemma isRun_of_mem_words (h : word ∈ words cs) : IsRun word := by
  induction cs using words_induction with
  | nil => simp [words] at h
  | blank c cs hc ih =>
    rw [words_blank hc] at h
    exact ih h
  | run first rest hfirst hrest ih =>
    rw [words_run_append hfirst hrest, List.mem_cons] at h
    rcases h with rfl | h
    · exact hfirst
    · exact ih h

lemma words_intercalate {ws : List (List Char)} (h : ∀ w ∈ ws, IsRun w) :
    words ([' '].intercalate ws) = ws := by
  induction ws with
  | nil => simp [words]
  | cons w ws ih =>
    rw [List.forall_mem_cons] at h
    cases ws with
    | nil =>
      have hrun : words (w ++ []) = w :: words [] := words_run_append h.1 nofun
      simpa [words] using hrun
    | cons w' ws =>
      have hblank : StartsBlank ([' '] ++ [' '].intercalate (w' :: ws)) := by
        rintro c ⟨⟩
        decide
      rw [List.intercalate_cons_cons, List.append_assoc, words_run_append h.1 hblank,
        List.singleton_append, words_blank (by decide), ih h.2]

lemma toList_collapse (s : String) :
    (collapse s).toList = [' '].intercalate (words s.toList) := by
  simp [collapse, String.toList_intercalate]

theorem words_collapse (s : String) : words (collapse s).toList = words s.toList := by
  rw [toList_collapse, words_intercalate fun _ => isRun_of_mem_words]

end JavaUml.Text
