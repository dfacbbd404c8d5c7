/-
# The tokens of a text

The text of a type is a sequence of tokens, which are words and single characters, with white space
between some of them (`tokens`).  White space has to stand between two words, and may stand between
any other tokens, so that one sequence of tokens has many spellings.

Texts with the same tokens begin with the same character, and with the same word, behind white
space (`exists_cons_of_tokens`, `exists_word_of_tokens`).
-/
import JavaUml.Proofs.TypeRef.Parts

namespace JavaUml.TypeRef

open JavaUml.Text

/-- Whether two characters side by side belong to one token. -/
def isJoined (c d : Char) : Bool := isNameChar c && isNameChar d

/-- The tokens of a text: the maximal runs of name characters, and every other character on its own.
White space separates tokens and is none. -/
def tokens : List Char → List (List Char)
  | [] => []
  | [c] => if isWhiteSpace c then [] else [[c]]
  | c :: d :: cs =>
    if isWhiteSpace c then tokens (d :: cs)
    else if isJoined c d then extendFirst c (tokens (d :: cs))
    else [c] :: tokens (d :: cs)

lemma isWhiteSpace_of_skipBlank {c : Char} {cs rest : List Char} (h : skipBlank cs = c :: rest) :
    isWhiteSpace c = false := by
  have hhead := List.head?_dropWhile_not isWhiteSpace cs
  rw [← skipBlank, h] at hhead
  simpa using hhead

/-- A text begins with a name character. -/
def StartsWord (cs : List Char) : Prop := ∃ c ∈ cs.head?, isNameChar c = true

section Tokens

variable {c d : Char} {cs ds blanks : List Char}

lemma startsWord_cons : StartsWord (c :: cs) ↔ isNameChar c = true := by simp [StartsWord]

lemma not_startsWord_nil : ¬ StartsWord [] := by simp [StartsWord]

/-! ## From the front -/

lemma tokens_blank (hc : isWhiteSpace c = true) (cs : List Char) :
    tokens (c :: cs) = tokens cs := by
  cases cs <;> simp [tokens, hc]

lemma tokens_blanks_append (h : IsBlanks blanks) (cs : List Char) :
    tokens (blanks ++ cs) = tokens cs := by
  induction blanks with
  | nil => rfl
  | cons c blanks ih =>
    rw [IsBlanks, List.forall_mem_cons] at h
    rw [List.cons_append, tokens_blank h.1, ih h.2]

/-- A character that does not belong to a word together with the next one is a token. -/
lemma tokens_cons (hc : isWhiteSpace c = false) (h : isNameChar c = true → ¬ StartsWord cs) :
    tokens (c :: cs) = [c] :: tokens cs := by
  cases cs with
  | nil => simp [tokens, hc]
  | cons d cs =>
    have hjoined : isJoined c d = false := by
      simpa [isJoined, startsWord_cons] using h
    simp [tokens, hc, hjoined]

lemma exists_tokens_cons (hc : isWhiteSpace c = false) (cs : List Char) :
    ∃ token ts, tokens (c :: cs) = (c :: token) :: ts := by
  cases cs with
  | nil => exact ⟨[], [], by simp [tokens, hc]⟩
  | cons d cs =>
    rw [tokens, if_neg (by simp [hc])]
    split
    · cases tokens (d :: cs) with
      | nil => exact ⟨[], [], rfl⟩
      | cons token ts => exact ⟨token, ts, rfl⟩
    · exact ⟨[], _, rfl⟩

/-- A name character in front of a word belongs to the word. -/
lemma exists_tokens_joined (hc : isNameChar c = true) (h : StartsWord cs) :
    ∃ d token ts, tokens cs = (d :: token) :: ts ∧ tokens (c :: cs) = (c :: d :: token) :: ts := by
  obtain ⟨d, hd, hname⟩ := h
  cases cs with
  | nil => cases hd
  | cons e cs =>
    obtain rfl : e = d := by simpa using hd
    obtain ⟨token, ts, hts⟩ := exists_tokens_cons (isWhiteSpace_of_isNameChar hname) cs
    refine ⟨e, token, ts, hts, ?_⟩
    simp [tokens, isWhiteSpace_of_isNameChar hc, isJoined, hc, hname, hts, extendFirst]

lemma isBlanks_of_tokens_eq_nil (h : tokens cs = []) : IsBlanks cs := by
  induction cs with
  | nil => exact isBlanks_nil
  | cons c cs ih =>
    cases hc : isWhiteSpace c with
    | true =>
      rw [tokens_blank hc] at h
      exact List.forall_mem_cons.mpr ⟨hc, ih h⟩
    | false =>
      obtain ⟨token, ts, hts⟩ := exists_tokens_cons hc cs
      rw [hts] at h
      cases h

/-! ## Cutting a text -/

/-- The tokens of two texts are those of both together, unless a word goes over the cut. -/
lemma tokens_append (h : ∀ c ∈ cs.getLast?, isNameChar c = true → ¬ StartsWord ds) :
    tokens (cs ++ ds) = tokens cs ++ tokens ds := by
  induction cs with
  | nil => rfl
  | cons c cs ih =>
    cases hc : isWhiteSpace c with
    | true =>
      rw [List.cons_append, tokens_blank hc, tokens_blank hc]
      refine ih fun d hd => h d ?_
      rw [List.getLast?_cons, Option.mem_def.mp hd]
      rfl
    | false =>
      cases cs with
      | nil =>
        rw [List.singleton_append, tokens_cons hc (h c rfl),
          tokens_cons hc fun _ => not_startsWord_nil]
        rfl
      | cons e es =>
        have ih := ih fun d hd => h d hd
        by_cases hword : isNameChar c = true ∧ isNameChar e = true
        · have hstarts : ∀ rest, StartsWord (e :: rest) := fun _ => startsWord_cons.mpr hword.2
          obtain ⟨d, token, ts, hts, hcts⟩ := exists_tokens_joined hword.1 (hstarts es)
          obtain ⟨d', token', ts', hts', hcts'⟩ :=
            exists_tokens_joined hword.1 (hstarts (es ++ ds))
          rw [List.cons_append, hts, hts'] at ih
          rw [List.cons_append, List.cons_append, hcts, hcts']
          simpa using ih
        · have hsep : ∀ rest, isNameChar c = true → ¬ StartsWord (e :: rest) :=
            fun _ hname he => hword ⟨hname, startsWord_cons.mp he⟩
          rw [List.cons_append, List.cons_append, tokens_cons hc (hsep _), tokens_cons hc (hsep _)]
          exact congrArg ([c] :: ·) ih

/-- A text with the tokens of another one begins with the same character, behind blanks, and a word
goes on behind it in both or in none. -/
lemma exists_cons_of_tokens (hc : isWhiteSpace c = false) (h : tokens ds = tokens (c :: cs)) :
    ∃ blanks rest, IsBlanks blanks ∧ ds = blanks ++ c :: rest ∧ tokens rest = tokens cs ∧
      (isNameChar c = true → (StartsWord rest ↔ StartsWord cs)) := by
  obtain ⟨blanks, hblanks, hds⟩ := exists_blanks_append ds
  rw [hds, tokens_blanks_append hblanks] at h
  cases hskip : skipBlank ds with
  | nil =>
    obtain ⟨token, ts, hts⟩ := exists_tokens_cons hc cs
    rw [hskip, hts] at h
    cases h
  | cons e rest =>
    have he : isWhiteSpace e = false := isWhiteSpace_of_skipBlank hskip
    rw [hskip] at hds h
    refine ⟨blanks, rest, hblanks, ?_⟩
    by_cases hword : isNameChar c = true ∧ StartsWord cs <;>
      by_cases hword' : isNameChar e = true ∧ StartsWord rest
    · obtain ⟨d, token, ts, hcs, hccs⟩ := exists_tokens_joined hword.1 hword.2
      obtain ⟨d', token', ts', hrest, herest⟩ := exists_tokens_joined hword'.1 hword'.2
      rw [hccs, herest] at h
      cases h
      exact ⟨hds, hrest.trans hcs.symm, fun _ => iff_of_true hword'.2 hword.2⟩
    · obtain ⟨d, token, ts, hcs, hccs⟩ := exists_tokens_joined hword.1 hword.2
      rw [hccs, tokens_cons he fun hname hrest => hword' ⟨hname, hrest⟩] at h
      cases h
    · obtain ⟨d, token, ts, hrest, herest⟩ := exists_tokens_joined hword'.1 hword'.2
      rw [herest, tokens_cons hc fun hname hcs => hword ⟨hname, hcs⟩] at h
      cases h
    · rw [tokens_cons hc fun hname hcs => hword ⟨hname, hcs⟩,
        tokens_cons he fun hname hrest => hword' ⟨hname, hrest⟩] at h
      obtain ⟨heq, hrest⟩ := List.cons.inj h
      obtain rfl : e = c := (List.cons.inj heq).1
      exact ⟨hds, hrest, fun hname =>
        iff_of_false (fun hs => hword' ⟨hname, hs⟩) fun hs => hword ⟨hname, hs⟩⟩

/-- The characters of a word stand side by side in every text with its token at the front. -/
lemma exists_word_of_tokens {word : List Char} (hne : word ≠ [])
    (hword : ∀ c ∈ word, isNameChar c = true) (h : tokens ds = tokens (word ++ cs)) :
    ∃ blanks rest, IsBlanks blanks ∧ ds = blanks ++ (word ++ rest) ∧ tokens rest = tokens cs ∧
      (StartsWord rest ↔ StartsWord cs) := by
  induction word generalizing ds with
  | nil => exact absurd rfl hne
  | cons c word ih =>
    rw [List.forall_mem_cons] at hword
    obtain ⟨blanks, rest, hblanks, rfl, hrest, hstarts⟩ :=
      exists_cons_of_tokens (isWhiteSpace_of_isNameChar hword.1) h
    cases word with
    | nil => exact ⟨blanks, rest, hblanks, rfl, hrest, hstarts hword.1⟩
    | cons d word =>
      obtain ⟨between, after, hbetween, rfl, hafter, hiff⟩ := ih (by simp) hword.2 hrest
      -- the next character of the word follows at once
      obtain rfl : between = [] := by
        have hnext := (hstarts hword.1).mpr (startsWord_cons.mpr (hword.2 d List.mem_cons_self))
        cases between with
        | nil => rfl
        | cons b between =>
          have hb := hbetween b List.mem_cons_self
          rw [List.cons_append, startsWord_cons] at hnext
          rw [isWhiteSpace_of_isNameChar hnext] at hb
          cases hb
      exact ⟨blanks, after, hblanks, rfl, hafter, hiff⟩

end Tokens

end JavaUml.TypeRef
