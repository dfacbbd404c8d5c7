/-
# What the tokens of a source hold

A gap is made of blanks and comments, and a word only of the characters of words
(`Token.IsLexed`).  None of these characters is white space (`isWhiteSpace_of_isWordChar`), so that
the text of some tokens shows where its words end.
-/
import JavaUml.Java.Lexer
import JavaUml.Proofs.TypeRef.Parts

namespace JavaUml.Java

open JavaUml.Text

/-- What a piece of a gap holds: white space or a comment, which begins with a slash. -/
def Trivia.IsLexed : Trivia → Prop
  | .blank text => ∀ c ∈ text.toList, isGapChar c = true
  | .comment text => '/' ∈ text.toList

/-- What a token of some sort holds. -/
def TokenKind.Holds (kind : TokenKind) (text : String) : Prop :=
  kind = .word → text ≠ "" ∧ ∀ c ∈ text.toList, isWordChar c = true

/-- What a token holds with the gap before it. -/
structure Token.IsLexed (t : Token) : Prop where
  gap : ∀ g ∈ t.gap, g.IsLexed
  holds : t.kind.Holds t.text

/-- What a piece of a source holds. -/
def Piece.IsLexed : Piece → Prop
  | .gap t => t.IsLexed
  | .token kind text => kind.Holds text

/-! ## Characters -/

lemma isWhiteSpace_of_isGapChar {c : Char} (h : isGapChar c = true) : isWhiteSpace c = true := by
  simp only [isGapChar, Bool.or_eq_true, Bool.and_eq_true, decide_eq_true_eq, beq_iff_eq] at h
  rcases h with rfl | h
  · decide
  · simp [isWhiteSpace, h]

lemma isWordChar_of_isWordStart {c : Char} (h : isWordStart c = true) : isWordChar c = true := by
  have hstart : isIdentifierStart c = true → isIdentifierContinue c = true := by
    unfold isIdentifierStart isIdentifierContinue
    split
    · intro halpha
      simp [Char.isAlphanum, halpha]
    · intro hranges
      simp [hranges]
  simp only [isWordStart, isWordChar, Bool.or_eq_true, beq_iff_eq] at h ⊢
  rcases h with (h | h) | h
  · exact .inl (.inl (.inl (hstart h)))
  · exact .inl (.inl (.inr h))
  · exact .inl (.inr h)

/-- No white space stands in words. -/
lemma isWhiteSpace_of_isWordChar {c : Char} (h : isWordChar c = true) : isWhiteSpace c = false := by
  by_contra hblank
  have hword : isWordChar c = false :=
    TypeRef.eq_false_of_isWhiteSpace (by decide +kernel) (by simpa using hblank)
  rw [h] at hword
  cases hword

/-! ## Recognizers -/

section Recognizers

variable {cs rest : List Char} {piece : Piece}

lemma consumed_append (front rest : List Char) :
    consumed (front ++ rest) rest = String.ofList front := by
  rw [consumed, List.length_append, Nat.add_sub_cancel, List.take_left]

lemma exists_of_run {first more : Char → Bool}
    (h : Recognizer.chain [Recognizer.one first, Recognizer.many more] cs = some rest) :
    ∃ c front, cs = c :: front ++ rest ∧ first c = true ∧ ∀ d ∈ front, more d = true := by
  cases cs with
  | nil => cases h
  | cons c cs =>
    by_cases hc : first c = true
    · simp only [Recognizer.chain, Recognizer.one, hc, if_true, Recognizer.many,
        Option.bind_eq_bind, Option.bind_some, Option.some.injEq] at h
      subst h
      refine ⟨c, cs.takeWhile more, ?_, hc, fun d hd => List.mem_takeWhile_imp hd⟩
      rw [List.cons_append, List.takeWhile_append_dropWhile]
    · simp [Recognizer.chain, Recognizer.one, hc] at h

lemma exists_of_blockCommentEnd (h : blockCommentEnd cs = some rest) :
    ∃ front, cs = front ++ rest := by
  fun_induction blockCommentEnd cs with
  | case1 => cases h
  | case2 =>
    cases h
    exact ⟨['*', '/'], rfl⟩
  | case3 c cs _ ih =>
    obtain ⟨front, rfl⟩ := ih h
    exact ⟨c :: front, rfl⟩

lemma exists_of_comment (h : comment cs = some rest) : ∃ front, cs = '/' :: front ++ rest := by
  unfold comment at h
  split at h
  · next cs =>
    cases h
    exact ⟨'/' :: cs.takeWhile (· != '\n'), by
      rw [List.cons_append, List.cons_append, List.takeWhile_append_dropWhile]⟩
  · next cs =>
    obtain ⟨front, rfl⟩ := exists_of_blockCommentEnd h
    exact ⟨'*' :: front, rfl⟩
  · cases h

lemma isLexed_of_readPiece (h : readPiece cs = some (piece, rest)) : piece.IsLexed := by
  obtain ⟨⟨make, recognizer⟩, hmem, hmade⟩ := List.exists_of_findSome?_eq_some h
  obtain ⟨rest', hrest, heq⟩ := Option.map_eq_some_iff.mp hmade
  cases heq
  simp only [pieces, List.mem_cons, Prod.mk.injEq, List.not_mem_nil, or_false] at hmem
  rcases hmem with ⟨rfl, rfl⟩ | ⟨rfl, rfl⟩ | ⟨rfl, rfl⟩ | ⟨rfl, -⟩ | ⟨rfl, -⟩ | ⟨rfl, -⟩ |
    ⟨rfl, -⟩ | ⟨rfl, -⟩
  · obtain ⟨c, front, rfl, hc, hfront⟩ := exists_of_run hrest
    rw [consumed_append]
    simpa [Piece.IsLexed, Trivia.IsLexed] using ⟨hc, hfront⟩
  · obtain ⟨front, rfl⟩ := exists_of_comment hrest
    rw [consumed_append]
    simp [Piece.IsLexed, Trivia.IsLexed]
  · obtain ⟨c, front, rfl, hc, hfront⟩ := exists_of_run hrest
    rw [consumed_append]
    intro _
    simpa using ⟨isWordChar_of_isWordStart hc, hfront⟩
  all_goals
    intro hword
    cases hword

end Recognizers

/-! ## Tokens -/

/-- By induction on what is left of the source, where the gap so far is carried along. -/
lemma isLexed_of_tokensAfter {gap : List Trivia} {cs : List Char} {ts : List Token}
    (hgap : ∀ g ∈ gap, g.IsLexed) (h : tokensAfter gap cs = some ts) : ∀ t ∈ ts, t.IsLexed := by
  fun_induction tokensAfter gap cs generalizing ts with
  | case1 =>
    cases h
    exact fun t ht => absurd ht List.not_mem_nil
  | case3 gap cs _ rest _ t hread ih =>
    have ht : t.IsLexed := isLexed_of_readPiece hread
    refine ih (fun g hg => ?_) h
    rcases List.mem_append.mp hg with hg | hg
    · exact hgap g hg
    · exact List.mem_singleton.mp hg ▸ ht
  | case4 gap cs _ rest _ kind text hread ih =>
    have htext : kind.Holds text := isLexed_of_readPiece hread
    obtain ⟨more, hmore, rfl⟩ := Option.map_eq_some_iff.mp h
    rw [List.forall_mem_cons]
    exact ⟨⟨hgap, htext⟩, ih (by simp) hmore⟩
  | _ => cases h

theorem isLexed_of_lex {source : String} {ts : List Token} (h : lex source = some ts) :
    ∀ t ∈ ts, t.IsLexed := isLexed_of_tokensAfter (by simp) h

end JavaUml.Java
