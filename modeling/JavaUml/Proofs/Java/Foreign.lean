/-
# Texts that are no sources

The text of a document begins with a brace, a string and a colon.  In Java there may be many things
behind a brace and a string, but no colon, so that the text is not a source
(`Document.readSource?_text`).
-/
import JavaUml.Document.Json
import JavaUml.Java.Syntax
import JavaUml.Proofs.Java.Glimpse
import JavaUml.Proofs.Java.Tokens

namespace JavaUml.Java

/-! ## Tokens -/

section Tokens

variable {gap : List Trivia} {cs rest : List Char}

/-- A source without its first token. -/
lemma tokensAfter_of_token {kind : TokenKind} {text : String}
    (h : readPiece cs = some (.token kind text, rest)) (hlt : rest.length < cs.length) :
    tokensAfter gap cs = (tokensAfter [] rest).map (⟨gap, kind, text⟩ :: ·) := by
  have hne : ¬cs.isEmpty = true :=
    List.isEmpty_iff.not.mpr (List.ne_nil_of_length_pos (Nat.zero_lt_of_lt hlt))
  rw [tokensAfter, if_neg hne, h]
  exact if_pos hlt

/-- A source without a gap at its beginning. -/
lemma tokensAfter_of_gap {t : Trivia} (h : readPiece cs = some (.gap t, rest))
    (hlt : rest.length < cs.length) : tokensAfter gap cs = tokensAfter (gap ++ [t]) rest := by
  have hne : ¬cs.isEmpty = true :=
    List.isEmpty_iff.not.mpr (List.ne_nil_of_length_pos (Nat.zero_lt_of_lt hlt))
  rw [tokensAfter, if_neg hne, h]
  exact if_pos hlt

lemma readPiece_brace (cs : List Char) :
    readPiece ('\x7b' :: cs) = some (.token .symbol "\x7b", cs) := by
  have hpiece : readPiece ('\x7b' :: cs) =
      some (.token .symbol (consumed (['\x7b'] ++ cs) cs), cs) := rfl
  rw [hpiece, consumed_append]

/-- A colon that does not stand in front of another one. -/
lemma readPiece_colon {c : Char} (h : c = '"' ∨ c = ' ') (cs : List Char) :
    readPiece (':' :: c :: cs) = some (.token .symbol ":", c :: cs) := by
  have hpiece : readPiece (':' :: c :: cs) =
      some (.token .symbol (consumed ([':'] ++ c :: cs) (c :: cs)), c :: cs) := by
    rcases h with rfl | rfl <;> rfl
  rw [hpiece, consumed_append]

lemma readPiece_indentation (cs : List Char) :
    readPiece ('\n' :: ' ' :: ' ' :: '"' :: cs) = some (.gap (.blank "\n  "), '"' :: cs) := by
  have hpiece : readPiece ('\n' :: ' ' :: ' ' :: '"' :: cs) =
      some (.gap (.blank (consumed (['\n', ' ', ' '] ++ '"' :: cs) ('"' :: cs))), '"' :: cs) := rfl
  rw [hpiece, consumed_append]

lemma readPiece_key (cs : List Char) :
    readPiece ("\"_type\"".toList ++ cs) = some (.token .string "\"_type\"", cs) := by
  have hstring : stringRest ("_type\"".toList ++ cs) = some cs := by
    simp [stringRest]
  have hchain : Recognizer.chain [Recognizer.exactly ['"'], stringRest]
      ("\"_type\"".toList ++ cs) = some cs := by
    have hopen : Recognizer.exactly ['"'] ("\"_type\"".toList ++ cs) =
        some ("_type\"".toList ++ cs) := rfl
    simp only [Recognizer.chain, hopen, Option.bind_eq_bind, Option.bind_some, hstring]
  -- what is tried before a string does not fit
  have hpieces : pieces = pieces.take 5 ++
      (.token .string, Recognizer.chain [Recognizer.exactly ['"'], stringRest]) :: pieces.drop 6 :=
    rfl
  rw [readPiece, hpieces, List.findSome?_append, List.findSome?_cons]
  simp only [hchain, Option.map_some, consumed_append]
  rfl

end Tokens

/-! ## No source -/

/-- The first tokens of an object with a type, where there may be a gap behind the brace. -/
def objectBeginning (gap : List Trivia) : List Token :=
  [⟨[], .symbol, "\x7b"⟩, ⟨gap, .string, "\"_type\""⟩, ⟨[], .symbol, ":"⟩]

/-- Behind a brace and a string there is no colon in a source. -/
lemma glimpse_source : ∀ gap ∈ [[], [Trivia.blank "\n  "]],
    (Phrase.rule Rule.source).glimpse Grammar.body 100 (objectBeginning gap) =
      .leaves (objectBeginning gap) := by
  decide +kernel

lemma parse?_eq_none {gap : List Trivia} (h : gap ∈ [[], [Trivia.blank "\n  "]]) (ts : List Token) :
    Grammar.parse? (objectBeginning gap ++ ts) = none := by
  have hmatches : Phrase.Matches Grammar.body
      (((objectBeginning gap ++ ts).length + 1) * Grammar.ruleCount) _ _ _ :=
    Phrase.matches_glimpse Grammar.body 100 (.rule Rule.source) (objectBeginning gap) (by
      rw [Grammar.ruleCount, List.length_append, objectBeginning]
      simp only [List.length_cons]
      omega)
  rw [glimpse_source gap h] at hmatches
  obtain ⟨trees, ht⟩ := hmatches ts
  -- the brace is left
  rw [Grammar.parse?, ht]
  split
  · next h => simp [objectBeginning] at h
  · rfl

/-- The first token of a source with a brace. -/
lemma tokensAfter_brace (cs : List Char) : tokensAfter [] ('\x7b' :: cs) =
    (tokensAfter [] cs).map (⟨[], .symbol, "\x7b"⟩ :: ·) :=
  tokensAfter_of_token (readPiece_brace cs) (by simp)

/-- A new line with an indentation is a gap. -/
lemma tokensAfter_indentation (cs : List Char) :
    tokensAfter [] ('\n' :: ' ' :: ' ' :: '"' :: cs) =
      tokensAfter [.blank "\n  "] ('"' :: cs) :=
  tokensAfter_of_gap (readPiece_indentation cs) (by simp)

/-- The next tokens, if a key and a colon follow. -/
lemma tokensAfter_key (gap : List Trivia) {c : Char} (h : c = '"' ∨ c = ' ') (cs : List Char) :
    tokensAfter gap ("\"_type\"".toList ++ ':' :: c :: cs) =
      (tokensAfter [] (c :: cs)).map ((objectBeginning gap).tail ++ ·) := by
  rw [tokensAfter_of_token (readPiece_key _) (by simp),
    tokensAfter_of_token (readPiece_colon h cs) (by simp), Option.map_map]
  rfl

/-- A text that begins like an object with a type is no source, whatever follows. -/
lemma readSource?_eq_none {source : String} {gap : List Trivia} {c : Char} {cs rest : List Char}
    (hgap : gap ∈ [[], [Trivia.blank "\n  "]]) (hc : c = '"' ∨ c = ' ')
    (hsource : source.toList = '\x7b' :: rest)
    (hrest : tokensAfter [] rest = tokensAfter gap ("\"_type\"".toList ++ ':' :: c :: cs)) :
    readSource? source = none := by
  have hlex : lex source = (tokensAfter [] (c :: cs)).map (objectBeginning gap ++ ·) := by
    have hmark : dropMark ('\x7b' :: rest) = '\x7b' :: rest := rfl
    rw [lex, hsource, hmark, tokensAfter_brace, hrest, tokensAfter_key gap hc, Option.map_map]
    rfl
  rw [readSource?, hlex]
  cases tokensAfter [] (c :: cs) with
  | none => rfl
  | some ts =>
    have hnone := parse?_eq_none hgap ts
    simp [hnone]

end JavaUml.Java

namespace JavaUml.Document

/-- A document is an object that begins with the type of its root. -/
lemma exists_toJson_eq (doc : Document) : ∃ tag id members, doc.toJson =
    .object (("_type", .string tag) :: ("_id", .string id) :: members) := by
  rw [toJson]
  cases doc.size <;> exact ⟨_, _, _, rfl⟩

/-- The text of a document is no source in Java. -/
lemma readSource?_text (doc : Document) (indented : Bool) :
    Java.readSource? (doc.text indented) = none := by
  obtain ⟨tag, id, members, hdoc⟩ := doc.exists_toJson_eq
  have hkey : Json.stringChars "_type" = "\"_type\"".toList := by decide
  cases indented with
  | false =>
    have htext : (doc.text false).toList = '\x7b' :: ("\"_type\"".toList ++ ':' :: '"' ::
        (tag.toList.flatMap Json.escapeChar ++ '"' :: ',' ::
          (Json.compactMembers (("_id", .string id) :: members) ++ ['\x7d']))) := by
      rw [text, if_neg Bool.false_ne_true, Json.compact, String.toList_ofList, hdoc, ← hkey]
      simp only [Json.compactChars, Json.compactMembers, Json.stringChars, List.cons_append,
        List.append_assoc, List.nil_append]
    exact Java.readSource?_eq_none (by simp) (.inl rfl) htext rfl
  | true =>
    have htext : (doc.text true).toList = '\x7b' :: '\n' :: ' ' :: ' ' ::
        ("\"_type\"".toList ++ ':' :: ' ' :: (Json.stringChars tag ++ ',' ::
          (Json.prettyMembers 1 (("_id", .string id) :: members) ++ ['\n', '\x7d']))) := by
      rw [text, if_pos rfl, Json.pretty, String.toList_ofList, hdoc, ← hkey]
      simp only [Json.prettyChars, Json.prettyMembers, Json.newLine, List.replicate,
        List.cons_append, List.append_assoc, List.nil_append]
    exact Java.readSource?_eq_none (by simp) (.inr rfl) htext (Java.tokensAfter_indentation _)

end JavaUml.Document
