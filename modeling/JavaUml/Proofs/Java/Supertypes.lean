/-
# The names of supertypes

Of a class type in a clause with `extends` or `implements` the identifiers in front of the first
type arguments are recorded, with points in between and without white space.  These are all of them
if and only if type arguments stand at its end alone, and in any case they are what a parser of
types would take for the name (`supertypes_recorded`).
-/
import Mathlib
import JavaUml.Proofs.Java.Marks
import JavaUml.Proofs.Java.Trees
import JavaUml.Proofs.Java.Tokens
import JavaUml.Proofs.Java.Types

namespace JavaUml.Java

open TypeRef JavaUml.Text

/-! ## The parts of a class type -/

/-- The identifier that a tree is, if it is one. -/
def identifier? : JavaTree → Option String
  | .leaf t => if t.kind = .word then some t.text else none
  | .node _ _ => none

/-- The identifiers that a class type is made of, in order. -/
def identifiers (parts : List JavaTree) : List String := parts.filterMap identifier?

/-- Whether a tree is a list of type arguments. -/
def isTypeArguments : JavaTree → Bool
  | .node .typeArguments _ => true
  | _ => false

/-- What stands in front of the first type arguments of a class type. -/
def leading (parts : List JavaTree) : List JavaTree :=
  parts.takeWhile fun tree => !isTypeArguments tree

/-- What stands behind that. -/
def trailing (parts : List JavaTree) : List JavaTree :=
  parts.dropWhile fun tree => !isTypeArguments tree

/-- No annotation and no comment stands in a class type. -/
structure IsBare (parts : List JavaTree) : Prop where
  noMark : ∀ children, .node .mark children ∉ parts
  noComment : ∀ t ∈ (Tree.tokensOfAll parts).tail, ∀ g ∈ t.gap, g.isComment = false

/-- What stands behind an identifier of a class type without annotations. -/
inductive FollowsIdentifier : List JavaTree → Prop
  | done : FollowsIdentifier []
  | arguments {children tail : List JavaTree} :
      (Grammar.body .typeArguments).Gives Grammar.body children → FollowsIdentifier tail →
      FollowsIdentifier (.node .typeArguments children :: tail)
  | point {point word : Token} {tail : List JavaTree} :
      (TokenTest.symbol ".").accepts point = true → word.kind = .word →
      FollowsIdentifier tail → FollowsIdentifier (.leaf point :: .leaf word :: tail)

section Shape

variable {source : String} {parts tail : List JavaTree}

lemma FollowsIdentifier.append {front back : List JavaTree} (h : FollowsIdentifier front)
    (hback : FollowsIdentifier back) : FollowsIdentifier (front ++ back) := by
  induction h with
  | done => exact hback
  | arguments hgives _ ih => exact .arguments hgives ih
  | point hpoint hword _ ih => exact .point hpoint hword ih

lemma followsIdentifier_of_arguments {back : List JavaTree}
    (h : (Grammar.opt (.rule .typeArguments)).Gives Grammar.body back) :
    FollowsIdentifier back := by
  rcases Phrase.gives_optional_iff.mp h with hrule | rfl
  · obtain ⟨children, hgives, rfl⟩ := Phrase.gives_rule_iff.mp hrule
    exact .arguments hgives .done
  · exact .done

lemma exists_of_wordExcept {ws : List String}
    (h : (Grammar.wordExcept ws).Gives Grammar.body parts) :
    ∃ t, t.kind = .word ∧ parts = [.leaf t] := by
  simpa [Grammar.wordExcept, Grammar.anyWord] using h

/-- A point is followed by annotations, of which there are none here, and an identifier. -/
lemma followsIdentifier_of_step {ws : List String} {part : List JavaTree}
    (h : (Grammar.seq [Grammar.sym ".", Grammar.annotations, Grammar.wordExcept ws,
      Grammar.opt (.rule .typeArguments)]).Gives Grammar.body part)
    (hmark : ∀ children, .node .mark children ∉ part) : FollowsIdentifier part := by
  simp only [Grammar.seq, Phrase.sequence, Phrase.gives_append_iff] at h
  obtain ⟨_, _, hpoint, ⟨marks, _, hmarks, ⟨word, back, hword, harguments, rfl⟩, rfl⟩, rfl⟩ := h
  obtain ⟨p, hp, rfl⟩ := Phrase.gives_token_iff.mp hpoint
  obtain ⟨t, ht, rfl⟩ := exists_of_wordExcept hword
  have hnone : marks = [] := by
    obtain ⟨each, heach, rfl⟩ := Phrase.gives_many_iff.mp hmarks
    cases each with
    | nil => rfl
    | cons first each =>
      obtain ⟨children, -, rfl⟩ := Phrase.gives_rule_iff.mp (heach first List.mem_cons_self)
      exact absurd (by simp) (hmark children)
  rw [hnone]
  exact .point hp ht (followsIdentifier_of_arguments harguments)

/-- A class type without annotations is an identifier and what follows it. -/
lemma exists_of_classType (h : InSource source (.node .classType parts))
    (hmark : ∀ children, .node .mark children ∉ parts) :
    ∃ t tail, t.kind = .word ∧ parts = .leaf t :: tail ∧ FollowsIdentifier tail := by
  have hgives := h.gives
  simp only [Grammar.body, Grammar.many] at hgives
  rw [Grammar.seq, Phrase.sequence, Phrase.gives_append_iff] at hgives
  obtain ⟨first, _, hfirst, hgives, rfl⟩ := hgives
  rw [Phrase.sequence, Phrase.gives_append_iff] at hgives
  obtain ⟨arguments, _, harguments, hgives, rfl⟩ := hgives
  rw [Phrase.sequence, Phrase.gives_many_iff] at hgives
  obtain ⟨steps, hsteps, rfl⟩ := hgives
  obtain ⟨t, ht, rfl⟩ := exists_of_wordExcept hfirst
  refine ⟨t, _, ht, rfl, (followsIdentifier_of_arguments harguments).append ?_⟩
  have hbare : ∀ step ∈ steps, FollowsIdentifier step := fun step hstep =>
    followsIdentifier_of_step (hsteps step hstep) fun children hmem =>
      hmark children (by simp [List.mem_flatten_of_mem hstep hmem])
  clear hsteps hmark h
  induction steps with
  | nil => exact .done
  | cons step steps ih =>
    rw [List.forall_mem_cons] at hbare
    exact hbare.1.append (ih hbare.2)

end Shape

/-! ## The characters of a name -/

/-- The characters in front of the first bracket, without white space. -/
def nameChars (cs : List Char) : List Char :=
  (cs.takeWhile (· != '<')).filter fun c => !isWhiteSpace c

section Characters

variable {cs ds : List Char} {t : Token} {d : TypeRef}

lemma toList_baseName (text : String) : (baseName text).toList = nameChars text.toList := by
  simp [baseName, squeeze, nameChars]

lemma nameChars_blanks_append (h : ∀ c ∈ cs, isWhiteSpace c = true) :
    nameChars (cs ++ ds) = nameChars ds := by
  induction cs with
  | nil => rfl
  | cons c cs ih =>
    rw [List.forall_mem_cons] at h
    have hne : c ≠ '<' := by
      rintro rfl
      exact absurd h.1 (by decide)
    have ih := ih h.2
    simp only [nameChars] at ih ⊢
    simpa [hne, h.1] using ih

lemma nameChars_run_append (h : ∀ c ∈ cs, isWhiteSpace c = false ∧ c ≠ '<') :
    nameChars (cs ++ ds) = cs ++ nameChars ds := by
  induction cs with
  | nil => rfl
  | cons c cs ih =>
    rw [List.forall_mem_cons] at h
    have ih := ih h.2
    simp only [nameChars] at ih ⊢
    simpa [h.1.1, h.1.2] using ih

lemma nameChars_open (cs : List Char) : nameChars ('<' :: cs) = [] := by
  simp [nameChars]

lemma nameChars_point (cs : List Char) : nameChars ('.' :: cs) = '.' :: nameChars cs := by
  simp [nameChars, isWhiteSpace]

lemma nameChars_eq_nil (h : ∀ c ∈ cs, isWhiteSpace c = true) : nameChars cs = [] := by
  have happend : nameChars (cs ++ []) = nameChars [] := nameChars_blanks_append h
  rwa [List.append_nil] at happend

/-- A parser of types takes for the name what stands in front of the first bracket, unless there are
other parts of a type there. -/
lemma name_of_isType (h : IsType cs d) (hfront : ∀ c ∈ nameChars cs, c ≠ '?' ∧ c ≠ '[')
    (hlast : ∀ c ∈ (nameChars cs).getLast?, c ≠ '.') : d.name.toList = nameChars cs := by
  have hmark : ∀ {blanks back}, IsBlanks blanks → cs ≠ blanks ++ '?' :: back := by
    rintro blanks back hblanks rfl
    rw [nameChars_blanks_append hblanks] at hfront
    exact absurd rfl (hfront '?' (by simp [nameChars, isWhiteSpace])).1
  cases h with
  | unbounded ha _ => exact absurd rfl (hmark ha)
  | bounded ha _ _ _ _ _ => exact absurd rfl (hmark ha)
  | @plain a name arguments brackets ellipsis b ts m n ha hname harguments hbrackets hellipsis hb =>
    have hrun : ∀ c ∈ name, isWhiteSpace c = false ∧ c ≠ '<' := by
      intro c hc
      refine ⟨hname.not_blank c hc, ?_⟩
      rcases hname.forall_mem c hc with hchar | rfl
      · exact (ne_of_isNameChar hchar).2
      · decide
    rw [nameChars_blanks_append ha, nameChars_run_append hrun] at hfront hlast ⊢
    rw [String.toList_ofList]
    cases harguments with
    | some => simp [nameChars_open]
    | none =>
      rw [List.nil_append] at hfront hlast ⊢
      cases hbrackets with
      | pair hblanks _ _ _ =>
        rw [List.append_assoc, nameChars_blanks_append hblanks] at hfront
        exact absurd rfl (hfront '[' (by simp [nameChars, isWhiteSpace])).2
      | none =>
        rw [List.nil_append] at hlast ⊢
        cases hellipsis with
        | none => rw [List.nil_append, nameChars_eq_nil hb, List.append_nil]
        | @points front back hbefore hback =>
          have hblanks : nameChars (back ++ b) = [] := by
            rw [nameChars_blanks_append hback, nameChars_eq_nil hb]
          rw [List.append_assoc, nameChars_blanks_append hbefore] at hlast
          simp only [List.cons_append, nameChars_point, hblanks] at hlast
          exact absurd rfl (hlast '.' (by simp))

end Characters

/-! ## Tokens without comments -/

/-- A token of a source without comments before it. -/
structure IsQuiet (t : Token) : Prop where
  isLexed : t.IsLexed
  noComment : ∀ g ∈ t.gap, g.isComment = false

section Tokens

variable {t : Token} {ts : List Token} {tail parts : List JavaTree} {cs : List Char}

lemma IsQuiet.gap_blank (h : IsQuiet t) :
    ∀ c ∈ (String.join (t.gap.map Trivia.text)).toList, isWhiteSpace c = true := by
  intro c hc
  simp only [String.toList_join, List.mem_flatMap, List.mem_map] at hc
  obtain ⟨_, ⟨g, hg, rfl⟩, hc⟩ := hc
  have hlexed := h.isLexed.gap g hg
  have hcomment := h.noComment g hg
  cases g with
  | comment text => cases hcomment
  | blank text => exact isWhiteSpace_of_isGapChar (hlexed c hc)

lemma IsQuiet.nameChars_fullText (h : IsQuiet t) (cs : List Char) :
    nameChars (t.fullText.toList ++ cs) = nameChars (t.text.toList ++ cs) := by
  rw [Token.fullText, String.toList_append, List.append_assoc, nameChars_blanks_append h.gap_blank]

/-- The characters of an identifier have no meaning in the text of a type. -/
lemma forall_mem_word (h : t.IsLexed) (hkind : t.kind = .word) :
    ∀ c ∈ t.text.toList, isWhiteSpace c = false ∧ c ≠ '<' ∧ c ≠ '?' ∧ c ≠ '[' ∧ c ≠ '.' := by
  intro c hc
  have hchar := (h.holds hkind).2 c hc
  refine ⟨isWhiteSpace_of_isWordChar hchar, ?_, ?_, ?_, ?_⟩ <;>
    · rintro rfl
      exact absurd hchar (by decide)

lemma nameChars_word_append (h : t.IsLexed) (hkind : t.kind = .word) (cs : List Char) :
    nameChars (t.text.toList ++ cs) = t.text.toList ++ nameChars cs :=
  nameChars_run_append fun c hc => ⟨(forall_mem_word h hkind c hc).1,
    (forall_mem_word h hkind c hc).2.1⟩

/-- Behind an identifier, each further one in front of the type arguments comes with a point. -/
lemma FollowsIdentifier.nameChars (h : FollowsIdentifier tail)
    (hquiet : ∀ t ∈ Tree.tokensOfAll tail, IsQuiet t) :
    nameChars (String.join ((Tree.tokensOfAll tail).map Token.fullText)).toList =
      (identifiers (leading tail)).flatMap fun s => '.' :: s.toList := by
  induction h with
  | done => rfl
  | @arguments children tail hgives _ _ =>
    obtain ⟨t, rest, rfl, htext⟩ : ∃ t rest, children = .leaf t :: rest ∧ t.text = "<" := by
      rw [Grammar.body, Grammar.seq, Phrase.sequence, Phrase.gives_append_iff] at hgives
      obtain ⟨front, rest, hopen, -, rfl⟩ := hgives
      obtain ⟨t, ht, rfl⟩ := Phrase.gives_token_iff.mp hopen
      exact ⟨t, rest, rfl, (TokenTest.accepts_symbol_iff.mp ht).2⟩
    rw [Tree.tokensOfAll_node, Tree.tokensOfAll_leaf] at hquiet ⊢
    rw [List.cons_append, List.map_cons, String.join_cons, String.toList_append,
      (hquiet t List.mem_cons_self).nameChars_fullText, htext]
    exact nameChars_open _
  | @point point word tail hpoint hword _ ih =>
    rw [Tree.tokensOfAll_leaf, Tree.tokensOfAll_leaf, List.forall_mem_cons,
      List.forall_mem_cons] at hquiet
    obtain ⟨hquietPoint, hquietWord, hquiet⟩ := hquiet
    obtain ⟨hkind, htext⟩ := TokenTest.accepts_symbol_iff.mp hpoint
    have hleading : identifiers (leading (.leaf point :: .leaf word :: tail)) =
        word.text :: identifiers (leading tail) := by
      simp [leading, isTypeArguments, identifiers, identifier?, hkind, hword]
    have hpointChars : ∀ cs, Java.nameChars (".".toList ++ cs) = '.' :: Java.nameChars cs :=
      nameChars_point
    rw [Tree.tokensOfAll_leaf, Tree.tokensOfAll_leaf, List.map_cons, List.map_cons,
      String.join_cons, String.join_cons, String.toList_append, String.toList_append,
      hquietPoint.nameChars_fullText, htext, hpointChars, hquietWord.nameChars_fullText,
      nameChars_word_append hquietWord.isLexed hword, ih hquiet, hleading, List.flatMap_cons,
      List.cons_append]

lemma intercalate_cons (c : Char) (w : List Char) (ws : List (List Char)) :
    [c].intercalate (w :: ws) = w ++ ws.flatMap fun w => c :: w := by
  induction ws generalizing w with
  | nil => simp
  | cons w' ws ih => rw [List.intercalate_cons_cons, ih, List.flatMap_cons]; simp

/-- The recorded name of a class type. -/
def leadingName (parts : List JavaTree) : String :=
  ".".intercalate (identifiers (leading parts))

lemma toList_leadingName {word : Token} (hword : word.kind = .word) (tail : List JavaTree) :
    (leadingName (.leaf word :: tail)).toList =
      word.text.toList ++ (identifiers (leading tail)).flatMap fun s => '.' :: s.toList := by
  have hleading : identifiers (leading (.leaf word :: tail)) =
      word.text :: identifiers (leading tail) := by
    simp [leading, isTypeArguments, identifiers, identifier?, hword]
  rw [leadingName, hleading, String.toList_intercalate, List.map_cons]
  refine (intercalate_cons '.' _ _).trans ?_
  rw [List.flatMap_map]

end Tokens

/-! ## The name of a class type -/

section Names

variable {source : String} {parts : List JavaTree} {d : TypeRef}

/-- Type arguments stand nowhere but at the end if and only if no identifier is left out. -/
lemma leadingName_eq_iff {t : Token} {tail : List JavaTree} (hparts : parts = .leaf t :: tail)
    (hword : t.kind = .word) :
    leadingName parts = ".".intercalate (identifiers parts) ↔
      identifiers (trailing parts) = [] := by
  have hall : identifiers parts = identifiers (leading parts) ++ identifiers (trailing parts) := by
    rw [identifiers, identifiers, identifiers, ← List.filterMap_append, leading, trailing,
      List.takeWhile_append_dropWhile]
  have hleading : identifiers (leading parts) = t.text :: identifiers (leading tail) := by
    simp [hparts, leading, isTypeArguments, identifiers, identifier?, hword]
  rw [leadingName, hall, hleading, ← String.toList_inj, String.toList_intercalate,
    String.toList_intercalate, List.cons_append, List.map_cons, List.map_cons, List.map_append]
  have hpoint : ".".toList = ['.'] := rfl
  rw [hpoint, intercalate_cons, intercalate_cons, List.flatMap_append, ← List.append_assoc]
  cases identifiers (trailing parts) <;> simp

lemma exists_token_of_mem_identifiers (h : InSource source (.node .classType parts)) {s : String}
    (hs : s ∈ identifiers parts) : ∃ t : Token, t.IsLexed ∧ t.kind = .word ∧ t.text = s := by
  obtain ⟨tree, htree, hidentifier⟩ := List.mem_filterMap.mp hs
  cases tree with
  | node r children => cases hidentifier
  | leaf t =>
    obtain ⟨hkind, htext⟩ : t.kind = .word ∧ t.text = s := by simpa [identifier?] using hidentifier
    obtain ⟨ts, hlex, hsubset⟩ := h.mem_tokens
    have hmem : t ∈ Tree.tokensOfAll parts :=
      Tree.tokens_subset_of_mem htree (by simp [Tree.tokens])
    exact ⟨t, isLexed_of_lex hlex t (hsubset hmem), hkind, htext⟩

/-- Up to the first bracket, the text of a class type is its name, apart from white space. -/
lemma nameChars_textOf (h : InSource source (.node .classType parts)) (hbare : IsBare parts) :
    nameChars (textOf parts).toList = (leadingName parts).toList := by
  obtain ⟨t, tail, hword, rfl, hfollows⟩ := exists_of_classType h hbare.noMark
  obtain ⟨ts, hlex, hsubset⟩ := h.mem_tokens
  rw [Tree.tokensOfAll_leaf] at hsubset
  have hlexed : ∀ u ∈ t :: Tree.tokensOfAll tail, u.IsLexed := fun u hu =>
    isLexed_of_lex hlex u (hsubset hu)
  have hquiet : ∀ u ∈ Tree.tokensOfAll tail, IsQuiet u := fun u hu =>
    ⟨hlexed u (List.mem_cons_of_mem _ hu), hbare.noComment u hu⟩
  rw [textOf, Tree.tokensOfAll_leaf, Fragment.text, String.toList_append,
    nameChars_word_append (hlexed t List.mem_cons_self) hword, hfollows.nameChars hquiet,
    toList_leadingName hword]

lemma baseName_textOf (h : InSource source (.node .classType parts)) (hbare : IsBare parts) :
    baseName (textOf parts) = leadingName parts := by
  rw [← String.toList_inj, toList_baseName, nameChars_textOf h hbare]

lemma forall_mem_intercalate {ws : List (List Char)} {P : Char → Prop} (hpoint : P '.')
    (h : ∀ w ∈ ws, ∀ c ∈ w, P c) : ∀ c ∈ ['.'].intercalate ws, P c := by
  cases ws with
  | nil => exact nofun
  | cons w ws =>
    rw [List.forall_mem_cons] at h
    rw [intercalate_cons, List.forall_mem_append]
    refine ⟨h.1, fun c hc => ?_⟩
    obtain ⟨w', hw', hc⟩ := List.mem_flatMap.mp hc
    rcases List.mem_cons.mp hc with rfl | hc
    · exact hpoint
    · exact h.2 w' hw' c hc

lemma getLast?_intercalate {ws : List (List Char)} (h : ∀ w ∈ ws, w ≠ [] ∧ '.' ∉ w) :
    ∀ c ∈ (['.'].intercalate ws).getLast?, c ≠ '.' := by
  induction ws with
  | nil => exact nofun
  | cons w ws ih =>
    rw [List.forall_mem_cons] at h
    cases ws with
    | nil =>
      rintro c hc rfl
      exact h.1.2 (List.mem_of_getLast? (by simpa using hc))
    | cons w' ws =>
      have hne : ['.'].intercalate (w' :: ws) ≠ [] := by
        rw [intercalate_cons]
        exact List.append_ne_nil_of_left_ne_nil (h.2 w' List.mem_cons_self).1 _
      rw [List.intercalate_cons_cons, List.getLast?_append_of_ne_nil _ hne]
      exact ih h.2

/-- Whenever the text of a class type can be parsed, the parser finds the same name. -/
lemma name_of_parse? (h : InSource source (.node .classType parts)) (hbare : IsBare parts)
    (hparse : TypeRef.parse? (textOf parts) = some d) : d.name = leadingName parts := by
  have hwords : ∀ w ∈ (identifiers (leading parts)).map String.toList, w ≠ [] ∧
      ∀ c ∈ w, isWhiteSpace c = false ∧ c ≠ '<' ∧ c ≠ '?' ∧ c ≠ '[' ∧ c ≠ '.' := by
    intro w hw
    obtain ⟨s, hs, rfl⟩ := List.mem_map.mp hw
    have hsub : (leading parts).Sublist parts := List.takeWhile_sublist _
    obtain ⟨t, hlexed, hkind, rfl⟩ :=
      exists_token_of_mem_identifiers h ((hsub.filterMap identifier?).mem hs)
    refine ⟨?_, forall_mem_word hlexed hkind⟩
    simpa using (hlexed.holds hkind).1
  have hname := name_of_isType (parse?_eq_some_iff.mp hparse)
  rw [nameChars_textOf h hbare, leadingName, String.toList_intercalate] at hname
  rw [← String.toList_inj, leadingName, String.toList_intercalate]
  refine hname ?_ ?_
  · exact forall_mem_intercalate (by decide) fun w hw c hc =>
      ⟨((hwords w hw).2 c hc).2.2.1, ((hwords w hw).2 c hc).2.2.2.1⟩
  · exact getLast?_intercalate fun w hw => ⟨(hwords w hw).1, fun hpoint =>
      ((hwords w hw).2 '.' hpoint).2.2.2.2 rfl⟩

end Names

/-! ## Clauses -/

section Clauses

variable {source : String} {r : Rule} {children : List JavaTree} {c : ClassifierSyntax}
  {d : Declaration}

/-- The name that is recorded for a listed type, if there is one. -/
def recordedName? (tree : JavaTree) : Option String :=
  (readSupertype? tree).bind SupertypeSyntax.name?

/-- The clause with the types that a class or interface extends. -/
def parentClause : ClassifierKind → Rule
  | .classType => .superclass
  | .interfaceType => .parentInterfaces

lemma names_readSupertypes (trees : List JavaTree) :
    (readSupertypes r trees).filterMap SupertypeSyntax.name? =
      (nodes (child r trees)).filterMap recordedName? := by
  rw [readSupertypes, List.filterMap_filterMap, nodes, List.filterMap_filter]
  refine List.filterMap_congr fun tree _ => ?_
  cases tree <;> rfl

/-- The types that a class or interface extends and implements are those of its clauses, where an
interface has no clause of the second sort. -/
lemma clauses_of_readClassifier? (h : InSource source (.node r children))
    (hc : readClassifier? (.node r children) = some c) :
    c.parents = readSupertypes (parentClause c.kind) children ∧
      c.interfaces = readSupertypes .superInterfaces children := by
  unfold readClassifier? at hc
  split at hc
  · next heq =>
    cases heq
    cases hc
    exact ⟨rfl, rfl⟩
  · next heq =>
    cases heq
    cases hc
    refine ⟨rfl, ?_⟩
    have hnone : child? .superInterfaces children = none := by
      rw [Option.eq_none_iff_forall_ne_some]
      intro clause hclause
      exact absurd (h.gives.mem_rules (node_mem_of_child? hclause)) (by decide)
    have hempty : readSupertypes .superInterfaces children = [] := by
      rw [readSupertypes, child, hnone]
      rfl
    exact hempty.symm
  · cases hc

lemma mem_of_mem_child {tree : JavaTree} (htree : tree ∈ child r children) :
    ∃ clause, .node r clause ∈ children ∧ tree ∈ clause := by
  rw [child] at htree
  cases hchild : child? r children with
  | none =>
    rw [hchild] at htree
    cases htree
  | some clause =>
    rw [hchild] at htree
    exact ⟨clause, node_mem_of_child? hchild, htree⟩

lemma parents_of_declaration (h : c.declaration = .ok d) :
    d.parents = c.parents.filterMap SupertypeSyntax.name? ∧
      d.interfaces = c.interfaces.filterMap SupertypeSyntax.name? := by
  obtain ⟨members, -, rfl⟩ := exists_of_declaration h
  exact ⟨rfl, rfl⟩

/-- The names that a class or interface extends and implements are those that are recorded for the
types of the clauses, in order.  A class type without annotations and comments has one, and this is
made of the identifiers in front of the first type arguments, so that none is left out if and only
if type arguments stand at the end alone.  It is also what a parser finds that accepts the type. -/
theorem supertypes_recorded (h : InSource source (.node r children))
    (hc : readClassifier? (.node r children) = some c) (hd : c.declaration = .ok d) :
    d.parents = (nodes (child (parentClause c.kind) children)).filterMap recordedName? ∧
      d.interfaces = (nodes (child .superInterfaces children)).filterMap recordedName? ∧
      ∀ clause ∈ [parentClause c.kind, .superInterfaces], ∀ parts,
        .node .plainType [.node .classType parts] ∈ nodes (child clause children) →
        IsBare parts →
        recordedName? (.node .plainType [.node .classType parts]) =
            some (".".intercalate (identifiers (leading parts))) ∧
          (recordedName? (.node .plainType [.node .classType parts]) =
              some (".".intercalate (identifiers parts)) ↔ identifiers (trailing parts) = []) ∧
          ∀ t, TypeRef.parse? (textOf parts) = some t →
            recordedName? (.node .plainType [.node .classType parts]) = some t.name := by
  obtain ⟨hparents, hinterfaces⟩ := parents_of_declaration hd
  obtain ⟨hextends, himplements⟩ := clauses_of_readClassifier? h hc
  refine ⟨?_, ?_, fun clause _ parts hmem hbare => ?_⟩
  · rw [hparents, hextends, names_readSupertypes]
  · rw [hinterfaces, himplements, names_readSupertypes]
  · obtain ⟨trees, hclause, htree⟩ := mem_of_mem_child (List.mem_of_mem_filter hmem)
    have htype : InSource source (.node .classType parts) :=
      ((h.of_mem hclause).of_mem htree).of_mem List.mem_cons_self
    obtain ⟨t, tail, hword, hparts, -⟩ := exists_of_classType htype hbare.noMark
    have hname : recordedName? (.node .plainType [.node .classType parts]) =
        some (leadingName parts) := congrArg some (baseName_textOf htype hbare)
    rw [hname]
    refine ⟨rfl, ?_, fun t ht => congrArg some (name_of_parse? htype hbare ht).symm⟩
    rw [Option.some.injEq]
    exact leadingName_eq_iff hparts hword

/-- The children of a class declaration `class A extends B{}`, where `B` has some parts. -/
def classExtending (parts : List JavaTree) : List JavaTree :=
  [wordLeaf "class", .node .declaredName [.leaf ⟨[.blank " "], .word, "A"⟩],
    .node .superclass [.leaf ⟨[.blank " "], .word, "extends"⟩,
      .node .plainType [.node .classType parts]],
    .node .classBody [symbolLeaf "\x7b", symbolLeaf "\x7d"]]

/-- The type arguments `<C>`. -/
def oneArgument : JavaTree :=
  .node .typeArguments [symbolLeaf "<",
    .node .plainType [.node .classType [wordLeaf "C"]], symbolLeaf ">"]

lemma inSource_classExtending {parts : List JavaTree}
    (hlex : lex source = some (Tree.tokensOfAll (classExtending parts)))
    (hparse : Grammar.parse? (Tree.tokensOfAll (classExtending parts)) =
      some (.node .source [.node .statement [.node .classDeclaration (classExtending parts)]])) :
    InSource source (.node .classDeclaration (classExtending parts)) :=
  ⟨_, _, hlex, hparse, .inside List.mem_cons_self (.inside List.mem_cons_self
    (.among List.mem_cons_self))⟩

/-- White space beside a point, and type arguments at the end. -/
theorem supertypes_recorded_of_space :
    let parts : List JavaTree := [.leaf ⟨[.blank " "], .word, "a"⟩, symbolLeaf ".",
      .leaf ⟨[.blank " "], .word, "B"⟩, oneArgument]
    InSource "class A extends a. B<C>\x7b\x7d" (.node .classDeclaration (classExtending parts)) ∧
      IsBare parts ∧
      recordedName? (.node .plainType [.node .classType parts]) = some "a.B" := by
  intro parts
  have hsource : InSource "class A extends a. B<C>\x7b\x7d"
      (.node .classDeclaration (classExtending parts)) :=
    inSource_classExtending (by decide +kernel) (by cbv)
  have hbare : IsBare parts := ⟨by simp [parts, oneArgument, wordLeaf, symbolLeaf], by decide⟩
  obtain ⟨-, -, hnames⟩ := supertypes_recorded hsource rfl rfl
  have hlisted : .node .plainType [.node .classType parts] ∈
      nodes (child .superclass (classExtending parts)) := List.mem_cons_self
  exact ⟨hsource, hbare, (hnames .superclass List.mem_cons_self parts hlisted hbare).1⟩

/-- A member of a class with type arguments is recorded without its own name. -/
theorem scanSource_of_member_type :
    let parts : List JavaTree := [.leaf ⟨[.blank " "], .word, "B"⟩, oneArgument,
      symbolLeaf ".", wordLeaf "D"]
    InSource "class A extends B<C>.D\x7b\x7d" (.node .classDeclaration (classExtending parts)) ∧
      IsBare parts ∧ identifiers parts = ["B", "D"] ∧
      scanSource "class A extends B<C>.D\x7b\x7d" =
        .ok (some [{ kind := .classType, name := "A", parents := ["B"] }]) := by
  intro parts
  have hlex : lex "class A extends B<C>.D\x7b\x7d" =
      some (Tree.tokensOfAll (classExtending parts)) := by decide +kernel
  have hparse : Grammar.parse? (Tree.tokensOfAll (classExtending parts)) =
      some (.node .source [.node .statement [.node .classDeclaration (classExtending parts)]]) := by
    cbv
  have hbare : IsBare parts := ⟨by simp [parts, oneArgument, wordLeaf, symbolLeaf], by decide⟩
  refine ⟨inSource_classExtending hlex hparse, hbare, rfl, ?_⟩
  rw [scanSource, readSource?, hlex, Option.bind_eq_bind, Option.bind_some, hparse]
  decide +kernel

end Clauses

end JavaUml.Java
