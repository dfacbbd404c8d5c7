/-
# Array dimensions

Dimensions can be written at the type of a variable and behind its name, and behind the parameters
of a method.  Those at the type are parsed with it, and the others are counted in their text.  Both
come to the same (`dimensions_agree`), where a declaration of several variables stands for as many
declarations of one variable, apart from two things: the brackets in comments and annotations are
counted as well if they stand in the second place (`strayCount`), and a comment between the
modifiers and the type of a parameter can take the place of the type.
-/
import Mathlib
import JavaUml.Proofs.Java.Trees
import JavaUml.Proofs.Java.Tokens
import JavaUml.Proofs.Java.Types

namespace JavaUml.Java

open TypeRef JavaUml.Text

/-! ## Brackets behind a type -/

section Types

variable {blanks brackets more cs : List Char} {m n : ℕ} {s : String} {t : TypeRef}

lemma isBrackets_append (h : IsBrackets brackets m) (hmore : IsBrackets more n) :
    IsBrackets (brackets ++ more) (m + n) := by
  induction h with
  | none => simpa using hmore
  | @pair a b c brackets m ha hb hc _ ih =>
    rw [Nat.add_right_comm]
    simpa using IsBrackets.pair ha hb hc ih

/-- White space in front of brackets belongs to them. -/
lemma isBrackets_blanks_append (h : IsBrackets brackets (n + 1)) (hblanks : IsBlanks blanks) :
    IsBrackets (blanks ++ brackets) (n + 1) := by
  generalize hk : n + 1 = k at h
  cases h with
  | none => cases hk
  | pair ha hb hc hmore =>
    rw [← List.append_assoc]
    exact .pair (hblanks.append ha) hb hc hmore

/-- Brackets can be put behind a class type or a primitive type, which has none or more itself. -/
lemma isType_append_brackets (h : IsType cs t) (hpoints : ¬ "...".toList <:+: cs)
    (hwildcard : t.wildcard = none) (hname : t.name ≠ "?") (hbrackets : IsBrackets brackets n) :
    IsType (cs ++ brackets) (t.addDimensions n) := by
  cases n with
  | zero =>
    cases hbrackets
    rw [List.append_nil]
    cases t
    exact h
  | succ n =>
    cases h with
    | unbounded => exact absurd rfl hname
    | bounded => cases hwildcard
    | @plain a name arguments brackets' ellipsis b ts m k ha hword harguments hfirst hellipsis hb =>
      have hinfix : ellipsis <:+: a ++ (name ++ (arguments ++ (brackets' ++ (ellipsis ++ b)))) :=
        ⟨a ++ (name ++ (arguments ++ brackets')), b, by simp⟩
      obtain ⟨rfl, rfl⟩ := hellipsis.eq_nil fun h => hpoints (h.trans hinfix)
      have hall := isBrackets_append hfirst (isBrackets_blanks_append hbrackets hb)
      have htype := IsType.plain ha hword harguments hall .none isBlanks_nil
      simpa [TypeRef.addDimensions] using htype

lemma typeOfText_of_isChain (h : IsType s.toList t) (hs : s.toList.IsChain Abuts) (n : ℕ) :
    typeOfText s n = t.addDimensions n := by
  have hspelled := h.respace (isChain_collapse (isTight_of_isChain hs)) (tokens_collapse s)
  exact typeOfText_of_parse? (parse?_eq_some_iff.mpr hspelled)

/-- A text that is accepted as a class type or a primitive type, with or without dimensions, and
has no ellipsis. -/
structure Denotes (s : String) (t : TypeRef) : Prop where
  parses : TypeRef.parse? s = some t
  noBound : t.wildcard = none
  noWildcard : t.name ≠ "?"
  noPoints : ¬ "...".toList <:+: s.toList

/-- The brackets that are parsed and those that are counted add up. -/
lemma Denotes.typeOfText_append {brackets : String} (h : Denotes s t)
    (hbrackets : IsBrackets brackets.toList m) (n : ℕ) :
    typeOfText (s ++ brackets) n = t.addDimensions (m + n) := by
  have hs := parse?_eq_some_iff.mp h.parses
  have htype := isType_append_brackets hs h.noPoints h.noBound h.noWildcard hbrackets
  have hchain := ((hs.detached h.noPoints).append hbrackets.detached).isChain
  rw [← String.toList_append] at htype hchain
  rw [typeOfText_of_isChain htype hchain]
  simp [TypeRef.addDimensions, Nat.add_assoc]

/-- It makes no difference in which of the two places dimensions are. -/
lemma Denotes.typeOfText_eq_append {brackets : String} (h : Denotes s t)
    (hbrackets : IsBrackets brackets.toList n) :
    typeOfText s n = typeOfText (s ++ brackets) 0 := by
  have hempty : IsBrackets "".toList 0 := .none
  have hnone := h.typeOfText_append hempty n
  rw [String.append_empty, Nat.zero_add] at hnone
  rw [hnone, h.typeOfText_append hbrackets, Nat.add_zero]

end Types

/-! ## Brackets behind a name -/

section Counting

variable {source : String} {trees dimensions : List JavaTree} {ts : List Token}

/-- Whether a tree is an opening bracket. -/
def isOpening : JavaTree → Bool
  | .leaf t => t.text == "["
  | .node _ _ => false

/-- The number of pairs of brackets in some dimensions. -/
def pairCount (dimensions : List JavaTree) : ℕ := dimensions.countP isOpening

/-- The number of opening brackets in some tokens themselves. -/
def tokenBrackets (ts : List Token) : ℕ := (ts.map fun t => bracketCount t.text).sum

/-- The number of opening brackets in the gaps before some tokens. -/
def gapBrackets (ts : List Token) : ℕ :=
  (ts.map fun t => (t.gap.map fun g => bracketCount g.text).sum).sum

/-- The number of opening brackets in an annotation. -/
def annotationBrackets : JavaTree → ℕ
  | .leaf _ => 0
  | .node _ children => tokenBrackets (Tree.tokensOfAll children)

/-- The number of opening brackets that are counted in some dimensions but stand in a comment or an
annotation there. -/
def strayCount (dimensions : List JavaTree) : ℕ :=
  (dimensions.map annotationBrackets).sum + gapBrackets (Tree.tokensOfAll dimensions).tail

@[simp] lemma bracketCount_append (s s' : String) :
    bracketCount (s ++ s') = bracketCount s + bracketCount s' := by
  simp [bracketCount]

lemma bracketCount_join (ss : List String) :
    bracketCount (String.join ss) = (ss.map bracketCount).sum := by
  induction ss with
  | nil => rfl
  | cons s ss ih => rw [String.join_cons, bracketCount_append, ih, List.map_cons, List.sum_cons]

lemma bracketCount_fullText (t : Token) : bracketCount t.fullText =
    (t.gap.map fun g => bracketCount g.text).sum + bracketCount t.text := by
  rw [Token.fullText, bracketCount_append, bracketCount_join, List.map_map]
  rfl

lemma bracketCount_text (ts : List Token) :
    bracketCount (Fragment.text ts) = tokenBrackets ts + gapBrackets ts.tail := by
  cases ts with
  | nil => rfl
  | cons t ts =>
    have hmore : (ts.map fun t => bracketCount t.fullText).sum =
        tokenBrackets ts + gapBrackets ts := by
      simp only [bracketCount_fullText, List.sum_map_add, tokenBrackets, gapBrackets, Nat.add_comm]
    rw [Fragment.text, bracketCount_append, bracketCount_join, List.map_map]
    simpa [tokenBrackets, Function.comp_def, Nat.add_assoc] using hmore

lemma tokenBrackets_append (ts us : List Token) :
    tokenBrackets (ts ++ us) = tokenBrackets ts + tokenBrackets us := by
  simp [tokenBrackets]

lemma tokenBrackets_of_leaves (h : ∀ t, .leaf t ∈ trees → t.text = "[" ∨ t.text = "]") :
    tokenBrackets (Tree.tokensOfAll trees) =
      pairCount trees + (trees.map annotationBrackets).sum := by
  induction trees with
  | nil => rfl
  | cons tree trees ih =>
    have htail := ih fun t ht => h t (List.mem_cons_of_mem _ ht)
    have hpairs : pairCount (tree :: trees) =
        pairCount trees + if isOpening tree then 1 else 0 := List.countP_cons
    have htree : tokenBrackets tree.tokens =
        (if isOpening tree then 1 else 0) + annotationBrackets tree := by
      cases tree with
      | node r children => simp [Tree.tokens, isOpening, annotationBrackets]
      | leaf t =>
        rcases h t List.mem_cons_self with htext | htext <;>
          simp [Tree.tokens, annotationBrackets, tokenBrackets, isOpening, htext, bracketCount]
    rw [Tree.tokensOfAll, tokenBrackets_append, htail, hpairs, htree, List.map_cons, List.sum_cons]
    omega

/-- What is left of some dimensions without their annotations is pairs of brackets. -/
lemma leaf_of_dimensions (h : InSource source (.node .dimensions dimensions)) {t : Token}
    (ht : .leaf t ∈ dimensions) : t.text = "[" ∨ t.text = "]" := by
  obtain ⟨test, htest, haccepts⟩ := h.gives.exists_test ht
  have htests : test = .symbol "[" ∨ test = .symbol "]" := by
    have hall : ∀ test ∈ (Grammar.body .dimensions).tests,
        test = .symbol "[" ∨ test = .symbol "]" := by decide
    exact hall test htest
  rcases htests with rfl | rfl
  · exact .inl (TokenTest.accepts_symbol_iff.mp haccepts).2
  · exact .inr (TokenTest.accepts_symbol_iff.mp haccepts).2

/-- All the opening brackets in the text of some dimensions are counted. -/
lemma bracketCount_dimensions (h : InSource source (.node .dimensions dimensions)) :
    bracketCount (textOf dimensions) = pairCount dimensions + strayCount dimensions := by
  rw [textOf, bracketCount_text, tokenBrackets_of_leaves fun t ht => leaf_of_dimensions h ht,
    strayCount, Nat.add_assoc]

/-- The number of dimensions that are found behind a name. -/
def writtenDimensions (trees : List JavaTree) : ℕ :=
  pairCount (child .dimensions trees) + strayCount (child .dimensions trees)

lemma bracketCount_childText {r : Rule} (h : InSource source (.node r trees)) :
    bracketCount (childText .dimensions trees) = writtenDimensions trees := by
  rw [childText, writtenDimensions, child]
  cases hchild : child? .dimensions trees with
  | none => rfl
  | some dimensions =>
    exact bracketCount_dimensions (h.of_mem (node_mem_of_child? hchild))

/-- Where dimensions are written without comments and annotations in between, nothing is counted
beside them. -/
lemma strayCount_eq_zero (h : InSource source (.node .dimensions dimensions))
    (hmarks : ∀ children, .node .mark children ∉ dimensions)
    (hgaps : ∀ t ∈ (Tree.tokensOfAll dimensions).tail, ∀ g ∈ t.gap, g.isComment = false) :
    strayCount dimensions = 0 := by
  have hannotations : ∀ tree ∈ dimensions, annotationBrackets tree = 0 := by
    intro tree htree
    cases tree with
    | leaf t => rfl
    | node r children =>
      have hr : r ∈ (Grammar.body .dimensions).rules := h.gives.mem_rules htree
      have hrules : (Grammar.body .dimensions).rules = [.mark, .mark] := rfl
      obtain rfl : r = .mark := by simpa [hrules] using hr
      exact absurd htree (hmarks children)
  obtain ⟨ts, hlex, hsubset⟩ := h.mem_tokens
  have hblanks : ∀ t ∈ (Tree.tokensOfAll dimensions).tail, ∀ g ∈ t.gap,
      bracketCount g.text = 0 := by
    intro t ht g hg
    have hlexed := (isLexed_of_lex hlex t (hsubset (List.mem_of_mem_tail ht))).gap g hg
    have hblank := hgaps t ht g hg
    cases g with
    | comment text => cases hblank
    | blank text =>
      refine List.count_eq_zero.mpr fun hbracket => ?_
      exact absurd (hlexed '[' hbracket) (by decide)
  simp [strayCount, gapBrackets, List.map_congr_left hannotations, List.map_congr_left
    fun t ht => congrArg List.sum (List.map_congr_left (hblanks t ht))]

end Counting

/-! ## Declarations -/

section Declarations

variable {source T : String} {trees children : List JavaTree} {t : TypeRef}

/-- The children of a variable of a field declaration. -/
def declarator? : JavaTree → Option (List JavaTree)
  | .node .variableDeclarator children => some children
  | _ => none

/-- The variables of a field declaration, in order. -/
def declaratorsOf (trees : List JavaTree) : List (List JavaTree) := trees.filterMap declarator?

lemma readDeclarator?_eq (tree : JavaTree) : readDeclarator? tree =
    (declarator? tree).map fun d => ⟨childText .declaredName d, childText .dimensions d⟩ := by
  cases tree with
  | leaf t => rfl
  | node r children => cases r <;> rfl

lemma mem_of_mem_declaratorsOf {d : List JavaTree} (h : d ∈ declaratorsOf trees) :
    .node .variableDeclarator d ∈ trees := by
  obtain ⟨tree, htree, hdeclarator⟩ := List.mem_filterMap.mp h
  unfold declarator? at hdeclarator
  split at hdeclarator
  · cases hdeclarator
    exact htree
  · cases hdeclarator

/-- A declaration of several variables declares what one declaration for each of them does. -/
lemma fields_readField (h : Denotes T t) (hsource : InSource source (.node .fieldDeclaration trees))
    (htype : childText .plainType trees = T) {brackets : List JavaTree → String}
    (hbrackets : ∀ d ∈ declaratorsOf trees, IsBrackets (brackets d).toList (writtenDimensions d)) :
    (readField trees).fields = (declaratorsOf trees).flatMap fun d => FieldSyntax.fields
      ⟨readModifiers trees, T ++ brackets d, [⟨childText .declaredName d, ""⟩]⟩ := by
  have hdeclarators : (readField trees).declarators = (declaratorsOf trees).map fun d =>
      ⟨childText .declaredName d, childText .dimensions d⟩ := by
    rw [readField, declaratorsOf, List.map_filterMap]
    exact List.filterMap_congr fun tree _ => readDeclarator?_eq tree
  simp only [FieldSyntax.fields, hdeclarators, List.map_map, List.map_cons, List.map_nil,
    ← List.map_eq_flatMap]
  refine List.map_congr_left fun d hd => ?_
  have hcount := bracketCount_childText (hsource.of_mem (mem_of_mem_declaratorsOf hd))
  simp only [Function.comp_apply, readField, htype, hcount, Field.mk.injEq, true_and]
  exact h.typeOfText_eq_append (hbrackets d hd)

lemma parameter_single (h : Denotes T t) (hsource : InSource source (.node .parameter children))
    (htype : childText .plainType children = T) (hsymbol : hasSymbol "..." children = false)
    {brackets : String} (hbrackets : IsBrackets brackets.toList (writtenDimensions children)) :
    (readParameter? (.node .parameter children)).map ParameterSyntax.parameter =
      some (ParameterSyntax.single (T ++ brackets) (childText .declaredName children)
        "").parameter := by
  have hcount := bracketCount_childText hsource
  simp only [readParameter?, hsymbol, htype, Option.map_some, ParameterSyntax.parameter, hcount,
    Bool.false_eq_true, if_false, Option.some.injEq, Parameter.mk.injEq, true_and]
  exact h.typeOfText_eq_append hbrackets

/-- The comment that is taken for the type of a parameter that takes any number of arguments. -/
def commentAsType? (children : List JavaTree) : Option String :=
  if (child? .modifiers children).isSome then commentBefore? (child .plainType children) else none

lemma parameter_rest (hsymbol : hasSymbol "..." children = true) :
    (readParameter? (.node .parameter children)).map ParameterSyntax.parameter =
      some ⟨childText .declaredName (child .variableDeclarator children),
        typeOfText ((commentAsType? children).getD (childText .plainType children)) 1⟩ := by
  simp only [readParameter?, hsymbol, if_true, Option.map_some, ParameterSyntax.parameter,
    commentAsType?]

lemma method_readMethod (h : Denotes T t)
    (hsource : InSource source (.node .methodDeclaration trees))
    (htype : childText .plainType trees = T) {brackets : String}
    (hbrackets : IsBrackets brackets.toList (writtenDimensions trees)) :
    (readMethod trees).method =
      { readMethod trees with type := T ++ brackets, dimensions := "" : MethodSyntax }.method := by
  have hcount := bracketCount_childText hsource
  have hreturn : typeOfText (readMethod trees).type (bracketCount (readMethod trees).dimensions) =
      typeOfText (T ++ brackets) (bracketCount "") := by
    rw [readMethod, htype, hcount]
    exact h.typeOfText_eq_append hbrackets
  simp only [MethodSyntax.method, hreturn]

/-- Dimensions count the same at the type and behind a name.  So a declaration of several variables
declares the fields, in order, that one declaration for each of them declares with all dimensions at
the type; with a parameter or a method it is the same; and a parameter that takes any number of
arguments is an array.  Behind a name the brackets in comments and annotations are dimensions too,
and a comment in front of the type of a parameter of the last kind, behind its modifiers, is the
type. -/
theorem dimensions_agree (h : Denotes T t) :
    (∀ source trees, InSource source (.node .fieldDeclaration trees) →
      childText .plainType trees = T → ∀ brackets : List JavaTree → String,
        (∀ d ∈ declaratorsOf trees, IsBrackets (brackets d).toList (writtenDimensions d)) →
        (readField trees).fields = (declaratorsOf trees).flatMap fun d => FieldSyntax.fields
          ⟨readModifiers trees, T ++ brackets d, [⟨childText .declaredName d, ""⟩]⟩) ∧
      (∀ source children, InSource source (.node .parameter children) →
        childText .plainType children = T → hasSymbol "..." children = false →
        ∀ brackets : String, IsBrackets brackets.toList (writtenDimensions children) →
          (readParameter? (.node .parameter children)).map ParameterSyntax.parameter =
            some (ParameterSyntax.single (T ++ brackets) (childText .declaredName children)
              "").parameter) ∧
      (∀ source trees, InSource source (.node .methodDeclaration trees) →
        childText .plainType trees = T →
        ∀ brackets : String, IsBrackets brackets.toList (writtenDimensions trees) →
          (readMethod trees).method = { readMethod trees with
            type := T ++ brackets, dimensions := "" : MethodSyntax }.method) ∧
      (∀ children name, childText .plainType children = T → hasSymbol "..." children = true →
        childText .declaredName (child .variableDeclarator children) = name →
        (commentAsType? children = none → ∀ brackets : String, IsBrackets brackets.toList 1 →
          (readParameter? (.node .parameter children)).map ParameterSyntax.parameter =
            some (ParameterSyntax.single (T ++ brackets) name "").parameter) ∧
          ∀ comment, commentAsType? children = some comment →
            (readParameter? (.node .parameter children)).map ParameterSyntax.parameter =
              some ⟨name, typeOfText comment 1⟩) ∧
      (∀ source dimensions, InSource source (.node .dimensions dimensions) →
        (∀ children, .node .mark children ∉ dimensions) →
        (∀ t ∈ (Tree.tokensOfAll dimensions).tail, ∀ g ∈ t.gap, g.isComment = false) →
        strayCount dimensions = 0) ∧
      ∀ brackets : String, ∀ m n, IsBrackets brackets.toList m →
        typeOfText (T ++ brackets) n = t.addDimensions (m + n) := by
  refine ⟨fun source trees hsource htype brackets => fields_readField h hsource htype,
    fun source children hsource htype hsymbol brackets =>
      parameter_single h hsource htype hsymbol,
    fun source trees hsource htype brackets => method_readMethod h hsource htype,
    fun children name htype hsymbol hname => ⟨fun hnone brackets hbrackets => ?_,
      fun comment hcomment => ?_⟩,
    fun source dimensions => strayCount_eq_zero,
    fun brackets m n hbrackets => h.typeOfText_append hbrackets n⟩
  · rw [parameter_rest hsymbol, htype, hname, hnone, Option.getD_none,
      h.typeOfText_eq_append hbrackets]
    rfl
  · rw [parameter_rest hsymbol, hname, hcomment, Option.getD_some]

/-- The declaration `int a,b[ ];`. -/
def twoVariables : List JavaTree :=
  [.node .plainType [.node .primitiveType [wordLeaf "int"]],
    .node .variableDeclarator [.node .declaredName [.leaf ⟨[.blank " "], .word, "a"⟩]],
    symbolLeaf ",",
    .node .variableDeclarator [.node .declaredName [wordLeaf "b"],
      .node .dimensions [symbolLeaf "[", .leaf ⟨[.blank " "], .symbol, "]"⟩]],
    symbolLeaf ";"]

lemma inSource_twoVariables :
    InSource "class A\x7bint a,b[ ];\x7d" (.node .fieldDeclaration twoVariables) := by
  refine ⟨[⟨[], .word, "class"⟩, ⟨[.blank " "], .word, "A"⟩, ⟨[], .symbol, "\x7b"⟩] ++
    Tree.tokensOfAll twoVariables ++ [⟨[], .symbol, "\x7d"⟩], .node .source [.node .statement
      [.node .classDeclaration [wordLeaf "class",
        .node .declaredName [.leaf ⟨[.blank " "], .word, "A"⟩],
        .node .classBody [symbolLeaf "\x7b", .node .fieldDeclaration twoVariables,
          symbolLeaf "\x7d"]]]], by decide +kernel, by cbv, ?_⟩
  iterate 3 refine .inside List.mem_cons_self ?_
  exact .inside (List.mem_cons_of_mem _ (List.mem_cons_of_mem _ List.mem_cons_self))
    (.among (List.mem_cons_of_mem _ List.mem_cons_self))

/-- Two variables of one declaration, of which the second is an array, and an array of arrays. -/
theorem dimensions_agree_of_two_variables :
    InSource "class A\x7bint a,b[ ];\x7d" (.node .fieldDeclaration twoVariables) ∧
      (readField twoVariables).fields =
        FieldSyntax.fields ⟨[], "int", [⟨"a", ""⟩]⟩ ++
          FieldSyntax.fields ⟨[], "int[]", [⟨"b", ""⟩]⟩ ∧
      typeOfText "int[ ]" 1 = ⟨"int", [], 2, none⟩ := by
  have hint : Denotes "int" (named "int") :=
    ⟨by decide +kernel, rfl, by decide, by decide⟩
  obtain ⟨hfields, -, -, -, -, htype⟩ := dimensions_agree hint
  refine ⟨inSource_twoVariables, ?_, ?_⟩
  · refine (hfields _ _ inSource_twoVariables (by decide)
      (fun d => String.ofList (bracketChars (writtenDimensions d))) fun d _ => ?_).trans ?_
    · simpa using isBrackets_bracketChars (writtenDimensions d)
    · decide +kernel
  · have hbrackets : IsBrackets "[ ]".toList 1 :=
      .pair (a := []) (b := [' ']) (c := []) isBlanks_nil isBlanks_space isBlanks_nil .none
    exact htype "[ ]" 1 1 hbrackets

/-- A comment behind the modifiers is taken for the type of a parameter for the rest. -/
lemma scanSource_of_comment_before_type :
    scanSource "class A\x7bvoid m(final/*c*/int...x);\x7d" = .ok (some [{
      kind := .classType
      name := "A"
      members := [.method ⟨"m", [], .named "void", [⟨"x", ⟨"/*c*/", [], 1, none⟩⟩], []⟩] }]) := by
  cbv

/-- A bracket in a comment is a dimension behind the name, and a comment is the type of a parameter
for the rest.  Brackets on the type give arrays of integers with one dimension. -/
theorem scanSource_of_comments :
    (scanSource "class A\x7bint a[/*[*/];\x7d" = .ok (some [{
        kind := .classType
        name := "A"
        members := [.field ⟨"a", [], ⟨"int", [], 2, none⟩⟩] }]) ∧
      scanSource "class A\x7bint[]a;\x7d" = .ok (some [{
        kind := .classType
        name := "A"
        members := [.field ⟨"a", [], ⟨"int", [], 1, none⟩⟩] }])) ∧
    scanSource "class A\x7bvoid m(final/*c*/int...x);\x7d" = .ok (some [{
        kind := .classType
        name := "A"
        members := [.method ⟨"m", [], .named "void", [⟨"x", ⟨"/*c*/", [], 1, none⟩⟩], []⟩] }]) ∧
      (ParameterSyntax.single "int[]" "x" "").parameter = ⟨"x", ⟨"int", [], 1, none⟩⟩ := by
  refine ⟨⟨?_, ?_⟩, scanSource_of_comment_before_type, ?_⟩
  · cbv
  · cbv
  · decide +kernel

end Declarations

end JavaUml.Java
