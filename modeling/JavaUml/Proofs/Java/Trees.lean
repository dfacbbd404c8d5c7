/-
# The trees of a source

Whatever alternatives a match has tried, the trees that it returns are put together as the phrase
says (`Phrase.Gives`), and their tokens are those that it has used up (`Phrase.gives_of_match?`).
So every node in the tree of a source, however deep, has the children that the grammar gives to its
rule (`InSource.gives`), and the tokens in it are tokens of the source (`InSource.mem_tokens`).
-/
import JavaUml.Java.Syntax
import Mathlib.Tactic.Common

namespace JavaUml.Java

/-! ## Tests -/

namespace TokenTest

variable {t : Token} {s : String} {k : TokenKind}

@[simp] lemma accepts_symbol_iff :
    (symbol s).accepts t = true ↔ t.kind = .symbol ∧ t.text = s := by
  simp [accepts]

@[simp] lemma accepts_kind_iff : (kind k).accepts t = true ↔ t.kind = k := by
  simp [accepts]

end TokenTest

/-! ## What a phrase gives -/

/-- The trees that a phrase gives, by whichever of its alternatives. -/
inductive Phrase.Gives {ρ : Type} (body : ρ → Phrase ρ) : Phrase ρ → List (Tree ρ) → Prop
  | empty : Gives body .empty []
  | token {test : TokenTest} {t : Token} : test.accepts t = true →
      Gives body (.token test) [.leaf t]
  | passed {words : List String} : Gives body (.unless words) []
  | rule {r : ρ} {children : List (Tree ρ)} : Gives body (body r) children →
      Gives body (.rule r) [.node r children]
  | append {p q : Phrase ρ} {front back : List (Tree ρ)} : Gives body p front →
      Gives body q back → Gives body (.append p q) (front ++ back)
  | first {p q : Phrase ρ} {trees : List (Tree ρ)} : Gives body p trees →
      Gives body (.orElse p q) trees
  | second {p q : Phrase ρ} {trees : List (Tree ρ)} : Gives body q trees →
      Gives body (.orElse p q) trees
  | done {p : Phrase ρ} : Gives body (.many p) []
  | again {p : Phrase ρ} {front back : List (Tree ρ)} : Gives body p front →
      Gives body (.many p) back → Gives body (.many p) (front ++ back)

/-- A tree that stands among some trees or somewhere below them. -/
inductive Tree.StandsIn {ρ : Type} (tree : Tree ρ) : List (Tree ρ) → Prop
  | among {trees : List (Tree ρ)} : tree ∈ trees → StandsIn tree trees
  | inside {r : ρ} {children trees : List (Tree ρ)} : .node r children ∈ trees →
      StandsIn tree children → StandsIn tree trees

namespace Tree

variable {ρ : Type} {r : ρ} {tree : Tree ρ} {children trees : List (Tree ρ)}

@[simp] lemma tokensOfAll_nil : tokensOfAll ([] : List (Tree ρ)) = [] := rfl

@[simp] lemma tokensOfAll_leaf (t : Token) (trees : List (Tree ρ)) :
    tokensOfAll (.leaf t :: trees) = t :: tokensOfAll trees := rfl

@[simp] lemma tokensOfAll_node (r : ρ) (children trees : List (Tree ρ)) :
    tokensOfAll (.node r children :: trees) = tokensOfAll children ++ tokensOfAll trees := rfl

@[simp] lemma tokensOfAll_append (front back : List (Tree ρ)) :
    tokensOfAll (front ++ back) = tokensOfAll front ++ tokensOfAll back := by
  induction front with
  | nil => rfl
  | cons tree front ih => rw [List.cons_append, tokensOfAll, tokensOfAll, ih, List.append_assoc]

lemma tokens_subset_of_mem (h : tree ∈ trees) : tree.tokens ⊆ tokensOfAll trees := by
  obtain ⟨front, back, rfl⟩ := List.append_of_mem h
  rw [tokensOfAll_append, tokensOfAll]
  exact List.subset_append_of_subset_right _ (List.subset_append_left _ _)

lemma StandsIn.tokens_subset (h : tree.StandsIn trees) : tree.tokens ⊆ tokensOfAll trees := by
  induction h with
  | among h => exact tokens_subset_of_mem h
  | inside h _ ih => exact List.Subset.trans ih (tokens_subset_of_mem h)

lemma not_standsIn_nil : ¬ tree.StandsIn [] := by
  rintro (h | ⟨h, -⟩) <;> cases h

lemma not_standsIn_leaf {t : Token} : ¬ (Tree.node r children).StandsIn [.leaf t] := by
  rintro (h | ⟨h, -⟩) <;> simp at h

lemma standsIn_append_iff {front back : List (Tree ρ)} :
    tree.StandsIn (front ++ back) ↔ tree.StandsIn front ∨ tree.StandsIn back := by
  constructor
  · rintro (h | ⟨h, hbelow⟩)
    · exact (List.mem_append.mp h).imp .among .among
    · exact (List.mem_append.mp h).imp (.inside · hbelow) (.inside · hbelow)
  · rintro ((h | ⟨h, hbelow⟩) | (h | ⟨h, hbelow⟩))
    · exact .among (List.mem_append_left _ h)
    · exact .inside (List.mem_append_left _ h) hbelow
    · exact .among (List.mem_append_right _ h)
    · exact .inside (List.mem_append_right _ h) hbelow

lemma standsIn_node_iff :
    tree.StandsIn [.node r children] ↔ tree = .node r children ∨ tree.StandsIn children := by
  constructor
  · rintro (h | ⟨h, hbelow⟩)
    · exact .inl (List.mem_singleton.mp h)
    · cases List.mem_singleton.mp h
      exact .inr hbelow
  · rintro (rfl | hbelow)
    · exact .among List.mem_cons_self
    · exact .inside List.mem_cons_self hbelow

/-- What stands in a tree stands in whatever the tree stands in. -/
lemma StandsIn.trans (h : (Tree.node r children).StandsIn trees) (htree : tree.StandsIn children) :
    tree.StandsIn trees := by
  induction h with
  | among h => exact .inside h htree
  | inside h _ ih => exact .inside h ih

end Tree

namespace Phrase

variable {ρ : Type} {body : ρ → Phrase ρ} {levels : ℕ} {p q : Phrase ρ} {r : ρ}
  {ts rest : List Token} {trees children : List (Tree ρ)}

/-- The trees of a match are given by its phrase, and hold the tokens in front of what is left. -/
theorem gives_of_match? (h : p.match? body levels ts = some (trees, rest)) :
    p.Gives body trees ∧ ts = Tree.tokensOfAll trees ++ rest := by
  fun_induction match? body levels p ts generalizing trees rest with
  | case1 =>
    cases h
    exact ⟨.empty, rfl⟩
  | case2 _ _ _ _ haccepts =>
    cases h
    exact ⟨.token haccepts, rfl⟩
  | case6 =>
    cases h
    exact ⟨.passed, rfl⟩
  | case7 =>
    cases h
    exact ⟨.passed, rfl⟩
  | case9 _ _ _ _ _ hbody ih =>
    cases h
    obtain ⟨hgives, rfl⟩ := ih hbody
    exact ⟨.rule hgives, by simp⟩
  | case11 _ _ _ _ _ _ hp _ _ hq ihp ihq =>
    cases h
    obtain ⟨hfront, rfl⟩ := ihp hp
    obtain ⟨hback, rfl⟩ := ihq hq
    exact ⟨.append hfront hback, by simp⟩
  | case14 _ _ _ _ _ hp ihp =>
    cases h
    obtain ⟨hgives, hts⟩ := ihp hp
    exact ⟨.first hgives, hts⟩
  | case15 _ _ _ _ _ _ ihq =>
    obtain ⟨hgives, hts⟩ := ihq h
    exact ⟨.second hgives, hts⟩
  | case16 _ _ _ _ _ hp _ _ _ hmany ihp ihmany =>
    cases h
    obtain ⟨hfront, rfl⟩ := ihp hp
    obtain ⟨hback, rfl⟩ := ihmany hmany
    exact ⟨.again hfront hback, by simp⟩
  | case18 =>
    cases h
    exact ⟨.done, rfl⟩
  | case19 =>
    cases h
    exact ⟨.done, rfl⟩
  | _ => cases h

/-- Every node in what a phrase gives has children that its rule gives. -/
lemma Gives.of_standsIn (h : p.Gives body trees)
    (hr : (Tree.node r children).StandsIn trees) : (body r).Gives body children := by
  induction h with
  | empty => exact absurd hr Tree.not_standsIn_nil
  | token => exact absurd hr Tree.not_standsIn_leaf
  | passed => exact absurd hr Tree.not_standsIn_nil
  | rule hbody ih =>
    rcases Tree.standsIn_node_iff.mp hr with heq | hbelow
    · cases heq
      exact hbody
    · exact ih hbelow
  | append _ _ ihp ihq => exact (Tree.standsIn_append_iff.mp hr).elim ihp ihq
  | first _ ih => exact ih hr
  | second _ ih => exact ih hr
  | done => exact absurd hr Tree.not_standsIn_nil
  | again _ _ ihp ihmany => exact (Tree.standsIn_append_iff.mp hr).elim ihp ihmany

/-- The tests of the tokens in a phrase, apart from those that its rules have. -/
def tests : Phrase ρ → List TokenTest
  | .token test => [test]
  | .append p q => p.tests ++ q.tests
  | .orElse p q => p.tests ++ q.tests
  | .many p => p.tests
  | .empty | .unless _ | .rule _ => []

/-- The rules in a phrase, apart from those that they have themselves. -/
def rules : Phrase ρ → List ρ
  | .rule r => [r]
  | .append p q => p.rules ++ q.rules
  | .orElse p q => p.rules ++ q.rules
  | .many p => p.rules
  | .empty | .unless _ | .token _ => []

/-- Every leaf that a phrase gives passes one of its tests. -/
lemma Gives.exists_test (h : p.Gives body trees) {t : Token} (ht : .leaf t ∈ trees) :
    ∃ test ∈ p.tests, test.accepts t = true := by
  induction h with
  | empty => cases ht
  | token haccepts =>
    cases List.mem_singleton.mp ht
    exact ⟨_, List.mem_cons_self, haccepts⟩
  | passed => cases ht
  | rule => cases List.mem_singleton.mp ht
  | append _ _ ihp ihq =>
    rcases List.mem_append.mp ht with ht | ht
    · exact (ihp ht).imp fun _ h => ⟨List.mem_append_left _ h.1, h.2⟩
    · exact (ihq ht).imp fun _ h => ⟨List.mem_append_right _ h.1, h.2⟩
  | first _ ih => exact (ih ht).imp fun _ h => ⟨List.mem_append_left _ h.1, h.2⟩
  | second _ ih => exact (ih ht).imp fun _ h => ⟨List.mem_append_right _ h.1, h.2⟩
  | done => cases ht
  | again _ _ ihp ihmany => exact (List.mem_append.mp ht).elim ihp ihmany

/-- Every node that a phrase gives is of one of its rules. -/
lemma Gives.mem_rules (h : p.Gives body trees) (hr : .node r children ∈ trees) : r ∈ p.rules := by
  induction h with
  | empty => cases hr
  | token => cases List.mem_singleton.mp hr
  | passed => cases hr
  | rule =>
    cases List.mem_singleton.mp hr
    exact List.mem_cons_self
  | append _ _ ihp ihq =>
    exact List.mem_append.mpr ((List.mem_append.mp hr).imp ihp ihq)
  | first _ ih => exact List.mem_append_left _ (ih hr)
  | second _ ih => exact List.mem_append_right _ (ih hr)
  | done => cases hr
  | again _ _ ihp ihmany => exact (List.mem_append.mp hr).elim ihp ihmany

/-! ## The shapes of what is given -/

@[simp] lemma gives_empty_iff : (Phrase.empty : Phrase ρ).Gives body trees ↔ trees = [] := by
  constructor
  · rintro ⟨⟩
    rfl
  · rintro rfl
    exact .empty

@[simp] lemma gives_token_iff {test : TokenTest} : (Phrase.token test : Phrase ρ).Gives body trees ↔
    ∃ t, test.accepts t = true ∧ trees = [.leaf t] := by
  constructor
  · rintro ⟨⟩
    exact ⟨_, ‹_›, rfl⟩
  · rintro ⟨t, ht, rfl⟩
    exact .token ht

@[simp] lemma gives_unless_iff {words : List String} :
    (Phrase.unless words : Phrase ρ).Gives body trees ↔ trees = [] := by
  constructor
  · rintro ⟨⟩
    rfl
  · rintro rfl
    exact .passed

@[simp] lemma gives_rule_iff : (Phrase.rule r).Gives body trees ↔
    ∃ children, (body r).Gives body children ∧ trees = [.node r children] := by
  constructor
  · rintro ⟨⟩
    exact ⟨_, ‹_›, rfl⟩
  · rintro ⟨children, h, rfl⟩
    exact .rule h

@[simp] lemma gives_append_iff : (Phrase.append p q).Gives body trees ↔
    ∃ front back, p.Gives body front ∧ q.Gives body back ∧ trees = front ++ back := by
  constructor
  · rintro ⟨⟩
    exact ⟨_, _, ‹_›, ‹_›, rfl⟩
  · rintro ⟨front, back, hfront, hback, rfl⟩
    exact .append hfront hback

@[simp] lemma gives_orElse_iff :
    (Phrase.orElse p q).Gives body trees ↔ p.Gives body trees ∨ q.Gives body trees := by
  constructor
  · rintro (_ | _ | _ | _ | _ | h | h)
    · exact .inl h
    · exact .inr h
  · rintro (h | h)
    · exact .first h
    · exact .second h

/-- A repetition gives what its phrase gives, part after part. -/
lemma gives_many_iff : (Phrase.many p).Gives body trees ↔
    ∃ parts : List (List (Tree ρ)), (∀ part ∈ parts, p.Gives body part) ∧
      trees = parts.flatten := by
  constructor
  · intro h
    generalize hmany : Phrase.many p = phrase at h
    induction h with
    | done => exact ⟨[], by simp, rfl⟩
    | again hfront _ _ ih =>
      cases hmany
      obtain ⟨parts, hparts, rfl⟩ := ih rfl
      exact ⟨_ :: parts, by simpa using ⟨hfront, hparts⟩, rfl⟩
    | _ => cases hmany
  · rintro ⟨parts, hparts, rfl⟩
    induction parts with
    | nil => exact .done
    | cons part parts ih =>
      rw [List.forall_mem_cons] at hparts
      exact .again hparts.1 (ih hparts.2)

lemma gives_optional_iff :
    (Phrase.optional p).Gives body trees ↔ p.Gives body trees ∨ trees = [] := by
  rw [Phrase.optional, gives_orElse_iff, gives_empty_iff]

end Phrase

/-! ## The trees of a source -/

/-- A tree stands somewhere in the tree of a source, which has no syntax errors. -/
def InSource (source : String) (tree : JavaTree) : Prop :=
  ∃ ts root, lex source = some ts ∧ Grammar.parse? ts = some root ∧ tree.StandsIn [root]

section Sources

variable {source : String} {r : Rule} {children : List JavaTree}

lemma gives_of_parse? {ts : List Token} {root : JavaTree} (h : Grammar.parse? ts = some root) :
    (Phrase.rule Rule.source).Gives Grammar.body [root] ∧ ts = root.tokens := by
  unfold Grammar.parse? at h
  split at h
  · next hmatch =>
    cases h
    have hgives := Phrase.gives_of_match? hmatch
    simpa [Tree.tokensOfAll] using hgives
  · cases h

/-- A node in a source has children that its rule gives. -/
lemma InSource.gives (h : InSource source (.node r children)) :
    (Grammar.body r).Gives Grammar.body children := by
  obtain ⟨ts, root, -, hroot, hstands⟩ := h
  exact (gives_of_parse? hroot).1.of_standsIn hstands

/-- A word right behind the token before it. -/
def wordLeaf (text : String) : JavaTree := .leaf ⟨[], .word, text⟩

/-- A symbol right behind the token before it. -/
def symbolLeaf (text : String) : JavaTree := .leaf ⟨[], .symbol, text⟩

/-- The trees of rules among some trees. -/
def nodes (trees : List JavaTree) : List JavaTree :=
  trees.filter fun tree => match tree with
    | .leaf _ => false
    | .node _ _ => true

@[simp] lemma nodes_nil : nodes [] = [] := rfl

@[simp] lemma nodes_leaf (t : Token) (trees : List JavaTree) :
    nodes (.leaf t :: trees) = nodes trees := rfl

@[simp] lemma nodes_node (r : Rule) (children trees : List JavaTree) :
    nodes (.node r children :: trees) = .node r children :: nodes trees := rfl

/-- Children of a node in a source are in the source. -/
lemma InSource.of_mem {tree : JavaTree} (h : InSource source (.node r children))
    (htree : tree ∈ children) : InSource source tree := by
  obtain ⟨ts, root, hlex, hroot, hstands⟩ := h
  exact ⟨ts, root, hlex, hroot, hstands.trans (.among htree)⟩

lemma node_mem_of_child? {r' : Rule} {trees : List JavaTree} (h : child? r' trees = some children) :
    .node r' children ∈ trees := by
  fun_induction child? r' trees with
  | case1 => cases h
  | case2 =>
    cases h
    exact List.mem_cons_self
  | case3 _ _ _ _ ih => exact List.mem_cons_of_mem _ (ih h)
  | case4 _ _ ih => exact List.mem_cons_of_mem _ (ih h)

/-- The tokens in a node of a source are tokens of the source. -/
lemma InSource.mem_tokens (h : InSource source (.node r children)) :
    ∃ ts, lex source = some ts ∧ Tree.tokensOfAll children ⊆ ts := by
  obtain ⟨ts, root, hlex, hroot, hstands⟩ := h
  have hsubset := hstands.tokens_subset
  rw [Tree.tokens, Tree.tokensOfAll, Tree.tokensOfAll, List.append_nil,
    ← (gives_of_parse? hroot).2] at hsubset
  exact ⟨ts, hlex, hsubset⟩

end Sources

end JavaUml.Java
