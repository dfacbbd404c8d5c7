/-
# Groups of entries

An annotation of a method can hold a group of entries, which are annotations themselves and tell
where they lead from and to.  A group can be an array or one entry, and can stand after a key or
without (`HoldsList`).  In each case it is decoded into one pair of endpoints for every entry, and
an entry without them makes the scan fail (`group_decoded`).

What an entry says is read off its tree (`IsEntry`, `IsFaulty`), where comments, the order of its
arguments and further arguments play no part.
-/
import Mathlib
import JavaUml.Proofs.Java.Marks
import JavaUml.Proofs.Java.Trees

namespace JavaUml.Java

/-! ## What an entry says -/

/-- A string literal and its value. -/
inductive IsText : JavaTree → String → Prop
  | literal {r : Rule} {children : List JavaTree} {t : Token} {value : String} : r ≠ .mark →
      r ≠ .valueArray → Tree.tokensOfAll children = [t] → t.kind = .string →
      literalValue? t.text = some value → IsText (.node r children) value

/-- A string literal or an array of string literals, and the targets that it gives. -/
inductive IsTargets : JavaTree → Targets → Prop
  | one {tree : JavaTree} {name : String} : IsText tree name → IsTargets tree (.one name)
  | many {children : List JavaTree} {names : List String} :
      List.Forall₂ IsText (nodes children) names →
      IsTargets (.node .valueArray children) (.many names)

/-- The value of a pair with a key. -/
def pairValue? (key : String) : JavaTree → Option JavaTree
  | .node .elementPair [.node .declaredName name, .leaf _, value] =>
    if textOf name = key then some value else none
  | _ => none

/-- The values of the pairs with a key. -/
def pairValues (key : String) (arguments : List JavaTree) : List JavaTree :=
  arguments.filterMap (pairValue? key)

/-- An annotation with one pair for where it leads from, one pair for where it leads to, and
whatever else. -/
inductive IsEntry : JavaTree → Endpoints → Prop
  | intro {children arguments : List JavaTree} {source target : JavaTree} {e : Endpoints} :
      child? .annotationArguments children = some arguments →
      pairValues "from" arguments = [source] → pairValues "to" arguments = [target] →
      IsText source e.source → IsTargets target e.targets → IsEntry (.node .mark children) e

/-- Something other than an annotation with arguments, or an annotation that lacks one of the two
pairs or has some other value in one of them. -/
def IsFaulty (tree : JavaTree) : Prop :=
  ∀ children arguments, tree = .node .mark children →
    child? .annotationArguments children = some arguments →
    pairValues "from" arguments = [] ∨ pairValues "to" arguments = [] ∨
      (∃ value ∈ pairValues "from" arguments, ∀ s, ¬ IsText value s) ∨
      ∃ value ∈ pairValues "to" arguments, ∀ ts, ¬ IsTargets value ts

/-- The list in the arguments of a group: all that is there, or the value of a pair. -/
inductive HoldsList (arguments : List JavaTree) (list : JavaTree) : Prop
  | plain : nodes arguments = [list] → (∀ children, list ≠ .node .elementPair children) →
      HoldsList arguments list
  | named : pairValues "value" arguments = [list] → HoldsList arguments list

/-- The entries of a list. Anything but an array is a list of itself. -/
def entryTrees : JavaTree → List JavaTree
  | .node .valueArray elements => nodes elements
  | tree => [tree]

/-! ## Reading values -/

section Values

variable {tree : JavaTree} {trees children : List JavaTree}

lemma readElements_eq (trees : List JavaTree) :
    readElements trees = (nodes trees).map readElement := by
  induction trees with
  | nil => rw [readElements, nodes_nil, List.map_nil]
  | cons tree trees ih =>
    cases tree with
    | leaf t => rw [readElements, nodes_leaf, ih]
    | node r children => rw [readElements, nodes_node, List.map_cons, ih]

lemma readElement_array (children : List JavaTree) :
    readElement (.node .valueArray children) = .array ((nodes children).map readElement) := by
  rw [readElement, if_neg (by decide), if_pos rfl, readElements_eq]

lemma readElement_mark (children : List JavaTree) :
    readElement (.node .mark children) = .mark (readMark children) := by
  rw [readElement, if_pos rfl]

/-- A tree that is neither an annotation nor an array is at most a string literal. -/
lemma readElement_cases (tree : JavaTree) :
    (∃ children, tree = .node .mark children) ∨ (∃ children, tree = .node .valueArray children) ∨
      (∃ r children t, r ≠ .mark ∧ r ≠ .valueArray ∧ tree = .node r children ∧
        Tree.tokensOfAll children = [t] ∧ t.kind = .string ∧ readElement tree = .string t.text) ∨
      readElement tree = .other ∧ ∀ value, ¬ IsText tree value := by
  cases tree with
  | leaf t => exact .inr (.inr (.inr ⟨by rw [readElement], nofun⟩))
  | node r children =>
    by_cases hmark : r = .mark
    · exact .inl ⟨children, by rw [hmark]⟩
    by_cases harray : r = .valueArray
    · exact .inr (.inl ⟨children, by rw [harray]⟩)
    refine .inr (.inr ?_)
    by_cases htoken : ∃ t, Tree.tokensOfAll children = [t] ∧ t.kind = .string
    · obtain ⟨t, ht, hkind⟩ := htoken
      refine .inl ⟨r, children, t, hmark, harray, rfl, ht, hkind, ?_⟩
      rw [readElement, if_neg hmark, if_neg harray, ht]
      exact if_pos hkind
    · refine .inr ⟨?_, fun value => ?_⟩
      · rw [readElement, if_neg hmark, if_neg harray]
        split
        · next t ht => exact if_neg fun hkind => htoken ⟨t, ht, hkind⟩
        · rfl
      · rintro ⟨-, -, ht, hkind, -⟩
        exact htoken ⟨_, ht, hkind⟩

lemma not_isText_mark {value : String} : ¬ IsText (.node .mark children) value := by
  rintro ⟨hne, -⟩
  exact hne rfl

lemma not_isText_array {value : String} : ¬ IsText (.node .valueArray children) value := by
  rintro ⟨-, hne, -⟩
  exact hne rfl

lemma isText_iff {value : String} :
    (readElement tree).string? = some value ↔ IsText tree value := by
  rcases readElement_cases tree with ⟨children, rfl⟩ | ⟨children, rfl⟩ |
    ⟨r, children, t, hmark, harray, rfl, ht, hkind, hread⟩ | ⟨hread, hnone⟩
  · rw [readElement_mark]
    exact iff_of_false nofun not_isText_mark
  · rw [readElement_array]
    exact iff_of_false nofun not_isText_array
  · rw [hread]
    constructor
    · exact fun h => .literal hmark harray ht hkind h
    · rintro ⟨-, -, ht', -, h⟩
      rw [ht] at ht'
      cases ht'
      exact h
  · rw [hread]
    exact iff_of_false nofun (hnone value)

lemma isTargets_iff {ts : Targets} : (readElement tree).targets? = some ts ↔ IsTargets tree ts := by
  rcases readElement_cases tree with ⟨children, rfl⟩ | ⟨children, rfl⟩ |
    ⟨r, children, t, hmark, harray, rfl, ht, hkind, hread⟩ | ⟨hread, hnone⟩
  · rw [readElement_mark]
    refine iff_of_false nofun ?_
    rintro ⟨h⟩
    exact not_isText_mark h
  · have htexts : ∀ names, ((nodes children).map readElement).mapM ElementValue.string? =
        some names ↔ List.Forall₂ IsText (nodes children) names := fun names => by
      simp only [mapM_eq_some_iff, List.forall₂_map_left_iff, isText_iff]
    rw [readElement_array, ElementValue.targets?, Option.map_eq_some_iff]
    constructor
    · rintro ⟨names, hnames, rfl⟩
      exact .many ((htexts names).mp hnames)
    · rintro (h | hnames)
      · exact absurd h not_isText_array
      · exact ⟨_, (htexts _).mpr hnames, rfl⟩
  · rw [hread, ElementValue.targets?, Option.map_eq_some_iff]
    have htext := fun value => @isText_iff (.node r children) value
    rw [hread] at htext
    constructor
    · rintro ⟨name, hname, rfl⟩
      exact .one ((htext name).mp hname)
    · rintro (h | -)
      · exact ⟨_, (htext _).mpr h, rfl⟩
      · exact absurd rfl harray
  · rw [hread]
    refine iff_of_false nofun ?_
    rintro (h | -)
    · exact hnone _ h
    · rw [readElement_array] at hread
      cases hread

end Values

/-! ## Reading arguments -/

section Arguments

variable {source key : String} {children trees : List JavaTree} {tree : JavaTree}

/-- Reads one argument of an annotation. -/
def readArgument : JavaTree → AnnotationArgument
  | .node .elementPair children =>
    .pair (childText .declaredName children) (readPairValue children)
  | tree => .value (readElement tree)

lemma readArgument_of_ne (h : ∀ children, tree ≠ .node .elementPair children) :
    readArgument tree = .value (readElement tree) := by
  unfold readArgument
  split
  · exact absurd rfl (h _)
  · rfl

lemma readArguments_eq (trees : List JavaTree) :
    readArguments trees = (nodes trees).map readArgument := by
  induction trees with
  | nil => rw [readArguments, nodes_nil, List.map_nil]
  | cons tree trees ih =>
    cases tree with
    | leaf t => rw [readArguments, nodes_leaf, ih]
    | node r children =>
      rw [readArguments, nodes_node, List.map_cons, ih]
      by_cases hr : r = .elementPair
      · rw [if_pos hr, hr, readArgument]
      · rw [if_neg hr, readArgument_of_ne]
        rintro _ ⟨⟩
        exact hr rfl

/-- The value of an argument with a key. -/
def valueAt? (key : String) : AnnotationArgument → Option ElementValue
  | .pair k v => if k = key then some v else none
  | .value _ => none

/-- The values of the arguments with a key. -/
def valuesAt (key : String) (arguments : List AnnotationArgument) : List ElementValue :=
  arguments.filterMap (valueAt? key)

lemma exists_of_elementPair (h : InSource source (.node .elementPair children)) :
    ∃ name t r value, children = [.node .declaredName name, .leaf t, .node r value] ∧
      r ≠ .declaredName := by
  have hgives := h.gives
  rw [Grammar.body] at hgives
  simp only [Grammar.seq, Phrase.sequence, Phrase.gives_append_iff, Phrase.gives_rule_iff,
    Grammar.sym, Phrase.gives_token_iff, Grammar.elementValue, Grammar.alt, Phrase.choice,
    Phrase.gives_orElse_iff] at hgives
  obtain ⟨_, _, ⟨name, -, rfl⟩, ⟨_, _, ⟨t, -, rfl⟩, hvalue, rfl⟩, rfl⟩ := hgives
  rcases hvalue with ⟨value, -, rfl⟩ | ⟨value, -, rfl⟩ | ⟨value, -, rfl⟩ <;>
    exact ⟨name, t, _, value, rfl, by decide⟩

lemma valueAt?_readArgument (htree : InSource source tree) (key : String) :
    valueAt? key (readArgument tree) = (pairValue? key tree).map readElement := by
  by_cases hpair : ∃ children, tree = .node .elementPair children
  · obtain ⟨children, rfl⟩ := hpair
    obtain ⟨name, t, r, value, rfl, hne⟩ := exists_of_elementPair htree
    have hvalue : readPairValue [.node .declaredName name, .leaf t, .node r value] =
        readElement (.node r value) := by
      rw [readPairValue, if_pos rfl, readPairValue, readPairValue, if_neg hne]
    have htext : childText .declaredName [.node .declaredName name, .leaf t, .node r value] =
        textOf name := rfl
    rw [readArgument, hvalue, htext, valueAt?, pairValue?]
    by_cases hkey : textOf name = key <;> simp [hkey]
  · have hne : ∀ children, tree ≠ .node .elementPair children := fun children h =>
      hpair ⟨children, h⟩
    have hnone : pairValue? key tree = none := by
      unfold pairValue?
      split
      · exact absurd rfl (hne _)
      · rfl
    rw [readArgument_of_ne hne, hnone]
    rfl

/-- The arguments that are read with a key are the values of the pairs with the key. -/
lemma valuesAt_readArguments {r : Rule} (h : InSource source (.node r trees)) (key : String) :
    valuesAt key (readArguments trees) = (pairValues key trees).map readElement := by
  have hnodes : (nodes trees).filterMap (pairValue? key) = pairValues key trees := by
    rw [nodes, List.filterMap_filter, pairValues]
    refine List.filterMap_congr fun tree _ => ?_
    cases tree <;> rfl
  rw [readArguments_eq, valuesAt, List.filterMap_map, ← hnodes, List.map_filterMap]
  refine List.filterMap_congr fun tree htree => ?_
  exact valueAt?_readArgument (h.of_mem (List.mem_of_mem_filter htree)) key

end Arguments

/-! ## Endpoints -/

section Entries

variable {arguments : List AnnotationArgument} {d d' : EndpointsDraft}

/-- Taking an argument succeeds if it has a value of the right sort or another key. -/
lemma take_eq_ok_iff {a : AnnotationArgument} : d.take a = .ok d' ↔
    (∀ v ∈ valueAt? "from" a, v.string?.isSome) ∧ (∀ v ∈ valueAt? "to" a, v.targets?.isSome) ∧
      ⟨((valueAt? "from" a).bind ElementValue.string?).or d.source,
        ((valueAt? "to" a).bind ElementValue.targets?).or d.targets⟩ = d' := by
  cases a with
  | value v => simp [EndpointsDraft.take, valueAt?]
  | pair key v =>
    by_cases hfrom : key = "from"
    · subst hfrom
      cases hv : v.string? <;> simp [EndpointsDraft.take, valueAt?, hv]
    by_cases hto : key = "to"
    · subst hto
      cases hv : v.targets? <;> simp [EndpointsDraft.take, valueAt?, hv]
    · simp [EndpointsDraft.take, valueAt?, hfrom, hto]

lemma valuesAt_cons (key : String) (a : AnnotationArgument) (arguments : List AnnotationArgument) :
    valuesAt key (a :: arguments) = (valueAt? key a).toList ++ valuesAt key arguments := by
  rw [valuesAt, List.filterMap_cons]
  cases valueAt? key a <;> rfl

lemma getLast?_filterMap_append {α β : Type} {f : α → Option β} (x : Option α) (xs : List α) :
    ((x.toList ++ xs).filterMap f).getLast? = (xs.filterMap f).getLast?.or (x.bind f) := by
  rw [List.filterMap_append, List.getLast?_append]
  congr 1
  cases x with
  | none => rfl
  | some a => cases h : f a <;> simp [h]

/-- Of some arguments with the same key the last one counts. -/
lemma foldlM_take_eq_ok_iff : arguments.foldlM EndpointsDraft.take d = .ok d' ↔
    (∀ v ∈ valuesAt "from" arguments, v.string?.isSome) ∧
      (∀ v ∈ valuesAt "to" arguments, v.targets?.isSome) ∧
      ⟨((valuesAt "from" arguments).filterMap ElementValue.string?).getLast?.or d.source,
        ((valuesAt "to" arguments).filterMap ElementValue.targets?).getLast?.or d.targets⟩ =
          d' := by
  induction arguments generalizing d with
  | nil => simp [valuesAt, pure, Except.pure]
  | cons a arguments ih =>
    have hstep : (a :: arguments).foldlM EndpointsDraft.take d = .ok d' ↔
        ∃ d₁, d.take a = .ok d₁ ∧ arguments.foldlM EndpointsDraft.take d₁ = .ok d' := by
      rw [List.foldlM_cons]
      cases d.take a <;> simp [bind, Except.bind]
    rw [hstep]
    simp only [take_eq_ok_iff, ih, valuesAt_cons, List.forall_mem_append, Option.mem_toList,
      getLast?_filterMap_append, Option.or_assoc]
    constructor
    · rintro ⟨_, ⟨hfrom, hto, rfl⟩, hfroms, htos, hd⟩
      exact ⟨⟨hfrom, hfroms⟩, ⟨hto, htos⟩, hd⟩
    · rintro ⟨⟨hfrom, hfroms⟩, ⟨hto, htos⟩, hd⟩
      exact ⟨_, ⟨hfrom, hto, rfl⟩, hfroms, htos, hd⟩

lemma finish_eq_ok_iff {e : Endpoints} :
    d.finish = .ok e ↔ d.source = some e.source ∧ d.targets = some e.targets := by
  obtain ⟨from?, to?⟩ := d
  obtain ⟨source, targets⟩ := e
  cases from? <;> cases to? <;> simp [EndpointsDraft.finish]

/-- Some arguments have no values of the wrong sort, and they have the two that tell an entry. -/
structure Tells (arguments : List AnnotationArgument) (e : Endpoints) : Prop where
  sources : ∀ v ∈ valuesAt "from" arguments, v.string?.isSome
  targets : ∀ v ∈ valuesAt "to" arguments, v.targets?.isSome
  source : ((valuesAt "from" arguments).filterMap ElementValue.string?).getLast? = some e.source
  target : ((valuesAt "to" arguments).filterMap ElementValue.targets?).getLast? = some e.targets

lemma endpoints_eq_ok_iff (name : String) {e : Endpoints} :
    (AnnotationSyntax.mk name (some arguments)).endpoints = .ok e ↔ Tells arguments e := by
  have hendpoints : (AnnotationSyntax.mk name (some arguments)).endpoints = .ok e ↔
      ∃ d, arguments.foldlM EndpointsDraft.take {} = .ok d ∧ d.finish = .ok e := by
    simp only [AnnotationSyntax.endpoints, AnnotationSyntax.arguments]
    cases arguments.foldlM EndpointsDraft.take {} <;> simp [bind, Except.bind]
  simp only [hendpoints, foldlM_take_eq_ok_iff, finish_eq_ok_iff, Option.or_none]
  constructor
  · rintro ⟨_, ⟨hsources, htargets, rfl⟩, hsource, htarget⟩
    exact ⟨hsources, htargets, hsource, htarget⟩
  · rintro ⟨hsources, htargets, hsource, htarget⟩
    exact ⟨_, ⟨hsources, htargets, rfl⟩, hsource, htarget⟩

end Entries

section EntryTrees

variable {source : String} {tree : JavaTree} {children trees : List JavaTree} {e : Endpoints}

lemma readParentheses_eq (trees : List JavaTree) :
    readParentheses trees = (child? .annotationArguments trees).map readArguments := by
  induction trees with
  | nil => rw [readParentheses, child?, Option.map_none]
  | cons tree trees ih =>
    cases tree with
    | leaf t => rw [readParentheses, child?, ih]
    | node r children =>
      rw [readParentheses, child?, ih]
      by_cases hr : r = .annotationArguments <;> simp [hr]

lemma readMark_eq (trees : List JavaTree) :
    readMark trees = .mk (childText .qualifiedName trees)
      ((child? .annotationArguments trees).map readArguments) := by
  rw [readMark, readParentheses_eq]

lemma entry_eq_ok_iff : (readElement tree).entry = .ok e ↔
    ∃ children arguments, tree = .node .mark children ∧
      child? .annotationArguments children = some arguments ∧
      Tells (readArguments arguments) e := by
  rcases readElement_cases tree with ⟨children, rfl⟩ | ⟨children, rfl⟩ |
    ⟨r, children, t, hmark, -, rfl, -, -, hread⟩ | ⟨hread, -⟩
  · rw [readElement_mark, readMark_eq, ElementValue.entry]
    cases hchild : child? .annotationArguments children with
    | none =>
      refine iff_of_false nofun ?_
      rintro ⟨_, arguments, ⟨⟩, harguments, -⟩
      rw [hchild] at harguments
      cases harguments
    | some arguments =>
      refine (endpoints_eq_ok_iff (childText .qualifiedName children)).trans
        ⟨fun h => ⟨children, arguments, rfl, hchild, h⟩, ?_⟩
      rintro ⟨_, arguments', ⟨⟩, harguments, h⟩
      rw [hchild] at harguments
      cases harguments
      exact h
  · rw [readElement_array]
    refine iff_of_false nofun ?_
    rintro ⟨_, _, ⟨⟩, -⟩
  · rw [hread]
    refine iff_of_false nofun ?_
    rintro ⟨_, _, ⟨⟩, -⟩
    exact hmark rfl
  · rw [hread]
    refine iff_of_false nofun ?_
    rintro ⟨children, _, rfl, -⟩
    rw [readElement_mark] at hread
    cases hread

/-- An entry is read as what it says. -/
lemma IsEntry.entry_eq (h : IsEntry tree e) (htree : InSource source tree) :
    (readElement tree).entry = .ok e := by
  obtain ⟨harguments, hsource, htarget, htext, htargets⟩ := h
  refine entry_eq_ok_iff.mpr ⟨_, _, rfl, harguments, ?_⟩
  have hpairs := valuesAt_readArguments (htree.of_mem (node_mem_of_child? harguments))
  have htext' := isText_iff.mpr htext
  have htargets' := isTargets_iff.mpr htargets
  constructor <;> simp [hpairs, hsource, htarget, htext', htargets']

/-- Nothing is read where there is no entry. -/
lemma IsFaulty.entry_ne (h : IsFaulty tree) (htree : InSource source tree) :
    (readElement tree).entry ≠ .ok e := by
  intro hentry
  obtain ⟨children, arguments, rfl, harguments, htells⟩ := entry_eq_ok_iff.mp hentry
  have hpairs := valuesAt_readArguments (htree.of_mem (node_mem_of_child? harguments))
  obtain ⟨hsources, htargets, hsource, htarget⟩ := htells
  rw [hpairs] at hsources htargets hsource htarget
  rcases h children arguments rfl harguments with hnone | hnone | ⟨value, hmem, hother⟩ |
    ⟨value, hmem, hother⟩
  · simp [hnone] at hsource
  · simp [hnone] at htarget
  · obtain ⟨s, hs⟩ := Option.isSome_iff_exists.mp (hsources _ (List.mem_map_of_mem hmem))
    exact hother s (isText_iff.mp hs)
  · obtain ⟨ts, hts⟩ := Option.isSome_iff_exists.mp (htargets _ (List.mem_map_of_mem hmem))
    exact hother ts (isTargets_iff.mp hts)

end EntryTrees

/-! ## Lists -/

section Groups

variable {source method : String} {r : Rule} {list : JavaTree} {arguments mark : List JavaTree}
  {before : List (String × AnnotationSyntax)} {family : Family} {es : List Endpoints}

lemma entryTrees_of_ne (h : ∀ children, list ≠ .node .valueArray children) :
    entryTrees list = [list] := by
  unfold entryTrees
  split
  · exact absurd rfl (h _)
  · rfl

/-- A value that is no array is read as a list of one entry. -/
lemma entries_eq_ok_iff_entry {v : ElementValue} (h : ∀ values, v ≠ .array values) :
    v.entries = .ok es ↔ ∃ e, v.entry = .ok e ∧ es = [e] := by
  cases v with
  | array values => exact absurd rfl (h values)
  | string literal => exact iff_of_false nofun nofun
  | other => exact iff_of_false nofun nofun
  | mark a =>
    rw [ElementValue.entries, ElementValue.entry]
    by_cases hsome : a.arguments.isSome = true
    · rw [if_pos hsome, if_pos hsome]
      cases a.endpoints <;> simp [bind, Except.bind, pure, Except.pure, eq_comm]
    · rw [if_neg hsome, if_neg hsome]
      exact iff_of_false nofun nofun

/-- The entries of a list are those of its trees, in order. -/
lemma entries_eq_ok_iff : (readElement list).entries = .ok es ↔
    List.Forall₂ (fun tree e => (readElement tree).entry = .ok e) (entryTrees list) es := by
  by_cases harray : ∃ children, list = .node .valueArray children
  · obtain ⟨children, rfl⟩ := harray
    rw [readElement_array, ElementValue.entries, mapM_eq_ok_iff, List.forall₂_map_left_iff]
    rfl
  · have hne : ∀ children, list ≠ .node .valueArray children := fun children h =>
      harray ⟨children, h⟩
    have hvalue : ∀ values, readElement list ≠ .array values := by
      intro values hvalues
      rcases readElement_cases list with ⟨children, rfl⟩ | ⟨children, rfl⟩ |
        ⟨r, children, t, -, -, rfl, -, -, hread⟩ | ⟨hread, -⟩
      · rw [readElement_mark] at hvalues
        cases hvalues
      · exact hne children rfl
      · rw [hread] at hvalues
        cases hvalues
      · rw [hread] at hvalues
        cases hvalues
    rw [entries_eq_ok_iff_entry hvalue, entryTrees_of_ne hne, forall₂_singleton_iff]

lemma valueOf?_eq (key : String) (arguments : List AnnotationArgument) :
    valueOf? key arguments = (valuesAt key arguments).head? := by
  induction arguments with
  | nil => rfl
  | cons a arguments ih =>
    rw [valuesAt_cons]
    cases a with
    | value v => rw [valueOf?, ih]; rfl
    | pair k v =>
      rw [valueOf?, ih, valueAt?]
      by_cases hkey : k = key <;> simp [hkey]

lemma listValue?_readArguments (hsource : InSource source (.node r arguments))
    (h : HoldsList arguments list) :
    listValue? (readArguments arguments) = some (readElement list) := by
  cases h with
  | plain hnodes hpair =>
    rw [readArguments_eq, hnodes, List.map_singleton, readArgument_of_ne hpair]
    rfl
  | named hvalue =>
    have hvalues := valuesAt_readArguments hsource "value"
    have hfirst : valueOf? "value" (readArguments arguments) = some (readElement list) := by
      rw [valueOf?_eq, hvalues, hvalue]
      rfl
    unfold listValue?
    rw [hfirst]

lemma inSource_of_holdsList (hsource : InSource source (.node r arguments))
    (h : HoldsList arguments list) : InSource source list := by
  cases h with
  | plain hnodes _ =>
    have hmem : list ∈ nodes arguments := hnodes ▸ List.mem_cons_self
    exact hsource.of_mem (List.mem_of_mem_filter hmem)
  | named hvalue =>
    have hmem : list ∈ pairValues "value" arguments := hvalue ▸ List.mem_cons_self
    obtain ⟨tree, htree, hpair⟩ := List.mem_filterMap.mp hmem
    unfold pairValue? at hpair
    split at hpair
    · split at hpair
      · cases hpair
        exact (hsource.of_mem htree).of_mem (by simp)
      · cases hpair
    · cases hpair

lemma inSource_of_mem_entryTrees (h : InSource source list) {tree : JavaTree}
    (htree : tree ∈ entryTrees list) : InSource source tree := by
  unfold entryTrees at htree
  split at htree
  · exact h.of_mem (List.mem_of_mem_filter htree)
  · rwa [List.mem_singleton.mp htree]

lemma entry_of_isEntry {trees : List JavaTree} (htrees : ∀ tree ∈ trees, InSource source tree)
    (h : List.Forall₂ IsEntry trees es) :
    List.Forall₂ (fun tree e => (readElement tree).entry = .ok e) trees es := by
  induction h with
  | nil => exact .nil
  | cons hentry _ ih =>
    rw [List.forall_mem_cons] at htrees
    exact .cons (hentry.entry_eq htrees.1) (ih htrees.2)

/-- What a group is decoded into depends on the entries of its list. -/
lemma decode_of_group (method : String) {name : String}
    (hfamily : Family.ofName? (simpleName name) = some family) (hgrouped : family.grouped = true)
    (hlist : listValue? (readArguments arguments) = some (readElement list)) :
    (AnnotationSyntax.mk name (some (readArguments arguments))).decode method =
      match (readElement list).entries with
      | .ok es => .ok (some (.group family.channel es))
      | .error fault => .error ⟨family, method, fault⟩ := by
  have hgroup : (AnnotationSyntax.mk name (some (readArguments arguments))).group =
      (readElement list).entries := by
    rw [AnnotationSyntax.group, AnnotationSyntax.arguments, Option.bind_some, hlist]
  simp only [AnnotationSyntax.decode, AnnotationSyntax.name, hfamily, hgrouped, if_true, hgroup]
  cases (readElement list).entries <;> rfl

/-- An annotation of a method in a source, and the annotations of methods before it. -/
structure IsMarked (source method : String) (mark : List JavaTree)
    (before : List (String × AnnotationSyntax)) : Prop where
  inSource : InSource source (.node .mark mark)
  split : ∃ classifiers after, readSource? source = some classifiers ∧
    classifiers.flatMap ClassifierSyntax.marks = before ++ (method, readMark mark) :: after

/-- No entry of a group is lost.  If each of them tells where it leads from and to, then they are
all decoded, in order, and an annotation of the method holds them.  If one of them does not, then
the group cannot be decoded, which is reported with the family and the method unless it is reported
of another annotation before. -/
theorem group_decoded (hmark : IsMarked source method mark before)
    (hfamily : Family.ofName? (simpleName (childText .qualifiedName mark)) = some family)
    (hgrouped : family.grouped = true)
    (harguments : child? .annotationArguments mark = some arguments)
    (hlist : HoldsList arguments list) :
    (∀ es, List.Forall₂ IsEntry (entryTrees list) es →
      (readMark mark).decode method = .ok (some (.group family.channel es)) ∧
        ∀ ds, scanSource source = .ok (some ds) →
          ∃ d ∈ ds, ∃ m ∈ d.methods, m.name = method ∧
            .group family.channel es ∈ m.annotations) ∧
      ((∃ tree ∈ entryTrees list, IsFaulty tree) →
        ∃ fault, (readMark mark).decode method = .error ⟨family, method, fault⟩ ∧
          (∃ e, scanSource source = .error e) ∧
          ((∀ a ∈ before, markFailure? a = none) →
            scanSource source = .error ⟨family, method, fault⟩)) := by
  obtain ⟨hsource, classifiers, after, hread, hsplit⟩ := hmark
  have harguments' := hsource.of_mem (node_mem_of_child? harguments)
  have htrees : ∀ tree ∈ entryTrees list, InSource source tree := fun tree =>
    inSource_of_mem_entryTrees (inSource_of_holdsList harguments' hlist)
  have hdecode := decode_of_group method hfamily hgrouped
    (listValue?_readArguments harguments' hlist)
  have hmark : readMark mark =
      .mk (childText .qualifiedName mark) (some (readArguments arguments)) := by
    rw [readMark_eq, harguments, Option.map_some]
  rw [← hmark] at hdecode
  constructor
  · intro es hes
    have hentries : (readElement list).entries = .ok es :=
      entries_eq_ok_iff.mpr (entry_of_isEntry htrees hes)
    rw [hentries] at hdecode
    refine ⟨hdecode, fun ds hscan => exists_method_of_mark hread hscan ?_ hdecode⟩
    rw [hsplit]
    simp
  · rintro ⟨tree, htree, hfaulty⟩
    cases hentries : (readElement list).entries with
    | ok es =>
      obtain ⟨e, -, he⟩ := exists_of_forall₂ (entries_eq_ok_iff.mp hentries) htree
      exact absurd he (hfaulty.entry_ne (htrees tree htree))
    | error fault =>
      rw [hentries] at hdecode
      have hfailure : markFailure? (method, readMark mark) = some ⟨family, method, fault⟩ := by
        rw [markFailure?, hdecode]
        rfl
      have hscan := failure?_scanSource hread
      rw [hsplit, List.findSome?_append, List.findSome?_cons, hfailure] at hscan
      refine ⟨fault, hdecode, ?_, fun hbefore => ?_⟩
      · have hfails : ∃ e, failure? (scanSource source) = some e := by
          rw [hscan]
          cases before.findSome? markFailure? <;> exact ⟨_, rfl⟩
        exact hfails.imp fun e he => failure?_eq_some_iff.mp he
      · rw [List.findSome?_eq_none_iff.mpr hbefore, Option.none_or] at hscan
        exact failure?_eq_some_iff.mp hscan

/-- A pair with a string literal. -/
def stringPair (key literal : String) : JavaTree :=
  .node .elementPair [.node .declaredName [wordLeaf key], symbolLeaf "=",
    .node (.expression true) [.leaf ⟨[], .string, literal⟩,
      .node (.afterValue true) [.node (.operators true) []]]]

/-- The children of an annotation with arguments. -/
def markWith (name : String) (arguments : List JavaTree) : List JavaTree :=
  [symbolLeaf "@", .node .qualifiedName [wordLeaf name],
    .node .annotationArguments ([symbolLeaf "("] ++ arguments ++ [symbolLeaf ")"])]

/-- The annotation `@B(to="b",from="a")`. -/
def oneEntry : JavaTree :=
  .node .mark (markWith "B" [stringPair "to" "\"b\"", symbolLeaf ",", stringPair "from" "\"a\""])

/-- The children of a class with a method that has an annotation. -/
def classWithMark (mark : List JavaTree) : List JavaTree :=
  [wordLeaf "class", .node .declaredName [.leaf ⟨[.blank " "], .word, "A"⟩],
    .node .classBody [symbolLeaf "\x7b",
      .node .methodDeclaration [.node .modifiers [.node .mark mark],
        .node .plainType [.node .primitiveType [wordLeaf "void"]],
        .node .declaredName [.leaf ⟨[.blank " "], .word, "m"⟩],
        .node .formalParameters [symbolLeaf "(", symbolLeaf ")"],
        .node .block [symbolLeaf "\x7b", symbolLeaf "\x7d"]],
      symbolLeaf "\x7d"]]

/-- A group with one entry, in an array. -/
theorem group_decoded_of_array :
    let list : JavaTree := .node .valueArray [symbolLeaf "\x7b", oneEntry, symbolLeaf "\x7d"]
    IsMarked "class A\x7b@Triggers(\x7b@B(to=\"b\",from=\"a\")\x7d)void m()\x7b\x7d\x7d" "m"
        (markWith "Triggers" [list]) [] ∧
      List.Forall₂ IsEntry (entryTrees list) [⟨"a", .one "b"⟩] ∧
      (readMark (markWith "Triggers" [list])).decode "m" =
        .ok (some (.group .trigger [⟨"a", .one "b"⟩])) := by
  intro list
  have hlex : lex "class A\x7b@Triggers(\x7b@B(to=\"b\",from=\"a\")\x7d)void m()\x7b\x7d\x7d" =
      some (Tree.tokensOfAll (classWithMark (markWith "Triggers" [list]))) := by decide +kernel
  have hparse : Grammar.parse? (Tree.tokensOfAll (classWithMark (markWith "Triggers" [list]))) =
      some (.node .source [.node .statement
        [.node .classDeclaration (classWithMark (markWith "Triggers" [list]))]]) := by cbv
  have hsource : IsMarked
      "class A\x7b@Triggers(\x7b@B(to=\"b\",from=\"a\")\x7d)void m()\x7b\x7d\x7d" "m"
      (markWith "Triggers" [list]) [] := by
    refine ⟨⟨_, _, hlex, hparse, ?_⟩, (readClassifier? (.node .classDeclaration
      (classWithMark (markWith "Triggers" [list])))).toList, [], ?_, rfl⟩
    · iterate 3 refine .inside List.mem_cons_self ?_
      refine .inside (List.mem_cons_of_mem _ (List.mem_cons_of_mem _ List.mem_cons_self)) ?_
      refine .inside (List.mem_cons_of_mem _ List.mem_cons_self) ?_
      exact .inside List.mem_cons_self (.among List.mem_cons_self)
    · rw [readSource?, hlex, Option.bind_eq_bind, Option.bind_some, hparse]
      rfl
  have hentry : IsEntry oneEntry ⟨"a", .one "b"⟩ := by
    refine .intro rfl rfl rfl ?_ (.one ?_) <;>
      exact .literal (by decide) (by decide) rfl rfl (by decide +kernel)
  have hfamily : Family.ofName? (simpleName (childText .qualifiedName
      (markWith "Triggers" [list]))) = some ⟨.trigger, true⟩ := by decide +kernel
  have hlist : HoldsList ([symbolLeaf "("] ++ [list] ++ [symbolLeaf ")"]) list :=
    .plain rfl (by simp [list])
  obtain ⟨hdecoded, -⟩ := group_decoded hsource hfamily rfl rfl hlist
  have hentries := List.Forall₂.cons hentry .nil
  exact ⟨hsource, hentries, (hdecoded _ hentries).1⟩

end Groups

end JavaUml.Java
