/-
# When a model is assembled

The number of nodes is counted from the declarations (`nodeCount`), and so is the number of nodes
that are made before the first blank name (`FirstBlank.needed`).  An assembly needs no blank name
and an identifier for every node.  Of the two reasons to fail, a blank name is reported only if
there are identifiers for all nodes that are made before it is read (`assemble_outcome`).
-/
import JavaUml.Proofs.Assembly.Outline

namespace JavaUml

/-! ## Counting the nodes of declarations -/

section UpTo

variable {ε ι : Type} {fault? : ι → Option ε} {P : ι → Prop}

lemma upTo_of_isFirst (h : ∀ x, fault? x = none ↔ ¬P x) {before : List ι} {x : ι} {xs : List ι}
    (hx : IsFirst P before x xs) : upTo fault? xs = before ++ [x] := by
  obtain ⟨⟨after, rfl⟩, hP, hbefore⟩ := hx
  induction before with
  | nil =>
    have hfault : (fault? x).isSome := Option.isSome_iff_ne_none.mpr fun hn => (h x).mp hn hP
    simp [upTo, hfault]
  | cons y before ih =>
    have hfault : fault? y = none := (h y).mpr (hbefore y List.mem_cons_self)
    simp [upTo, hfault, ih fun z hz => hbefore z (List.mem_cons_of_mem y hz)]

end UpTo

/-- How many nodes are made before the first blank name is read: those of the model, of the
declarations and members before it, and of its class and method. -/
def FirstBlank.needed {ds : List Declaration} (p : FirstBlank ds) : ℕ :=
  3 + (p.declarations.map Declaration.size).sum + 1 + (p.members.map Member.size).sum +
    (2 + p.method.parameters.length)

namespace Assembly

variable {config : AssemblyConfig} {ds : List Declaration}

/-- The declarations make as many nodes as are needed up to the first blank name. -/
lemma length_classNodes_of_firstBlank (config : AssemblyConfig) (p : FirstBlank ds) :
    3 + (classNodes config ds).length = p.needed := by
  have hbefore : ∀ d ∈ p.declarations, ∀ n,
      (d.nodes (modelId config) n).length = d.size := fun d hd n =>
    Declaration.length_nodes
      ((Declaration.fault?_eq_none_iff d).mpr (p.first_declaration.not_before d hd)) _ n
  have hd : ∀ n, (p.declaration.nodes (modelId config) n).length =
      1 + (p.members.map Member.size).sum + (2 + p.method.parameters.length) := by
    intro n
    rw [Declaration.nodes, upTo_of_isFirst Member.fault?_eq_none_iff p.first_member,
      List.length_cons, length_chain fun member _ k => Member.length_nodes ⟨n⟩ k member]
    simp [Member.size]
    omega
  rw [classNodes, upTo_of_isFirst Declaration.fault?_eq_none_iff p.first_declaration, chain_append,
    List.length_append, length_chain hbefore]
  simp only [chain, List.append_nil, hd, FirstBlank.needed]
  omega

/-! ## Counting the nodes of diagrams -/

/-- Both names of a relationship are names of declarations. -/
def IsDeclared (ds : List Declaration) (r : Relationship) : Prop :=
  r.source ∈ ds.map Declaration.name ∧ r.target ∈ ds.map Declaration.name

instance (ds : List Declaration) (r : Relationship) : Decidable (IsDeclared ds r) :=
  inferInstanceAs (Decidable (_ ∧ _))

/-- The names that are bound are those of declarations. -/
lemma contains_bindings_iff {name : String} :
    (bindings config ds).contains name = true ↔ name ∈ ds.map Declaration.name := by
  have hnames := Declaration.map_entries (fun _ name => name) (config.seed.toNat + 3) ds
  rw [NameTable.contains, bindings, ClassEntry.resolve_table, Option.isSome_map,
    List.find?_isSome, ← hnames]
  simp [entries]

lemma isSome_resolvePair_iff {r : Relationship} :
    ((bindings config ds).resolvePair r.source r.target).isSome = true ↔ IsDeclared ds r := by
  rw [NameTable.isSome_resolvePair_iff, contains_bindings_iff, contains_bindings_iff, IsDeclared]

/-- Relationships of one size make as many nodes as there are declared ones, times this size. -/
lemma sum_sizes {rs : List Relationship} {k : ℕ} (hk : ∀ r ∈ rs, r.kind.size = k) :
    (rs.map fun r => if IsDeclared ds r then r.kind.size else 0).sum =
      k * rs.countP (IsDeclared ds ·) := by
  induction rs with
  | nil => simp
  | cons r rs ih =>
    rw [List.map_cons, List.sum_cons, hk r List.mem_cons_self,
      ih fun s hs => hk s (List.mem_cons_of_mem r hs)]
    by_cases hr : IsDeclared ds r
    · rw [if_pos hr, List.countP_cons_of_pos (by simpa using hr), Nat.mul_succ, Nat.add_comm]
    · rw [if_neg hr, List.countP_cons_of_neg (by simpa using hr), Nat.zero_add]

/-- The relationships to types that are extended or implemented, in order. -/
def supertypes (ds : List Declaration) : List Relationship := ds.flatMap Declaration.supertypes

/-- The relationships to types that are mentioned in fields, in order. -/
def aggregations (ds : List Declaration) : List Relationship :=
  ds.flatMap fun d => d.fields.flatMap fun f => f.aggregations d.name

lemma length_relationshipNodes :
    (relationshipNodes config ds).length =
      (supertypes ds).countP (IsDeclared ds ·) +
        3 * (aggregations ds).countP (IsDeclared ds ·) := by
  have hsize : ∀ r ∈ relationships ds, ∀ n, (r.nodes (bindings config ds) n).length =
      if IsDeclared ds r then r.kind.size else 0 := by
    intro r _ n
    rw [Relationship.length_nodes]
    simp only [isSome_resolvePair_iff]
  -- the two sorts alternate from declaration to declaration, which a sum does not see
  have hsplit : ∀ (f : Relationship → ℕ) (es : List Declaration),
      ((es.flatMap Declaration.relationships).map f).sum =
        ((supertypes es).map f).sum + ((aggregations es).map f).sum := by
    intro f es
    induction es with
    | nil => rfl
    | cons d es ih =>
      simp only [supertypes, aggregations, List.flatMap_cons, List.map_append, List.sum_append,
        Declaration.relationships, Declaration.aggregations_eq] at ih ⊢
      omega
  have hsupertypes : ∀ r ∈ supertypes ds, r.kind.size = 1 := by
    intro r hr
    obtain ⟨d, -, hr⟩ := List.mem_flatMap.mp hr
    rcases List.mem_append.mp hr with hr | hr <;> obtain ⟨_, -, rfl⟩ := List.mem_map.mp hr <;> rfl
  have haggregations : ∀ r ∈ aggregations ds, r.kind.size = 3 := by
    intro r hr
    obtain ⟨d, -, hr⟩ := List.mem_flatMap.mp hr
    obtain ⟨f, -, hr⟩ := List.mem_flatMap.mp hr
    obtain ⟨_, -, rfl⟩ := List.mem_map.mp hr
    rfl
  rw [relationshipNodes, length_chain hsize, relationships, hsplit, sum_sizes hsupertypes,
    sum_sizes haggregations, Nat.one_mul]

/-- The number of nodes of a model that is assembled from declarations. -/
def nodeCount (ds : List Declaration) : ℕ :=
  3 + (ds.map fun d => 1 + d.fields.length +
      (d.methods.map fun m => 2 + m.parameters.length).sum).sum +
    (supertypes ds).countP (IsDeclared ds ·) + 3 * (aggregations ds).countP (IsDeclared ds ·) +
    (if 0 < (triggers ds).length then
      2 + ((triggers ds).flatMap Edge.ends).eraseDups.length + 2 * (triggers ds).length else 0) +
    (if 0 < (messages ds).length then
      3 + ((messages ds).flatMap Edge.ends).eraseDups.length + (messages ds).length else 0)

lemma length_blueprint_eq (config : AssemblyConfig) (hf : ds.findSome? Declaration.fault? = none) :
    (blueprint config ds).length = nodeCount ds := by
  have hsizes : ds.map Declaration.size = ds.map fun d => 1 + d.fields.length +
      (d.methods.map fun m => 2 + m.parameters.length).sum :=
    List.map_congr_left fun d _ => d.size_eq
  have hempty : ∀ es : List Edge, es.isEmpty = true ↔ ¬0 < es.length := by
    intro es
    cases es <;> simp
  rw [length_blueprint, diagramNodes, List.length_append, List.length_append,
    length_relationshipNodes, stateMachineNodes, StateMachine.length_nodes, interactionNodes,
    Interaction.length_nodes, classNodes, upTo_of_findSome?_eq_none hf,
    Declaration.length_chain_nodes hf, hsizes, nodeCount]
  simp only [hempty, ite_not]
  omega

/-! ## The outcome -/

lemma findSome?_fault?_eq_none_iff :
    ds.findSome? Declaration.fault? = none ↔
      ∀ d ∈ ds, ∀ m ∈ d.methods, ∀ a ∈ m.annotations, ∀ e ∈ a.entries, ¬e.HasBlank := by
  simp only [List.findSome?_eq_none_iff, Declaration.fault?_eq_none_iff, Declaration.hasBlank_iff]
  simp

/-- There is an assembly if no name is blank and there is an identifier for every node. -/
lemma assemble_of_nodeCount_le (hf : ds.findSome? Declaration.fault? = none)
    (hroom : config.seed.toNat + nodeCount ds ≤ UInt64.size) :
    ∃ a, assemble config ds = .ok a ∧ Follows config ds a :=
  assemble_of_room hf (by rwa [length_blueprint_eq config hf])

/-- There is an assembly only if no name is blank and there is an identifier for every node. -/
lemma nodeCount_le_of_ok {a : Assembly} (h : assemble config ds = .ok a) :
    ds.findSome? Declaration.fault? = none ∧ config.seed.toNat + nodeCount ds ≤ UInt64.size := by
  obtain ⟨hf, hfollows⟩ := follows_of_ok h
  have hbounded := hfollows.sound.bounded
  rw [Document.next, hfollows.root, hfollows.size, length_blueprint_eq config hf] at hbounded
  exact ⟨hf, hbounded⟩

lemma assemble_of_firstBlank (p : FirstBlank ds) :
    assemble config ds = .error (if config.seed.toNat + p.needed ≤ UInt64.size then
      .malformed p.malformed else .idsExhausted config.seed) := by
  rw [assemble_of_fault p.findSome?_eq, ← length_classNodes_of_firstBlank config p,
    Nat.add_assoc]

/-- An assembly succeeds if and only if no entry of an annotation has a blank name and there is an
identifier for every node, and then the nodes are numbered from the seed on.  If there is a blank
name, then the first one is the error, unless the identifiers are used up before it is read; if
there is none, then the identifiers are used up. -/
theorem assemble_outcome (config : AssemblyConfig) (ds : List Declaration) :
    ((∃ a, assemble config ds = .ok a) ↔
      (∀ d ∈ ds, ∀ m ∈ d.methods, ∀ a ∈ m.annotations, ∀ e ∈ a.entries, ¬e.HasBlank) ∧
        config.seed.toNat + nodeCount ds ≤ 2 ^ 64) ∧
    (∀ a, assemble config ds = .ok a →
      a.document.nodes.toList.map Node.id =
        (List.range (nodeCount ds)).map fun i => ⟨config.seed.toNat + i⟩) ∧
    (∀ e, assemble config ds = .error e ↔
      (∃ p : FirstBlank ds, e = if config.seed.toNat + p.needed ≤ 2 ^ 64 then
        .malformed p.malformed else .idsExhausted config.seed) ∨
      ((∀ d ∈ ds, ∀ m ∈ d.methods, ∀ a ∈ m.annotations, ∀ e ∈ a.entries, ¬e.HasBlank) ∧
        2 ^ 64 < config.seed.toNat + nodeCount ds ∧ e = .idsExhausted config.seed)) := by
  rw [← findSome?_fault?_eq_none_iff, show 2 ^ 64 = UInt64.size from rfl]
  cases hf : ds.findSome? Declaration.fault? with
  | some fault =>
    -- with a blank name there is no assembly, whatever the seed is
    obtain ⟨p⟩ := exists_firstBlank hf
    have hp := @assemble_of_firstBlank config ds p
    refine ⟨?_, fun a ha => ?_, fun e => ⟨fun he => ?_, ?_⟩⟩
    · rw [hp]
      simp
    · rw [hp] at ha
      cases ha
    · rw [hp] at he
      exact .inl ⟨p, (Except.error.inj he).symm⟩
    · rintro (⟨q, rfl⟩ | ⟨hnone, -⟩)
      · exact assemble_of_firstBlank q
      · cases hnone
  | none =>
    have hlength := length_blueprint_eq config hf
    have hnot : FirstBlank ds → False := by
      intro p
      rw [p.findSome?_eq] at hf
      cases hf
    -- without one the number of nodes decides
    rcases Nat.lt_or_ge UInt64.size (config.seed.toNat + nodeCount ds) with hfull | hroom
    · have he := assemble_of_full hf (hlength ▸ hfull)
      refine ⟨?_, fun a ha => ?_, fun e => ?_⟩
      · rw [he]
        simpa using hfull
      · rw [he] at ha
        cases ha
      · rw [he]
        constructor
        · intro h
          exact .inr ⟨rfl, hfull, (Except.error.inj h).symm⟩
        · rintro (⟨p, -⟩ | ⟨-, -, rfl⟩)
          · exact (hnot p).elim
          · rfl
    · obtain ⟨a, ha, hfollows⟩ := assemble_of_room hf (hlength ▸ hroom)
      refine ⟨⟨fun _ => ⟨rfl, hroom⟩, fun _ => ⟨a, ha⟩⟩, fun b hb => ?_, fun e => ?_⟩
      · rw [ha] at hb
        cases hb
        rw [hfollows.ids, hlength]
      · rw [ha]
        simp only [reduceCtorEq, false_iff, not_or]
        exact ⟨fun ⟨p, _⟩ => hnot p, fun ⟨_, hfull, _⟩ => absurd hfull (Nat.not_lt.mpr hroom)⟩

/-- Two declarations with 21 nodes at the last seed that is small enough for them, and at the next
one.  With a blank target, seven nodes are made before it is read. -/
theorem assemble_outcome_of_two_declarations :
    let ds (target : String) : List Declaration :=
      [{ kind := .classType, name := "A", parents := ["B", "C"]
         members := [.method ⟨"m", [], .named "void", [⟨"x", .named "B"⟩],
           [.group .trigger [⟨"a", .many ["b", target]⟩]]⟩] },
       { kind := .interfaceType, name := "B", members := [.field ⟨"f", [], .named "A"⟩] }]
    (∃ a, assemble { seed := 0xFFFFFFFFFFFFFFEB } (ds "a") = .ok a) ∧
    assemble { seed := 0xFFFFFFFFFFFFFFEC } (ds "a") = .error (.idsExhausted 0xFFFFFFFFFFFFFFEC) ∧
    assemble { seed := 0xFFFFFFFFFFFFFFF9 } (ds " ") =
      .error (.malformed ⟨⟨.trigger, true⟩, "m", .blankTarget⟩) ∧
    assemble { seed := 0xFFFFFFFFFFFFFFFA } (ds " ") =
      .error (.idsExhausted 0xFFFFFFFFFFFFFFFA) := by
  intro ds
  have hblank : Endpoints.HasBlank ⟨"a", .many ["b", " "]⟩ := by decide
  have ha : Annotation.HasBlank (.group .trigger [⟨"a", .many ["b", " "]⟩]) :=
    ⟨_, List.mem_cons_self, hblank⟩
  have hm : Member.HasBlank (.method ⟨"m", [], .named "void", [⟨"x", .named "B"⟩],
      [.group .trigger [⟨"a", .many ["b", " "]⟩]]⟩) := ⟨_, rfl, _, List.mem_cons_self, ha⟩
  let p : FirstBlank (ds " ") :=
    ⟨[], _, [], _, _, _, ⟨⟨_, rfl⟩, ⟨_, List.mem_cons_self, hm⟩, nofun⟩, ⟨⟨_, rfl⟩, hm, nofun⟩,
      ⟨[], ⟨_, rfl⟩, ha, nofun⟩, ⟨[], ⟨_, rfl⟩, hblank, nofun⟩⟩
  have hneeded : p.needed = 7 := rfl
  have hfault : Endpoints.fault ⟨"a", .many ["b", " "]⟩ = .blankTarget := by decide
  refine ⟨(assemble_outcome _ _).1.mpr (by decide), ?_, ?_, ?_⟩
  · exact ((assemble_outcome _ _).2.2 _).mpr (.inr (by decide))
  · refine ((assemble_outcome _ _).2.2 _).mpr (.inl ⟨p, ?_⟩)
    rw [hneeded, if_pos (by decide), FirstBlank.malformed, hfault]
    rfl
  · refine ((assemble_outcome _ _).2.2 _).mpr (.inl ⟨p, ?_⟩)
    rw [hneeded, if_neg (by decide)]

end Assembly

end JavaUml
