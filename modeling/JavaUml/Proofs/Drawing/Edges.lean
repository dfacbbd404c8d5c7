/-
# The nodes of edges

A diagram draws its edges in order.  The node of a name is made when the name first occurs, right
before the edge, and it is found in the table of names afterwards.  So an edge makes up to two nodes
for its ends and then its own nodes (`edgeNodes`).  In all, as many nodes are made for names as
there are different names that are not in the table at the beginning (`length_edgeNodes`).
-/
import JavaUml.Proofs.Drawing.Makes
import JavaUml.Registry
import Mathlib.Data.List.Induction

namespace JavaUml

/-- The names at the ends of an edge. -/
def Edge.ends (e : Edge) : List String := [e.source, e.target]

/-! ## Names that occur for the first time -/

lemma eraseDups_concat (names : List String) (name : String) :
    (names ++ [name]).eraseDups =
      if name ∈ names then names.eraseDups else names.eraseDups ++ [name] := by
  rw [List.eraseDups_append]
  by_cases h : name ∈ names
  · simp [List.removeAll, h]
  · simp [List.removeAll, h, List.eraseDups_cons]

lemma nodup_eraseDups (names : List String) : names.eraseDups.Nodup := by
  induction names using List.reverseRecOn with
  | nil => exact .nil
  | append_singleton names name ih =>
    rw [eraseDups_concat]
    split
    · exact ih
    · next hnot =>
      refine List.nodup_append.mpr ⟨ih, List.nodup_singleton name, ?_⟩
      rintro other hother _ hname rfl
      rw [List.mem_singleton.mp hname] at hother
      exact hnot (List.mem_eraseDups.mp hother)

lemma NameTable.contains_bind (table : NameTable) (name other : String) (id : NodeId) :
    (table.bind name id).contains other = (other == name || table.contains other) := by
  unfold contains
  by_cases h : other = name
  · subst h
    simp
  · simp [table.resolve_bind_of_ne id h, h]

/-- The names of a list that are not in a table, each of them once. -/
def NameTable.fresh (table : NameTable) (names : List String) : List String :=
  (names.filter fun name => !table.contains name).eraseDups

lemma NameTable.fresh_of_contains {table : NameTable} {name : String}
    (h : table.contains name = true) (names : List String) :
    table.fresh (name :: names) = table.fresh names := by
  simp [fresh, h]

lemma NameTable.fresh_of_not_contains {table : NameTable} {name : String}
    (h : table.contains name = false) (id : NodeId) (names : List String) :
    table.fresh (name :: names) = name :: (table.bind name id).fresh names := by
  simp only [fresh, List.filter_cons, h, Bool.not_false, if_true, List.eraseDups_cons,
    List.filter_filter, contains_bind, Bool.not_or]

lemma NameTable.fresh_empty (names : List String) : empty.fresh names = names.eraseDups := by
  simp [fresh, contains]

/-! ## Nodes -/

/-- What looking up a name comes to: its node, the table afterwards, and the nodes that were
made. -/
structure Meeting where
  id : NodeId
  table : NameTable
  nodes : List Node

section Edges

variable (vertex : ℕ → String → Node) (link : ℕ → NodeId → NodeId → String → List Node)

/-- Looks up a name, for which a node is made if it is not in the table. -/
def meet (n : ℕ) (table : NameTable) (name : String) : Meeting :=
  match table.resolve name with
  | some id => ⟨id, table, []⟩
  | none => ⟨⟨n⟩, table.bind name ⟨n⟩, [vertex n name]⟩

/-- The nodes for edges: before each edge those for names that occur for the first time. -/
def edgeNodes : ℕ → NameTable → List Edge → List Node
  | _, _, [] => []
  | n, table, e :: es =>
    let source := meet vertex n table e.source
    let target := meet vertex (n + source.nodes.length) source.table e.target
    let start := n + source.nodes.length + target.nodes.length
    let arc := link start source.id target.id e.label
    source.nodes ++ (target.nodes ++ (arc ++ edgeNodes (start + arc.length) target.table es))

/-- The table after the ends of an edge were looked up. -/
def tableAfter (n : ℕ) (table : NameTable) (e : Edge) : NameTable :=
  (meet vertex (n + (meet vertex n table e.source).nodes.length)
    (meet vertex n table e.source).table e.target).table

variable {vertex link}

lemma edgeNodes_cons (n : ℕ) (table : NameTable) (e : Edge) (es : List Edge) :
    edgeNodes vertex link n table (e :: es) = edgeNodes vertex link n table [e] ++
      edgeNodes vertex link (n + (edgeNodes vertex link n table [e]).length)
        (tableAfter vertex n table e) es := by
  simp [edgeNodes, tableAfter, Nat.add_assoc]

variable (vertex) in
lemma length_meet_add (n : ℕ) (table : NameTable) (name : String) (names : List String) :
    (meet vertex n table name).nodes.length + ((meet vertex n table name).table.fresh names).length
      = (table.fresh (name :: names)).length := by
  unfold meet
  cases h : table.resolve name with
  | some id =>
    rw [NameTable.fresh_of_contains (by simp [NameTable.contains, h])]
    simp
  | none =>
    rw [NameTable.fresh_of_not_contains (by simp [NameTable.contains, h]) ⟨n⟩]
    simp [Nat.add_comm]

/-- Every different name makes one node, and every edge its own. -/
lemma length_edgeNodes {k : ℕ} (hk : ∀ n a b label, (link n a b label).length = k) (n : ℕ)
    (table : NameTable) (es : List Edge) :
    (edgeNodes vertex link n table es).length =
      (table.fresh (es.flatMap Edge.ends)).length + k * es.length := by
  induction es generalizing n table with
  | nil => simp [edgeNodes, NameTable.fresh]
  | cons e es ih =>
    rw [List.flatMap_cons, Edge.ends, List.cons_append, List.singleton_append,
      ← length_meet_add vertex n table, ← length_meet_add vertex
        (n + (meet vertex n table e.source).nodes.length)]
    simp only [edgeNodes, List.length_append, ih, hk, List.length_cons, Nat.mul_succ]
    omega

/-! ## Which nodes are linked -/

lemma resolve_meet (n : ℕ) (table : NameTable) (name : String) :
    (meet vertex n table name).table.resolve name = some (meet vertex n table name).id := by
  unfold meet
  cases h : table.resolve name with
  | some id => exact h
  | none => exact table.resolve_bind_self name ⟨n⟩

/-- What is in the table after a name was looked up was there before, or it is the node that was
made. -/
lemma resolve_of_resolve_meet {n : ℕ} {table : NameTable} {name other : String} {id : NodeId}
    (h : (meet vertex n table name).table.resolve other = some id) :
    table.resolve other = some id ∨
      ∃ k made, id = ⟨k⟩ ∧ vertex k made ∈ (meet vertex n table name).nodes := by
  unfold meet at h ⊢
  cases hr : table.resolve name with
  | some found =>
    rw [hr] at h
    exact .inl h
  | none =>
    rw [hr] at h
    by_cases hn : other = name
    · subst hn
      rw [NameTable.resolve_bind_self] at h
      exact .inr ⟨n, other, (Option.some.inj h).symm, List.mem_singleton_self _⟩
    · rw [NameTable.resolve_bind_of_ne _ _ hn] at h
      exact .inl h

/-- A node for a name or one that was made for a name, as far as a list of nodes and a table
tell. -/
def IsMet (vertex : ℕ → String → Node) (table : NameTable) (nodes : List Node) (id : NodeId) :
    Prop :=
  (∃ name, table.resolve name = some id) ∨ ∃ k name, id = ⟨k⟩ ∧ vertex k name ∈ nodes

variable (vertex) in
lemma isMet_meet (n : ℕ) (table : NameTable) (name : String) :
    IsMet vertex (meet vertex n table name).table [] (meet vertex n table name).id :=
  .inl ⟨name, resolve_meet n table name⟩

lemma IsMet.of_meet {n : ℕ} {table : NameTable} {name : String} {nodes : List Node} {id : NodeId}
    (h : IsMet vertex (meet vertex n table name).table nodes id) :
    IsMet vertex table ((meet vertex n table name).nodes ++ nodes) id := by
  rcases h with ⟨other, hr⟩ | ⟨k, made, rfl, hm⟩
  · rcases resolve_of_resolve_meet hr with hr | ⟨k, made, rfl, hm⟩
    · exact .inl ⟨other, hr⟩
    · exact .inr ⟨k, made, rfl, List.mem_append_left _ hm⟩
  · exact .inr ⟨k, made, rfl, List.mem_append_right _ hm⟩

lemma IsMet.mono {table : NameTable} {nodes more : List Node} {id : NodeId}
    (h : IsMet vertex table nodes id) (hsub : nodes ⊆ more) : IsMet vertex table more id := by
  rcases h with h | ⟨k, made, rfl, hm⟩
  · exact .inl h
  · exact .inr ⟨k, made, rfl, hsub hm⟩

lemma IsMet.exists_of_empty {nodes : List Node} {id : NodeId} (h : IsMet vertex .empty nodes id) :
    ∃ k name, id = ⟨k⟩ ∧ vertex k name ∈ nodes := by
  rcases h with ⟨name, hr⟩ | h
  · cases hr
  · exact h

/-- The nodes for edges are nodes for names, and links between such nodes. -/
lemma mem_edgeNodes {n : ℕ} {table : NameTable} {es : List Edge} {node : Node}
    (h : node ∈ edgeNodes vertex link n table es) :
    (∃ k name, node = vertex k name) ∨ ∃ k a b label, node ∈ link k a b label ∧
      IsMet vertex table (edgeNodes vertex link n table es) a ∧
      IsMet vertex table (edgeNodes vertex link n table es) b := by
  induction es generalizing n table with
  | nil => cases h
  | cons e es ih =>
    have hmade : ∀ k t name,
        node ∈ (meet vertex k t name).nodes → ∃ k name, node = vertex k name := by
      intro k t name hm
      unfold meet at hm
      split at hm
      · cases hm
      · exact ⟨k, name, List.mem_singleton.mp hm⟩
    simp only [edgeNodes, List.mem_append] at h
    rcases h with h | h | h | h
    · exact .inl (hmade _ _ _ h)
    · exact .inl (hmade _ _ _ h)
    · -- the edge itself, whose ends are in the table when it is drawn
      have hsource := isMet_meet vertex n table e.source
      have htarget := isMet_meet vertex (n + (meet vertex n table e.source).nodes.length)
        (meet vertex n table e.source).table e.target
      refine .inr ⟨_, _, _, _, h, hsource.of_meet.mono ?_, htarget.of_meet.of_meet.mono ?_⟩
      · simp [edgeNodes]
      · intro x hx
        simp only [List.append_nil, List.mem_append] at hx
        simp only [edgeNodes, List.mem_append]
        tauto
    · rcases ih h with h | ⟨k, a, b, label, h, ha, hb⟩
      · exact .inl h
      · refine .inr ⟨k, a, b, label, h, ha.of_meet.of_meet.mono ?_, hb.of_meet.of_meet.mono ?_⟩
        all_goals
          intro x hx
          simp only [List.mem_append] at hx
          simp only [edgeNodes, List.mem_append]
          tauto

/-! ## Drawing -/

variable {doc : Document} {draw : String → Drawing NodeId}
  {connect : NodeId → NodeId → String → Drawing Unit}

lemma makes_getOrBind (hs : doc.Sound) {name : String}
    (hd : Makes (draw name) doc [vertex doc.next name] none (fun id _ => id = ⟨doc.next⟩))
    (table : NameTable) :
    Makes (table.getOrBind name (draw name)) doc (meet vertex doc.next table name).nodes none
      (fun found _ => found =
        ((meet vertex doc.next table name).id, (meet vertex doc.next table name).table)) := by
  unfold NameTable.getOrBind meet
  cases table.resolve name with
  | some id => exact .pure hs rfl
  | none =>
    refine hd.bind_pure ?_
    rintro - _ doc' - rfl
    rfl

/-- An edge makes the nodes for the names at its ends that are new, and its own. -/
lemma makes_edge {owner : NodeId} {e : Edge}
    (hd : ∀ name ∈ e.ends, ∀ doc : Document, doc.Sound → doc.Has owner →
      Makes (draw name) doc [vertex doc.next name] none (fun id _ => id = ⟨doc.next⟩))
    (hc : ∀ doc : Document, doc.Sound → doc.Has owner → ∀ a b label,
      Makes (connect a b label) doc (link doc.next a b label) none (fun _ _ => True))
    (hs : doc.Sound) (ho : doc.Has owner) (table : NameTable) :
    Makes (Drawing.edge draw connect table e) doc (edgeNodes vertex link doc.next table [e]) none
      (fun table' _ => table' = tableAfter vertex doc.next table e) := by
  have hsource := makes_getOrBind hs (hd e.source (by simp [Edge.ends]) doc hs ho) table
  simp only [edgeNodes, List.append_nil, tableAfter]
  -- of the first look-up only its nodes, its table and its identifier matter from here on
  generalize meet vertex doc.next table e.source = source at hsource ⊢
  refine hsource.bind ?_
  rintro _ doc₁ hg₁ rfl
  have hnext₁ : doc₁.next = doc.next + source.nodes.length := hg₁.next
  have hs₁ : doc₁.Sound := hg₁.sound
  have ho₁ : doc₁.Has owner := hg₁.has ho
  have htarget := makes_getOrBind hs₁ (hd e.target (by simp [Edge.ends]) doc₁ hs₁ ho₁) source.table
  rw [hnext₁] at htarget
  generalize meet vertex (doc.next + source.nodes.length) source.table e.target = target
    at htarget ⊢
  refine htarget.bind ?_
  rintro _ doc₂ hg₂ rfl
  have hnext₂ : doc₂.next = doc.next + source.nodes.length + target.nodes.length :=
    hg₂.next.trans (congrArg (· + target.nodes.length) hnext₁)
  have harc := hc doc₂ hg₂.sound (hg₂.has ho₁) source.id target.id e.label
  rw [hnext₂] at harc
  exact harc.bind_pure fun _ _ _ _ _ => rfl

/-- Edges are drawn below a node if their ends and links are. -/
lemma makes_edges {owner : NodeId} {es : List Edge}
    (hd : ∀ name ∈ es.flatMap Edge.ends, ∀ doc : Document, doc.Sound → doc.Has owner →
      Makes (draw name) doc [vertex doc.next name] none (fun id _ => id = ⟨doc.next⟩))
    (hc : ∀ doc : Document, doc.Sound → doc.Has owner → ∀ a b label,
      Makes (connect a b label) doc (link doc.next a b label) none (fun _ _ => True))
    (hs : doc.Sound) (ho : doc.Has owner) (table : NameTable) :
    Makes (Drawing.edges draw connect table es) doc (edgeNodes vertex link doc.next table es) none
      (fun _ _ => True) := by
  induction es generalizing doc table with
  | nil => exact .pure hs trivial
  | cons e es ih =>
    have hedge := makes_edge (fun name hname => hd name (List.mem_append_left _ hname)) hc hs ho
      table
    have hrest := fun name hname => hd name (List.mem_append_right e.ends hname)
    rw [edgeNodes_cons]
    refine hedge.bind ?_
    rintro _ doc' hg rfl
    have hafter := ih hrest (show doc'.Sound from hg.sound) (hg.has ho)
      (tableAfter vertex doc.next table e)
    rw [show doc'.next = _ from hg.next] at hafter
    exact hafter

end Edges

/-! ## Registries -/

namespace Registry

variable {κ : Type}

lemma kind?_register (r : Registry κ) (name other : String) (kind : κ) :
    (r.register name kind).kind? other =
      (r.kind? other).or (if other = name then some kind else none) := by
  unfold register
  by_cases h : (r.kind? name).isSome
  · rw [if_pos h]
    by_cases hn : other = name
    · subst hn
      simp [Option.or_of_isSome h]
    · simp [hn]
  · rw [if_neg h]
    by_cases hn : other = name
    · subst hn
      have hnone : r.kind? other = none := by simpa using h
      rw [hnone, if_pos rfl]
      exact Entries.lookup_set_self other kind r.kinds
    · rw [if_neg hn, Option.or_none]
      exact Entries.lookup_set_of_ne kind r.kinds hn

/-- Edges are kept in order. -/
lemma edges_foldl_connect (kindOf : String → κ) (es : List Edge) (r : Registry κ) :
    (es.foldl (connect kindOf) r).edges = r.edges ++ es := by
  induction es generalizing r with
  | nil => simp
  | cons e es ih =>
    have hedges : ∀ (r : Registry κ) name, (r.register name (kindOf name)).edges = r.edges := by
      intro r name
      unfold register
      split <;> rfl
    rw [List.foldl_cons, ih, connect, hedges, hedges]
    simp

/-- A registry to which edges were added is not empty. -/
lemma isEmpty_foldl_connect (kindOf : String → κ) {es : List Edge} (h : es ≠ []) :
    (es.foldl (connect kindOf) .empty).isEmpty = false := by
  rw [isEmpty, edges_foldl_connect]
  exact List.isEmpty_eq_false_iff.mpr h

/-- Every name at an end of an edge has the kind that it is given by its name. -/
lemma kind?_foldl_connect (kindOf : String → κ) (es : List Edge) {r : Registry κ}
    (hr : ∀ name kind, r.kind? name = some kind → kind = kindOf name) {name : String}
    (h : (r.kind? name).isSome ∨ name ∈ es.flatMap Edge.ends) :
    (es.foldl (connect kindOf) r).kind? name = some (kindOf name) := by
  induction es generalizing r with
  | nil =>
    obtain ⟨kind, hk⟩ := Option.isSome_iff_exists.mp (by simpa using h)
    rw [List.foldl_nil, hk, hr name kind hk]
  | cons e es ih =>
    have hconnect : ∀ other, (connect kindOf r e).kind? other =
        ((r.kind? other).or (if other = e.source then some (kindOf e.source) else none)).or
          (if other = e.target then some (kindOf e.target) else none) := by
      intro other
      rw [← kind?_register, ← kind?_register]
      rfl
    rw [List.foldl_cons]
    refine ih (fun other kind hk => ?_) ?_
    -- what is registered first under a name stays, and both ends have the kind of their name
    · rw [hconnect, Option.or_eq_some_iff, Option.or_eq_some_iff] at hk
      rcases hk with (hk | ⟨-, hk⟩) | ⟨-, hk⟩
      · exact hr other kind hk
      · split at hk
        · next hn => rw [hn, ← Option.some.inj hk]
        · cases hk
      · split at hk
        · next hn => rw [hn, ← Option.some.inj hk]
        · cases hk
    · rw [hconnect]
      rw [List.flatMap_cons, List.mem_append, Edge.ends] at h
      rcases h with h | h | h
      · simp [h]
      · left
        rcases List.mem_pair.mp h with rfl | rfl <;> simp
      · exact .inr h

end Registry

end JavaUml
