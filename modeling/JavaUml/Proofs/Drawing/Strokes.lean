/-
# The strokes of a drawing of edges

Edges are drawn one after the other, and what is drawn for one of them is a stroke: first the nodes
of names that occur for the first time, and then the edge itself between two nodes.  The nodes that
are drawn are those of the strokes in order (`edgeNodes_eq`).

The names that get a node are the different ones in the order in which they first occur
(`map_snd_vertexNumbers`).  There is one stroke for each edge, with its label, and it leads from the
node of its source to the node of its target, which were both made before (`forall₂_strokes`).
-/
import JavaUml.Proofs.Drawing.Edges
import Mathlib.Data.List.Induction
import Mathlib.Data.List.Perm.Basic

namespace JavaUml

/-- The names at the ends of some edges, each once, in the order in which they first occur. -/
def endNames (es : List Edge) : List String := (es.flatMap Edge.ends).eraseDups

lemma nodup_endNames (es : List Edge) : (endNames es).Nodup := nodup_eraseDups _

lemma mem_endNames_iff {es : List Edge} {name : String} :
    name ∈ endNames es ↔ name ∈ es.flatMap Edge.ends := List.mem_eraseDups

/-- The names of edges do not depend on the order of the edges. -/
lemma endNames_perm {es es' : List Edge} (h : es.Perm es') : (endNames es).Perm (endNames es') := by
  rw [List.perm_ext_iff_of_nodup (nodup_endNames es) (nodup_endNames es')]
  intro name
  rw [mem_endNames_iff, mem_endNames_iff, (h.flatMap_right Edge.ends).mem_iff]

/-- What is drawn for an edge: the numbers and the names of the nodes that are made, and the edge
between two nodes with the number at which its own nodes begin. -/
structure Stroke where
  made : List (ℕ × String)
  start : ℕ
  source : NodeId
  target : NodeId
  label : String

section Strokes

variable (vertex : ℕ → String → Node) (link : ℕ → NodeId → NodeId → String → List Node)

/-- The number and the name of the node that looking up a name makes, if it makes one. -/
def newName (n : ℕ) (table : NameTable) (name : String) : List (ℕ × String) :=
  if table.contains name then [] else [(n, name)]

/-- The strokes for edges. -/
def strokes : ℕ → NameTable → List Edge → List Stroke
  | _, _, [] => []
  | n, table, e :: es =>
    let source := meet vertex n table e.source
    let target := meet vertex (n + source.nodes.length) source.table e.target
    let start := n + source.nodes.length + target.nodes.length
    { made := newName n table e.source ++ newName (n + source.nodes.length) source.table e.target
      start, source := source.id, target := target.id, label := e.label } ::
        strokes (start + (link start source.id target.id e.label).length) target.table es

/-- The own nodes of a stroke. -/
def Stroke.linkNodes (s : Stroke) : List Node := link s.start s.source s.target s.label

/-- The nodes of a stroke. -/
def Stroke.nodes (s : Stroke) : List Node :=
  s.made.map (fun v => vertex v.1 v.2) ++ s.linkNodes link

/-- The numbers and names of the nodes that are made for names. -/
def vertexNumbers (ss : List Stroke) : List (ℕ × String) := ss.flatMap Stroke.made

lemma nodes_meet (n : ℕ) (table : NameTable) (name : String) :
    (meet vertex n table name).nodes = (newName n table name).map fun v => vertex v.1 v.2 := by
  unfold meet newName NameTable.contains
  cases table.resolve name <;> rfl

/-- What is drawn are the nodes of the strokes. -/
lemma edgeNodes_eq (n : ℕ) (table : NameTable) (es : List Edge) :
    edgeNodes vertex link n table es =
      (strokes vertex link n table es).flatMap (Stroke.nodes vertex link) := by
  induction es generalizing n table with
  | nil => rfl
  | cons e es ih =>
    simp only [edgeNodes, strokes, List.flatMap_cons, Stroke.nodes, Stroke.linkNodes, ih,
      List.map_append, ← nodes_meet, List.append_assoc]

/-! ## Names -/

lemma map_snd_newName_append (n : ℕ) (table : NameTable) (name : String) (names : List String) :
    (newName n table name).map Prod.snd ++ (meet vertex n table name).table.fresh names =
      table.fresh (name :: names) := by
  unfold newName meet
  cases h : table.resolve name with
  | some id =>
    have hc : table.contains name = true := by simp [NameTable.contains, h]
    rw [if_pos hc, NameTable.fresh_of_contains hc]
    rfl
  | none =>
    have hc : table.contains name = false := by simp [NameTable.contains, h]
    rw [if_neg (by simp [hc]), NameTable.fresh_of_not_contains hc ⟨n⟩]
    rfl

/-- The names that get a node are those that are not in the table, in the order in which they first
occur. -/
lemma map_snd_vertexNumbers (n : ℕ) (table : NameTable) (es : List Edge) :
    (vertexNumbers (strokes vertex link n table es)).map Prod.snd =
      table.fresh (es.flatMap Edge.ends) := by
  induction es generalizing n table with
  | nil => rfl
  | cons e es ih =>
    rw [List.flatMap_cons, Edge.ends, List.cons_append, List.singleton_append,
      ← map_snd_newName_append vertex n, ← map_snd_newName_append vertex
        (n + (meet vertex n table e.source).nodes.length)]
    simp only [vertexNumbers, strokes, List.flatMap_cons, List.map_append] at ih ⊢
    rw [ih, List.append_assoc]

/-! ## Edges -/

/-- A node is the one for a name: it is in the table, or it was made before a number. -/
def IsNamed (table : NameTable) (made : List (ℕ × String)) (before : ℕ) (name : String)
    (id : NodeId) : Prop :=
  table.resolve name = some id ∨ ∃ k < before, (k, name) ∈ made ∧ id = ⟨k⟩

variable {vertex link}

lemma IsNamed.mono {table : NameTable} {made more : List (ℕ × String)} {before later : ℕ}
    {name : String} {id : NodeId} (h : IsNamed table made before name id) (hsub : made ⊆ more)
    (hle : before ≤ later) : IsNamed table more later name id :=
  h.imp_right fun ⟨k, hk, hmem, he⟩ => ⟨k, Nat.lt_of_lt_of_le hk hle, hsub hmem, he⟩

/-- What is in the table after a name was looked up was there before, or it was made. -/
lemma IsNamed.of_meet {n : ℕ} {table : NameTable} {looked name : String}
    {made : List (ℕ × String)} {before : ℕ} {id : NodeId}
    (h : IsNamed (meet vertex n table looked).table made before name id)
    (hle : n + (meet vertex n table looked).nodes.length ≤ before) :
    IsNamed table (newName n table looked ++ made) before name id := by
  rcases h with hr | ⟨k, hk, hmem, he⟩
  · unfold newName NameTable.contains
    unfold meet at hr hle
    cases hl : table.resolve looked with
    | some found =>
      rw [hl] at hr
      exact .inl hr
    | none =>
      rw [hl] at hr hle
      by_cases hn : name = looked
      · subst hn
        rw [NameTable.resolve_bind_self] at hr
        exact .inr ⟨n, hle, by simp, (Option.some.inj hr).symm⟩
      · rw [NameTable.resolve_bind_of_ne _ _ hn] at hr
        exact .inl hr
  · exact .inr ⟨k, hk, List.mem_append_right _ hmem, he⟩

variable (vertex) in
lemma isNamed_meet (n : ℕ) (table : NameTable) (name : String) {before : ℕ} :
    IsNamed (meet vertex n table name).table [] before name (meet vertex n table name).id :=
  .inl (resolve_meet n table name)

lemma le_start {n : ℕ} {table : NameTable} {es : List Edge} {s : Stroke}
    (h : s ∈ strokes vertex link n table es) : n ≤ s.start := by
  induction es generalizing n table with
  | nil => cases h
  | cons e es ih =>
    rcases List.mem_cons.mp h with rfl | h
    · exact Nat.le_trans (Nat.le_add_right _ _) (Nat.le_add_right _ _)
    · have hle := ih h
      omega

variable (vertex link) in
/-- There is a stroke for each edge in order, from the node of its source to the node of its target,
which were made before it. -/
lemma forall₂_strokes (n : ℕ) (table : NameTable) (es : List Edge) :
    List.Forall₂ (fun (e : Edge) (s : Stroke) => s ∈ strokes vertex link n table es ∧
        s.label = e.label ∧
        IsNamed table (vertexNumbers (strokes vertex link n table es)) s.start e.source s.source ∧
        IsNamed table (vertexNumbers (strokes vertex link n table es)) s.start e.target s.target)
      es (strokes vertex link n table es) := by
  induction es generalizing n table with
  | nil => exact .nil
  | cons e es ih =>
    -- both names are in the table when the edge is drawn, and what is in the table afterwards was
    -- there before or was made for one of them
    have hsource := (isNamed_meet vertex n table e.source).of_meet (Nat.le_refl _)
    have htarget := ((isNamed_meet vertex (n + (meet vertex n table e.source).nodes.length)
      (meet vertex n table e.source).table e.target).of_meet (Nat.le_refl _)).of_meet
        (Nat.le_add_right _ _)
    refine .cons ⟨List.mem_cons_self, rfl, hsource.mono ?_ (Nat.le_add_right _ _),
      htarget.mono ?_ (Nat.le_refl _)⟩ ?_
    · simp [vertexNumbers, strokes]
    · simp [vertexNumbers, strokes]
    · refine (ih _ _).imp fun e' s ⟨hmem, hlabel, hs, ht⟩ =>
        ⟨List.mem_cons_of_mem _ hmem, hlabel, ?_, ?_⟩
      all_goals have hstart := le_start hmem
      · have hboth := (hs.of_meet (by omega)).of_meet (by omega)
        simpa [vertexNumbers, strokes] using hboth
      · have hboth := (ht.of_meet (by omega)).of_meet (by omega)
        simpa [vertexNumbers, strokes] using hboth

/-! ## The nodes of some sort -/

variable (vertex link) in
/-- A node that is drawn is the node of a name, or it is one of those of an edge, which are all
drawn. -/
lemma exists_stroke_of_mem {n : ℕ} {table : NameTable} {es : List Edge} {node : Node}
    (h : node ∈ edgeNodes vertex link n table es) :
    (∃ k name, node = vertex k name) ∨
      ∃ s ∈ strokes vertex link n table es, node ∈ s.linkNodes link ∧
        s.linkNodes link ⊆ edgeNodes vertex link n table es := by
  rw [edgeNodes_eq, List.mem_flatMap] at h
  obtain ⟨s, hs, h⟩ := h
  rw [Stroke.nodes, List.mem_append, List.mem_map] at h
  rcases h with ⟨v, -, rfl⟩ | h
  · exact .inl ⟨v.1, v.2, rfl⟩
  · refine .inr ⟨s, hs, h, fun other ho => ?_⟩
    rw [edgeNodes_eq, List.mem_flatMap]
    exact ⟨s, hs, List.mem_append_right _ ho⟩

variable {p : Node → Bool} {n : ℕ} {table : NameTable} {es : List Edge}

/-- What the nodes of names are and those of edges are not picks out the nodes of names. -/
lemma filter_edgeNodes_vertices (hv : ∀ k name, p (vertex k name) = true)
    (hl : ∀ s ∈ strokes vertex link n table es, ∀ node ∈ s.linkNodes link, p node = false) :
    (edgeNodes vertex link n table es).filter p =
      (vertexNumbers (strokes vertex link n table es)).map fun v => vertex v.1 v.2 := by
  rw [edgeNodes_eq, List.filter_flatMap, vertexNumbers, List.map_flatMap]
  refine List.flatMap_congr fun s hs => ?_
  have hmade : (s.made.map fun v => vertex v.1 v.2).filter p = s.made.map fun v => vertex v.1 v.2 :=
    List.filter_eq_self.mpr (List.forall_mem_map.mpr fun v _ => hv v.1 v.2)
  have hlink : (s.linkNodes link).filter p = [] :=
    List.filter_eq_nil_iff.mpr fun node hn => by simp [hl s hs node hn]
  rw [Stroke.nodes, List.filter_append, hmade, hlink, List.append_nil]

/-- What one node of each edge is and the other nodes are not picks out these nodes. -/
lemma filter_edgeNodes_links {first : Stroke → Node} (hv : ∀ k name, p (vertex k name) = false)
    (hl : ∀ s ∈ strokes vertex link n table es, (s.linkNodes link).filter p = [first s]) :
    (edgeNodes vertex link n table es).filter p = (strokes vertex link n table es).map first := by
  rw [edgeNodes_eq, List.filter_flatMap, List.map_eq_flatMap]
  refine List.flatMap_congr fun s hs => ?_
  have hmade : (s.made.map fun v => vertex v.1 v.2).filter p = [] :=
    List.filter_eq_nil_iff.mpr (List.forall_mem_map.mpr fun v _ => by simp [hv])
  rw [Stroke.nodes, List.filter_append, hmade, hl s hs, List.nil_append]

/-! ## Children that were drawn -/

variable {ss : List Stroke} {children : List Node}

/-- The children of a node are in order those for the names that got a node. -/
lemma forall₂_of_vertices {names : List String} {R : String → Node → Prop}
    (hbare : children.map Node.bare = (vertexNumbers ss).map fun v => vertex v.1 v.2)
    (hnames : (vertexNumbers ss).map Prod.snd = names)
    (hR : ∀ v ∈ vertexNumbers ss, ∀ node : Node, node.bare = vertex v.1 v.2 → R v.2 node) :
    List.Forall₂ R names children := by
  have hnodes : List.Forall₂ (fun name bare => ∀ node : Node, node.bare = bare → R name node) names
      (children.map Node.bare) := by
    rw [hbare, ← hnames, List.forall₂_map_left_iff, List.forall₂_map_right_iff, List.forall₂_same]
    exact hR
  exact (List.forall₂_map_right_iff.mp hnodes).imp fun _ node hnode => hnode node rfl

/-- The children of a node are in order those for the edges. -/
lemma forall₂_of_links {first : Stroke → Node} {S : Edge → Stroke → Prop} {R : Edge → Node → Prop}
    (hbare : children.map Node.bare = ss.map first) (hstrokes : List.Forall₂ S es ss)
    (hR : ∀ e s, S e s → ∀ node : Node, node.bare = first s → R e node) :
    List.Forall₂ R es children := by
  have hnodes : List.Forall₂ (fun e bare => ∀ node : Node, node.bare = bare → R e node) es
      (children.map Node.bare) := by
    rw [hbare, List.forall₂_map_right_iff]
    exact hstrokes.imp hR
  exact (List.forall₂_map_right_iff.mp hnodes).imp fun _ node hnode => hnode node rfl

/-- The node of a name that was made before an edge is among the children. -/
lemma exists_of_isNamed
    (hbare : children.map Node.bare = (vertexNumbers ss).map fun v => vertex v.1 v.2)
    (hid : ∀ k name, (vertex k name).id = ⟨k⟩) (hname : ∀ k name, (vertex k name).name = some name)
    {start : ℕ} {name : String} {id : NodeId}
    (h : IsNamed .empty (vertexNumbers ss) start name id) :
    ∃ node ∈ children, node.name = some name ∧ node.id = id ∧ node.id.value < start := by
  rcases h with hr | ⟨k, hk, hmem, rfl⟩
  · cases hr
  · have hdrawn : vertex k name ∈ children.map Node.bare := by
      rw [hbare]
      exact List.mem_map_of_mem (f := fun v : ℕ × String => vertex v.1 v.2) hmem
    obtain ⟨node, hn, he⟩ := List.mem_map.mp hdrawn
    have hnode : node.id = ⟨k⟩ := (congrArg Node.id he).trans (hid k name)
    refine ⟨node, hn, (congrArg Node.name he).trans (hname k name), hnode, ?_⟩
    rw [hnode]
    exact hk

end Strokes

end JavaUml
