/-
# The blueprint in blocks

The nodes of the blueprint are those of its blocks with their numbers, apart from the order
(`blueprint_perm`): a drawing of edges makes the nodes of the vertices and those of the edges in
turns.  Which blocks there are does not depend on the numbers (`map_snd_items`).

If no two declarations have the same name, then no role is played twice (`nodup_keys`), so that the
node that plays a role is found in the block that says so.
-/
import JavaUml.Proofs.Assembly.Blocks

namespace JavaUml.Assembly

/-! ## Items -/

/-- The nodes that play the roles in some numbered blocks. -/
def castOf (items : List (ℕ × Block)) : Cast := fun role =>
  (items.flatMap fun item => item.2.roles item.1).lookup role

section Items

variable {items : List (ℕ × Block)}

lemma map_fst_flatMap_roles (items : List (ℕ × Block)) :
    (items.flatMap fun item => item.2.roles item.1).map Prod.fst =
      (items.map Prod.snd).flatMap Block.keys := by
  rw [List.map_flatMap, List.flatMap_map]
  exact List.flatMap_congr fun item _ => item.2.map_fst_roles item.1

/-- If no role is played twice, then it is played by the node that a block says. -/
lemma castOf_eq_some_iff (h : ((items.map Prod.snd).flatMap Block.keys).Nodup) {role : Role}
    {id : NodeId} :
    castOf items role = some id ↔ ∃ item ∈ items, (role, id) ∈ item.2.roles item.1 := by
  rw [← map_fst_flatMap_roles] at h
  rw [castOf, Entries.lookup_eq_some_iff_mem h, List.mem_flatMap]

lemma isSome_castOf_iff {role : Role} :
    (castOf items role).isSome ↔ role ∈ (items.map Prod.snd).flatMap Block.keys := by
  rw [← map_fst_flatMap_roles, castOf, List.lookup_isSome_iff]
  simp

/-- If the roles of some blocks are carried to those of others, then so are the nodes that play
them. -/
lemma castOf_eq_map {f : NodeId → NodeId} {items items' : List (ℕ × Block)}
    (hn : ((items.map Prod.snd).flatMap Block.keys).Nodup)
    (hp : ((items.map Prod.snd).flatMap Block.keys).Perm ((items'.map Prod.snd).flatMap Block.keys))
    (h : ∀ item ∈ items, ∃ item' ∈ items',
      item'.2.roles item'.1 = (item.2.roles item.1).map (Prod.map id f)) (role : Role) :
    castOf items' role = (castOf items role).map f := by
  cases hrole : castOf items role with
  | some id =>
    obtain ⟨item, hitem, hmem⟩ := (castOf_eq_some_iff hn).mp hrole
    obtain ⟨item', hitem', hroles⟩ := h item hitem
    refine (castOf_eq_some_iff (hp.nodup_iff.mp hn)).mpr ⟨item', hitem', ?_⟩
    rw [hroles]
    exact List.mem_map_of_mem (f := Prod.map _ f) hmem
  | none =>
    rw [← Option.not_isSome_iff_eq_none, isSome_castOf_iff, hp.mem_iff, ← isSome_castOf_iff,
      Option.not_isSome_iff_eq_none] at hrole
    exact hrole

end Items

/-! ## The blueprint in blocks -/

/-- The blocks of a channel. -/
def channelBlocks (channel : Channel) (es : List Edge) : List Block :=
  if es.isEmpty then []
  else .diagram channel :: ((endNames es).map (.vertex channel) ++ es.map (.edge channel))

/-- The blocks of a model. -/
def blocks (ds : List Declaration) : List Block :=
  .frame :: (ds.map .declaration ++ ((relationships ds).map .relationship ++
    (channelBlocks .trigger (triggers ds) ++ channelBlocks .message (messages ds))))

/-- The strokes for the edges of a channel. -/
def channelStrokes (config : AssemblyConfig) (channel : Channel) (n : ℕ) (es : List Edge) :
    List Stroke :=
  strokes (channel.vertexNode ⟨n + 1⟩) (channel.linkNodes ⟨n + 1⟩)
    (n + (channel.frameNodes config n).length) .empty es

/-- The blocks of a channel with their numbers. -/
def channelItems (config : AssemblyConfig) (channel : Channel) (n : ℕ) (es : List Edge) :
    List (ℕ × Block) :=
  if es.isEmpty then []
  else
    (n, .diagram channel) ::
      ((vertexNumbers (channelStrokes config channel n es)).map
          (fun v => (v.1, .vertex channel v.2)) ++
        (es.zip (channelStrokes config channel n es)).map
          fun pair => (pair.2.start, .edge channel pair.1))

/-- The blocks of a model with their numbers. -/
def items (config : AssemblyConfig) (ds : List Declaration) : List (ℕ × Block) :=
  (config.seed.toNat, .frame) ::
    ((numbers (Declaration.nodes (modelId config)) (config.seed.toNat + 3) ds).map
        (Prod.map id .declaration) ++
      ((numbers (Relationship.nodes (bindings config ds)) (relationshipStart config ds)
          (relationships ds)).map (Prod.map id .relationship) ++
        (channelItems config .trigger (stateMachineStart config ds) (triggers ds) ++
          channelItems config .message (interactionStart config ds) (messages ds))))

/-- The number at which the nodes of a channel begin. -/
def channelStart (config : AssemblyConfig) (ds : List Declaration) : Channel → ℕ
  | .trigger => stateMachineStart config ds
  | .message => interactionStart config ds

/-- The edges of a channel of all annotations in order. -/
def channelEdges (ds : List Declaration) (channel : Channel) : List Edge :=
  RoutedEdge.onChannel channel (ds.flatMap Declaration.links)

lemma channelItems_subset (config : AssemblyConfig) (ds : List Declaration) (channel : Channel) :
    channelItems config channel (channelStart config ds channel) (channelEdges ds channel) ⊆
      items config ds := by
  intro item h
  cases channel with
  | trigger =>
    have htriggers :
        item ∈ channelItems config .trigger (stateMachineStart config ds) (triggers ds) := h
    simp [items, htriggers]
  | message =>
    have hmessages :
        item ∈ channelItems config .message (interactionStart config ds) (messages ds) := h
    simp [items, hmessages]

variable {config : AssemblyConfig} {ds : List Declaration}

lemma map_snd_channelItems (config : AssemblyConfig) (channel : Channel) (n : ℕ)
    (es : List Edge) :
    (channelItems config channel n es).map Prod.snd = channelBlocks channel es := by
  unfold channelItems channelBlocks
  split
  · rfl
  · have hlength : es.length = (channelStrokes config channel n es).length :=
      (forall₂_strokes _ _ _ _ es).length_eq
    have hnames :
        (vertexNumbers (channelStrokes config channel n es)).map Prod.snd = endNames es := by
      rw [channelStrokes, map_snd_vertexNumbers, NameTable.fresh_empty, endNames]
    have hvertices : ((vertexNumbers (channelStrokes config channel n es)).map
        fun v => (v.1, Block.vertex channel v.2)).map Prod.snd =
          (endNames es).map (.vertex channel) := by
      rw [← hnames, List.map_map, List.map_map]
      rfl
    have hedges : ((es.zip (channelStrokes config channel n es)).map
        fun pair => (pair.2.start, Block.edge channel pair.1)).map Prod.snd =
          es.map (.edge channel) := by
      have hzip : (es.zip (channelStrokes config channel n es)).map Prod.fst = es :=
        List.map_fst_zip (Nat.le_of_eq hlength)
      conv_rhs => rw [← hzip]
      rw [List.map_map, List.map_map]
      rfl
    rw [List.map_cons, List.map_append, hvertices, hedges]

lemma map_snd_items (config : AssemblyConfig) (ds : List Declaration) :
    (items config ds).map Prod.snd = blocks ds := by
  simp only [items, blocks, List.map_cons, List.map_append, map_snd_channelItems,
    map_snd_map_numbers]

/-! ### Roles -/

/-- The roles of the nodes of a channel. -/
def channelKeys (channel : Channel) (es : List Edge) : List Role :=
  if es.isEmpty then []
  else .diagram channel :: .owner channel :: (endNames es).map (.vertex channel)

lemma flatMap_keys_channelBlocks (channel : Channel) (es : List Edge) :
    (channelBlocks channel es).flatMap Block.keys = channelKeys channel es := by
  unfold channelBlocks channelKeys
  split
  · rfl
  · simp [List.flatMap_map, Block.keys, ← List.map_eq_flatMap]

lemma flatMap_keys_blocks (ds : List Declaration) :
    (blocks ds).flatMap Block.keys = ds.map (fun d => .classifier d.name) ++
      (channelKeys .trigger (triggers ds) ++ channelKeys .message (messages ds)) := by
  simp [blocks, flatMap_keys_channelBlocks, List.flatMap_map, Block.keys, ← List.map_eq_flatMap]

lemma channel?_of_mem_channelKeys {channel : Channel} {es : List Edge} {role : Role}
    (h : role ∈ channelKeys channel es) : role.channel? = some channel := by
  unfold channelKeys at h
  split at h
  · cases h
  · simp only [List.mem_cons, List.mem_map] at h
    rcases h with rfl | rfl | ⟨name, -, rfl⟩ <;> rfl

lemma nodup_channelKeys (channel : Channel) (es : List Edge) : (channelKeys channel es).Nodup := by
  unfold channelKeys
  split
  · exact .nil
  · have hnames : ((endNames es).map (Role.vertex channel)).Nodup :=
      (nodup_endNames es).map fun _ _ h => by cases h; rfl
    simp [hnames]

/-- If no two declarations have the same name, then no role is played twice. -/
lemma nodup_keys (hn : (ds.map Declaration.name).Nodup) :
    ((blocks ds).flatMap Block.keys).Nodup := by
  have hclassifiers : (ds.map fun d => Role.classifier d.name).Nodup := by
    have hmap := hn.map (f := Role.classifier) fun _ _ h => by cases h; rfl
    rwa [List.map_map] at hmap
  rw [flatMap_keys_blocks, List.nodup_append, List.nodup_append]
  refine ⟨hclassifiers, ⟨nodup_channelKeys _ _, nodup_channelKeys _ _, ?_⟩, ?_⟩
  · -- the roles of the two channels differ in their channel
    rintro role htrigger _ hmessage rfl
    have hchannel := channel?_of_mem_channelKeys htrigger
    rw [channel?_of_mem_channelKeys hmessage] at hchannel
    cases hchannel
  · rintro role hclassifier _ hdiagram rfl
    obtain ⟨d, -, rfl⟩ := List.mem_map.mp hclassifier
    rcases List.mem_append.mp hdiagram with h | h <;> cases channel?_of_mem_channelKeys h

/-- A channel with a vertex has an owner. -/
lemma owner_mem_of_vertex {channel : Channel} {name : String}
    (h : .vertex channel name ∈ blocks ds) :
    Role.owner channel ∈ (blocks ds).flatMap Block.keys := by
  have howner : ∀ {other : Channel} {es : List Edge},
      .vertex channel name ∈ channelBlocks other es →
        Role.owner channel ∈ channelKeys other es := by
    intro other es h
    unfold channelBlocks at h
    unfold channelKeys
    split at h
    · cases h
    · next hes =>
      rw [if_neg hes]
      simp at h
      simp [h.2]
  rw [flatMap_keys_blocks]
  simp only [blocks, List.mem_cons, List.mem_append, List.mem_map, reduceCtorEq, and_false,
    exists_false, false_or] at h
  rcases h with h | h
  · exact List.mem_append_right _ (List.mem_append_left _ (howner h))
  · exact List.mem_append_right _ (List.mem_append_right _ (howner h))

/-! ### Nodes -/

/-- A cast is that of some numbered blocks if it has the nodes that they say. -/
def Cast.Has (cast : Cast) (items : List (ℕ × Block)) : Prop :=
  ∀ item ∈ items, ∀ role id, (role, id) ∈ item.2.roles item.1 → cast role = some id

/-- The nodes of a channel. -/
def channelNodes (config : AssemblyConfig) (channel : Channel) (n : ℕ) (es : List Edge) :
    List Node :=
  if es.isEmpty then []
  else
    channel.frameNodes config n ++
      edgeNodes (channel.vertexNode ⟨n + 1⟩) (channel.linkNodes ⟨n + 1⟩)
        (n + (channel.frameNodes config n).length) .empty es

section Channels

variable {cast : Cast} {channel : Channel} {n : ℕ} {es : List Edge}

lemma owner_eq_of_has (hcast : cast.Has (channelItems config channel n es)) (hes : ¬es.isEmpty) :
    cast (.owner channel) = some ⟨n + 1⟩ := by
  rw [channelItems, if_neg hes] at hcast
  exact hcast _ List.mem_cons_self _ _ (List.mem_cons_of_mem _ List.mem_cons_self)

lemma vertex_eq_of_has (hcast : cast.Has (channelItems config channel n es)) (hes : ¬es.isEmpty)
    {v : ℕ × String} (hv : v ∈ vertexNumbers (channelStrokes config channel n es)) :
    cast (.vertex channel v.2) = some ⟨v.1⟩ := by
  rw [channelItems, if_neg hes] at hcast
  have hitem := List.mem_map_of_mem (f := fun v : ℕ × String => (v.1, Block.vertex channel v.2)) hv
  exact hcast _ (List.mem_cons_of_mem _ (List.mem_append_left _ hitem)) _ _
    (List.mem_singleton_self _)

/-- An edge is drawn between the nodes that play the roles of its ends. -/
lemma nodes_edge_of_has (hcast : cast.Has (channelItems config channel n es)) (hes : ¬es.isEmpty)
    {e : Edge} {s : Stroke} (h : (e, s) ∈ es.zip (channelStrokes config channel n es)) :
    (Block.edge channel e).nodes config cast s.start =
      s.linkNodes (channel.linkNodes ⟨n + 1⟩) := by
  obtain ⟨-, hlabel, hsource, htarget⟩ := List.forall₂_zip (forall₂_strokes _ _ _ _ es) h
  have hend : ∀ name id,
      IsNamed .empty (vertexNumbers (channelStrokes config channel n es)) s.start name id →
        cast (.vertex channel name) = some id := by
    rintro name id (hr | ⟨k, -, hk, rfl⟩)
    · cases hr
    · exact vertex_eq_of_has hcast hes hk
  rw [Block.nodes, owner_eq_of_has hcast hes, hend _ _ hsource, hend _ _ htarget, Stroke.linkNodes,
    hlabel]

/-- The nodes of a channel are those of its blocks. -/
lemma channelNodes_perm (hcast : cast.Has (channelItems config channel n es)) :
    (channelNodes config channel n es).Perm
      ((channelItems config channel n es).flatMap fun item => item.2.nodes config cast item.1) := by
  by_cases hes : es.isEmpty
  · rw [channelNodes, channelItems, if_pos hes, if_pos hes, List.flatMap_nil]
  have hvertices : ((vertexNumbers (channelStrokes config channel n es)).map
      fun v => (v.1, Block.vertex channel v.2)).flatMap
        (fun item => item.2.nodes config cast item.1) =
        (vertexNumbers (channelStrokes config channel n es)).map fun v =>
          channel.vertexNode ⟨n + 1⟩ v.1 v.2 := by
    rw [List.flatMap_map, List.map_eq_flatMap]
    refine List.flatMap_congr fun v _ => ?_
    rw [Block.nodes, owner_eq_of_has hcast hes]
  have hedges : ((es.zip (channelStrokes config channel n es)).map
      fun pair => (pair.2.start, Block.edge channel pair.1)).flatMap
        (fun item => item.2.nodes config cast item.1) =
          (channelStrokes config channel n es).flatMap
            (Stroke.linkNodes (channel.linkNodes ⟨n + 1⟩)) := by
    have hlength : (channelStrokes config channel n es).length ≤ es.length :=
      Nat.le_of_eq (forall₂_strokes _ _ _ _ es).length_eq.symm
    conv_rhs => rw [← List.map_snd_zip hlength]
    rw [List.flatMap_map, List.flatMap_map]
    exact List.flatMap_congr fun pair hpair => nodes_edge_of_has hcast hes hpair
  rw [channelNodes, if_neg hes, channelItems, if_neg hes, List.flatMap_cons, List.flatMap_append,
    hvertices, hedges, edgeNodes_eq, vertexNumbers, List.map_flatMap]
  exact List.Perm.append_left _ (List.flatMap_append_perm _ _ _).symm

end Channels

/-- The classes and interfaces have the numbers of their blocks. -/
lemma entries_eq_map (hf : ds.findSome? Declaration.fault? = none) (owner : NodeId) (n : ℕ) :
    Declaration.entries n ds = (numbers (Declaration.nodes owner) n ds).map fun item =>
      ⟨item.2.name, item.2.kind, ⟨item.1⟩⟩ := by
  induction ds generalizing n with
  | nil => rfl
  | cons d ds ih =>
    rw [List.findSome?_eq_none_iff] at hf
    have hrest := ih (List.findSome?_eq_none_iff.mpr fun e he => hf e (List.mem_cons_of_mem d he))
    rw [Declaration.entries, numbers, Declaration.length_nodes (hf d List.mem_cons_self), hrest]
    rfl

section Blueprint

variable (hf : ds.findSome? Declaration.fault? = none) (hn : (ds.map Declaration.name).Nodup)

include hn in
lemma has_castOf_items (config : AssemblyConfig) :
    (castOf (items config ds)).Has (items config ds) := by
  intro item hitem role id h
  rw [castOf_eq_some_iff]
  · exact ⟨item, hitem, h⟩
  · rw [map_snd_items]
    exact nodup_keys hn

include hf hn in
/-- A name is bound to the node that plays the role of its class. -/
lemma castOf_classifier (config : AssemblyConfig) (name : String) :
    castOf (items config ds) (.classifier name) = (bindings config ds).resolve name := by
  cases hr : (bindings config ds).resolve name with
  | some id =>
    rw [bindings, ClassEntry.resolve_table] at hr
    obtain ⟨entry, hfind, rfl⟩ := Option.map_eq_some_iff.mp hr
    have hentry := List.mem_reverse.mp (List.mem_of_find?_eq_some hfind)
    have hname : entry.name = name := by simpa using List.find?_some hfind
    rw [entries, entries_eq_map hf (modelId config)] at hentry
    obtain ⟨⟨k, d⟩, hitem, rfl⟩ := List.mem_map.mp hentry
    refine has_castOf_items hn config (k, .declaration d) ?_ _ _ ?_
    · exact List.mem_cons_of_mem _ (List.mem_append_left _
        (List.mem_map_of_mem (f := Prod.map id Block.declaration) hitem))
    · rw [← hname]
      exact List.mem_singleton_self _
  | none =>
    rw [← Option.not_isSome_iff_eq_none, isSome_castOf_iff, map_snd_items, flatMap_keys_blocks,
      List.mem_append, List.mem_append]
    rintro (h | h | h)
    · -- a declared name is bound
      obtain ⟨d, hd, he⟩ := List.mem_map.mp h
      have hbound : (bindings config ds).contains d.name = true :=
        contains_bindings_iff.mpr (List.mem_map_of_mem hd)
      cases he
      rw [NameTable.contains, hr] at hbound
      cases hbound
    · cases channel?_of_mem_channelKeys h
    · cases channel?_of_mem_channelKeys h

include hf hn in
/-- The nodes of a model are those of its blocks. -/
lemma blueprint_perm (config : AssemblyConfig) :
    (blueprint config ds).Perm ((items config ds).flatMap fun item =>
      item.2.nodes config (castOf (items config ds)) item.1) := by
  have hcast := has_castOf_items hn config
  have hbound := castOf_classifier hf hn config
  generalize castOf (items config ds) = cast at hcast hbound ⊢
  have hclasses : ((numbers (Declaration.nodes (modelId config)) (config.seed.toNat + 3) ds).map
      (Prod.map id Block.declaration)).flatMap (fun item => item.2.nodes config cast item.1) =
        classNodes config ds := by
    rw [List.flatMap_map, classNodes, upTo_of_findSome?_eq_none hf, chain_eq_flatMap]
    rfl
  have hrelationships : ((numbers (Relationship.nodes (bindings config ds))
      (relationshipStart config ds) (relationships ds)).map
        (Prod.map id Block.relationship)).flatMap (fun item => item.2.nodes config cast item.1) =
          relationshipNodes config ds := by
    rw [List.flatMap_map, relationshipNodes, chain_eq_flatMap]
    refine List.flatMap_congr fun item _ => ?_
    show Block.nodes config cast item.1 (.relationship item.2) = _
    rw [Block.nodes, hbound, hbound, Relationship.nodes, NameTable.resolvePair]
    cases (bindings config ds).resolve item.2.source <;>
      cases (bindings config ds).resolve item.2.target <;> rfl
  have hchannel : ∀ channel n es, channelItems config channel n es ⊆ items config ds →
      (channelNodes config channel n es).Perm
        ((channelItems config channel n es).flatMap fun item => item.2.nodes config cast item.1) :=
    fun channel n es hsub => channelNodes_perm fun item hitem => hcast item (hsub hitem)
  have htriggers := hchannel .trigger _ _ (channelItems_subset config ds .trigger)
  have hmessages := hchannel .message _ _ (channelItems_subset config ds .message)
  rw [items, List.flatMap_cons, List.flatMap_append, List.flatMap_append, List.flatMap_append,
    hclasses, hrelationships]
  exact .append_left (projectNode config :: modelNodes config)
    (.append_left _ (.append_left _ (.append htriggers hmessages)))

include hn in
/-- The diagram of a channel begins where the nodes of the channel begin, if it has edges. -/
lemma castOf_diagram (config : AssemblyConfig) (channel : Channel) :
    castOf (items config ds) (.diagram channel) =
      if (channelEdges ds channel).isEmpty then none
      else some ⟨channelStart config ds channel⟩ := by
  by_cases hes : (channelEdges ds channel).isEmpty
  · rw [if_pos hes, ← Option.not_isSome_iff_eq_none, isSome_castOf_iff, map_snd_items,
      flatMap_keys_blocks, List.mem_append, List.mem_append]
    have hkeys : channelKeys channel (channelEdges ds channel) = [] := if_pos hes
    have hother : ∀ other, Role.diagram channel ∉ channelKeys other (channelEdges ds other) := by
      intro other h
      obtain rfl : channel = other := Option.some.inj (channel?_of_mem_channelKeys h)
      rw [hkeys] at h
      cases h
    rintro (h | h | h)
    · obtain ⟨d, -, he⟩ := List.mem_map.mp h
      cases he
    · exact hother .trigger h
    · exact hother .message h
  · rw [if_neg hes]
    refine has_castOf_items hn config (channelStart config ds channel, .diagram channel)
      (channelItems_subset config ds channel ?_) _ _ List.mem_cons_self
    rw [channelItems, if_neg hes]
    exact List.mem_cons_self

end Blueprint

end JavaUml.Assembly
