/-
# Assemblies of reordered declarations

Declarations may stand in any order, as what they refer to is looked up after all of them were
mapped.  If no two have the same name, then the blocks of the model are the same for every order,
and so are the roles that their nodes play.  What changes are the numbers of the blocks: each block
has a twin in the other model, and one map of identifiers carries the nodes of all blocks to those
of their twins (`exists_twins`).  The two documents are isomorphic by this map
(`assemble_permuted`).
-/
import JavaUml.Proofs.Assembly.Items
import JavaUml.Proofs.Document.Isomorphism

namespace JavaUml.Assembly

variable {config : AssemblyConfig} {ds ds' : List Declaration}

/-! ## What the order does not change -/

section Order

variable (hp : ds.Perm ds')

include hp

lemma relationships_perm : (relationships ds).Perm (relationships ds') :=
  hp.flatMap_right Declaration.relationships

lemma channelEdges_perm (channel : Channel) :
    (channelEdges ds channel).Perm (channelEdges ds' channel) :=
  (hp.flatMap_right Declaration.links).filterMap _

omit hp in
lemma channelBlocks_perm (channel : Channel) {es es' : List Edge} (h : es.Perm es') :
    (channelBlocks channel es).Perm (channelBlocks channel es') := by
  unfold channelBlocks
  rw [h.isEmpty_eq]
  split
  · exact .refl _
  · exact .cons _ (.append ((endNames_perm h).map _) (h.map _))

lemma blocks_perm : (blocks ds).Perm (blocks ds') :=
  .cons _ (.append (hp.map _) (.append ((relationships_perm hp).map _)
    (.append (channelBlocks_perm _ (channelEdges_perm hp .trigger))
      (channelBlocks_perm _ (channelEdges_perm hp .message)))))

lemma findSome?_fault?_perm : ds.findSome? Declaration.fault? = none ↔
    ds'.findSome? Declaration.fault? = none := by
  rw [List.findSome?_eq_none_iff, List.findSome?_eq_none_iff]
  constructor
  · intro h d hd
    exact h d (hp.mem_iff.mpr hd)
  · intro h d hd
    exact h d (hp.mem_iff.mp hd)

/-- The number of nodes does not depend on the order. -/
lemma nodeCount_perm : nodeCount ds = nodeCount ds' := by
  have hdeclared : ∀ {rs rs' : List Relationship}, rs.Perm rs' →
      rs.countP (IsDeclared ds ·) = rs'.countP (IsDeclared ds' ·) := by
    intro rs rs' hrs
    refine hrs.countP_congr fun r _ => ?_
    rw [decide_eq_decide, IsDeclared, IsDeclared, (hp.map _).mem_iff, (hp.map _).mem_iff]
  have hsupertypes : (supertypes ds).countP (IsDeclared ds ·) =
      (supertypes ds').countP (IsDeclared ds' ·) := hdeclared (hp.flatMap_right _)
  have haggregations : (aggregations ds).countP (IsDeclared ds ·) =
      (aggregations ds').countP (IsDeclared ds' ·) := hdeclared (hp.flatMap_right _)
  have hsizes := (hp.map fun d : Declaration => 1 + d.fields.length +
    (d.methods.map fun m => 2 + m.parameters.length).sum).sum_eq
  have htriggers : (triggers ds).Perm (triggers ds') := channelEdges_perm hp .trigger
  have hmessages : (messages ds).Perm (messages ds') := channelEdges_perm hp .message
  have hnames : ∀ {es es' : List Edge}, es.Perm es' →
      (es.flatMap Edge.ends).eraseDups.length = (es'.flatMap Edge.ends).eraseDups.length :=
    fun h => (endNames_perm h).length_eq
  rw [nodeCount, nodeCount, hsizes, hsupertypes, haggregations, htriggers.length_eq,
    hmessages.length_eq, hnames htriggers, hnames hmessages]

end Order

/-! ## Twins -/

/-- A block and its twin in the model of other declarations: the same block, with nodes that are
carried to each other. -/
def IsTwin (config : AssemblyConfig) (ds ds' : List Declaration) (f : NodeId → NodeId)
    (item twin : ℕ × Block) : Prop :=
  item.2 = twin.2 ∧ Carries f (item.2.nodes config (castOf (items config ds)) item.1)
    (twin.2.nodes config (castOf (items config ds')) twin.1)

lemma isSome_castOf_perm (hp : ds.Perm ds') (role : Role) :
    (castOf (items config ds') role).isSome = (castOf (items config ds) role).isSome := by
  rw [Bool.eq_iff_iff, isSome_castOf_iff, isSome_castOf_iff, map_snd_items, map_snd_items,
    ((blocks_perm hp).flatMap_right Block.keys).mem_iff]

/-- The blocks of reordered declarations are twins of each other. -/
lemma exists_twins (hf : ds.findSome? Declaration.fault? = none)
    (hn : (ds.map Declaration.name).Nodup) (hp : ds.Perm ds')
    (hids : ((blueprint config ds).map Node.id).Nodup) :
    ∃ (f : NodeId → NodeId) (twins : List (ℕ × Block)), twins.Perm (items config ds') ∧
      List.Forall₂ (IsTwin config ds ds' f) (items config ds) twins := by
  have hblocks : ((items config ds).map Prod.snd).Perm ((items config ds').map Prod.snd) := by
    rw [map_snd_items, map_snd_items]
    exact blocks_perm hp
  rw [((blueprint_perm hf hn config).map Node.id).nodup_iff] at hids
  exact exists_carries (fun n b => b.nodes config (castOf (items config ds)) n)
    (fun n b => b.nodes config (castOf (items config ds')) n) hblocks
    (fun b n n' => b.length_nodes_eq (isSome_castOf_perm hp) n n') hids

section Twins

variable {f : NodeId → NodeId} {twins : List (ℕ × Block)}

/-- The project and the model have the same identifiers for every order. -/
lemma frame_of_twins (h : List.Forall₂ (IsTwin config ds ds' f) (items config ds) twins) :
    f (projectId config) = projectId config ∧ f (modelId config) = modelId config := by
  obtain ⟨twin, -, hsame, hcarries⟩ := exists_of_forall₂ h
    (show (config.seed.toNat, Block.frame) ∈ items config ds from List.mem_cons_self)
  rw [← hsame] at hcarries
  obtain ⟨hproject, hcarries⟩ := Carries.cons_iff.mp hcarries
  exact ⟨hproject.symm, (Carries.cons_iff.mp hcarries).1.symm⟩

/-- Every role is played by the node that is carried to. -/
lemma castOf_of_twins (hn : (ds.map Declaration.name).Nodup) (hp : ds.Perm ds')
    (htwins : twins.Perm (items config ds'))
    (h : List.Forall₂ (IsTwin config ds ds' f) (items config ds) twins) (role : Role) :
    castOf (items config ds') role = (castOf (items config ds) role).map f := by
  refine castOf_eq_map ?_ ?_ (fun item hitem => ?_) role
  · rw [map_snd_items]
    exact nodup_keys hn
  · rw [map_snd_items, map_snd_items]
    exact (blocks_perm hp).flatMap_right Block.keys
  · obtain ⟨twin, htwin, hsame, hcarries⟩ := exists_of_forall₂ h hitem
    refine ⟨twin, htwins.mem_iff.mp htwin, ?_⟩
    rw [← hsame] at hcarries ⊢
    refine Block.roles_eq (fun channel name hvertex => ?_) (isSome_castOf_perm hp) hcarries
    -- where there is a vertex, there is a diagram
    have hmem : .vertex channel name ∈ blocks ds := by
      rw [← hvertex, ← map_snd_items config]
      exact List.mem_map_of_mem hitem
    rw [isSome_castOf_iff, map_snd_items]
    exact owner_mem_of_vertex hmem

/-- The blueprint of reordered declarations is the same in some order, under other identifiers. -/
lemma blueprint_of_twins (hf : ds.findSome? Declaration.fault? = none)
    (hn : (ds.map Declaration.name).Nodup) (hp : ds.Perm ds')
    (htwins : twins.Perm (items config ds'))
    (h : List.Forall₂ (IsTwin config ds ds' f) (items config ds) twins) :
    (blueprint config ds').Perm ((blueprint config ds).map (Node.relabel f)) := by
  have hf' := (findSome?_fault?_perm hp).mp hf
  have hn' := (hp.map Declaration.name).nodup_iff.mp hn
  obtain ⟨hproject, hmodel⟩ := frame_of_twins h
  have hcast := castOf_of_twins hn hp htwins h
  have hnodes : (twins.flatMap fun twin =>
        twin.2.nodes config (castOf (items config ds')) twin.1) =
      ((items config ds).flatMap fun item =>
        item.2.nodes config (castOf (items config ds)) item.1).map (Node.relabel f) := by
    refine flatMap_eq_map_of_forall₂ (h.imp ?_)
    rintro item twin ⟨hsame, hcarries⟩
    rw [← hsame] at hcarries ⊢
    exact item.2.nodes_eq hproject hmodel hcast item.1 twin.1 hcarries
  refine (blueprint_perm hf' hn' config).trans ((htwins.symm.flatMap_right _).trans ?_)
  rw [hnodes]
  exact ((blueprint_perm hf hn config).map _).symm

end Twins

/-! ## Assemblies -/

/-- A map of identifiers makes an assembly into another one that says the same. -/
structure Isomorphism (f : NodeId → NodeId) (a a' : Assembly) : Prop where
  document : Document.Isomorphism f a.document a'.document
  model : a'.model = f a.model
  stateMachine : a'.stateMachine = a.stateMachine.map f
  collaboration : a'.collaboration = a.collaboration.map f
  resolved : a'.resolved = a.resolved
  diagnostics : a'.diagnostics.Perm a.diagnostics

/-- Declarations can be assembled if and only if they can be in any other order.  If no two of them
have the same name, then the assemblies differ only in identifiers and in the order of children and
diagnostics. -/
theorem assemble_permuted (config : AssemblyConfig) {ds ds' : List Declaration}
    (hn : (ds.map Declaration.name).Nodup) (hp : ds.Perm ds') :
    ((∃ a, assemble config ds = .ok a) ↔ ∃ a', assemble config ds' = .ok a') ∧
    ∀ a a', assemble config ds = .ok a → assemble config ds' = .ok a' →
      ∃ f, Isomorphism f a a' := by
  have hok : ∀ {es es' : List Declaration}, es.Perm es' → (∃ a, assemble config es = .ok a) →
      ∃ a', assemble config es' = .ok a' := by
    rintro es es' hperm ⟨a, ha⟩
    obtain ⟨hf, hroom⟩ := nodeCount_le_of_ok ha
    rw [nodeCount_perm hperm] at hroom
    obtain ⟨a', ha', -⟩ := assemble_of_nodeCount_le ((findSome?_fault?_perm hperm).mp hf) hroom
    exact ⟨a', ha'⟩
  refine ⟨⟨hok hp, hok hp.symm⟩, fun a a' ha ha' => ?_⟩
  obtain ⟨hf, hfollows⟩ := follows_of_ok ha
  obtain ⟨hf', hfollows'⟩ := follows_of_ok ha'
  obtain ⟨model, diagrams, hdraws⟩ := exists_draws_of_ok ha
  obtain ⟨model', diagrams', hdraws'⟩ := exists_draws_of_ok ha'
  have hn' := (hp.map Declaration.name).nodup_iff.mp hn
  obtain ⟨f, twins, htwins, h⟩ := exists_twins hf hn hp
    (hdraws.outline ▸ hdraws.sound.nodup_ids)
  have hcast := castOf_of_twins hn hp htwins h
  have hblueprint := blueprint_of_twins hf hn hp htwins h
  have hbindings : (bindings config ds).Relabels f (bindings config ds') := by
    intro name
    rw [← castOf_classifier hf hn, ← castOf_classifier hf' hn', hcast]
  refine ⟨f, ?_, ?_, ?_, ?_, ?_, ?_⟩
  · -- names are replaced in both outlines, which other identifiers do not change
    refine .of_outline hfollows.sound hfollows'.sound ?_
    have hresolved := hblueprint.map (Node.resolve (bindings config ds'))
    rw [List.map_map] at hresolved
    rw [hfollows.outline, hfollows'.outline, List.map_map]
    refine hresolved.trans (.of_eq (List.map_congr_left fun node _ => ?_))
    exact Node.resolve_relabel hbindings node
  · rw [hfollows.model, hfollows'.model, (frame_of_twins h).2]
  · have hdiagram := hcast (.diagram .trigger)
    rw [castOf_diagram hn, castOf_diagram hn'] at hdiagram
    rw [hfollows.stateMachine, hfollows'.stateMachine]
    exact hdiagram
  · have hdiagram := hcast (.diagram .message)
    rw [castOf_diagram hn, castOf_diagram hn'] at hdiagram
    rw [hfollows.collaboration, hfollows'.collaboration]
    exact hdiagram
  · rw [hdraws.resolved_eq_sum, hdraws'.resolved_eq_sum, (hblueprint.map _).sum_eq, List.map_map]
    exact congrArg List.sum
      (List.map_congr_left fun node _ => Node.resolvableCount_relabel hbindings node)
  · rw [hdraws.diagnostics, hdraws'.diagnostics, unresolved, unresolved]
    refine ((relationships_perm hp.symm).flatMap_right _).trans (.of_eq ?_)
    exact List.flatMap_congr fun r _ => Relationship.unresolved_relabel hbindings config.reporting r

/-- Two declarations that refer to each other, with states that both mention and a name that is not
declared. -/
theorem assemble_permuted_of_mutual_references :
    let config : AssemblyConfig := { seed := 5, reporting := true }
    let d : Declaration :=
      { kind := .classType, name := "A", interfaces := ["B", "C"]
        members := [.field ⟨"f", [], .named "B"⟩, .method ⟨"m", [], .named "void", [],
          [.single .trigger ⟨"s", .one "t"⟩, .single .message ⟨"p", .one "q"⟩]⟩] }
    let e : Declaration :=
      { kind := .interfaceType, name := "B"
        members := [.method ⟨"n", [], .named "A", [],
          [.single .trigger ⟨"t", .many ["u", "s"]⟩]⟩] }
    ([d, e].map Declaration.name).Nodup ∧ [d, e].Perm [e, d] ∧
      ∃ a a' f, assemble config [d, e] = .ok a ∧ assemble config [e, d] = .ok a' ∧
        Isomorphism f a a' := by
  intro config d e
  have hn : ([d, e].map Declaration.name).Nodup := by decide
  have hp : [d, e].Perm [e, d] := .swap e d []
  obtain ⟨a, ha, -⟩ := @assemble_of_nodeCount_le config [d, e] (by decide) (by decide)
  obtain ⟨hiff, hiso⟩ := assemble_permuted config hn hp
  obtain ⟨a', ha'⟩ := hiff.mp ⟨a, ha⟩
  obtain ⟨f, hf⟩ := hiso a a' ha ha'
  exact ⟨hn, hp, a, a', f, ha, ha', hf⟩

end JavaUml.Assembly
