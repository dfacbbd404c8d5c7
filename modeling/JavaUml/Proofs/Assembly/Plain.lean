/-
# Assemblies of plain declarations

An assembly reads annotations for the edges on each of the two channels only.  So declarations and
their plain forms are mapped alike, apart from the order in which the edges of different channels
are met (`Mapping.agree_mapAll_plain`), and the assemblies are the same (`assemble_plain`).
-/
import JavaUml.Proofs.Annotation.Plain
import JavaUml.Proofs.Assembly.Outcome
import JavaUml.Proofs.Drawing.Agree

namespace JavaUml

/-! ## Mapping -/

/-- Two lists of edges are the same on each channel. -/
def RoutedEdge.SameOnChannels (es es' : List RoutedEdge) : Prop :=
  ∀ channel, onChannel channel es = onChannel channel es'

lemma RoutedEdge.SameOnChannels.append {es es' more more' : List RoutedEdge}
    (h : SameOnChannels es es') (hmore : SameOnChannels more more') :
    SameOnChannels (es ++ more) (es' ++ more') := by
  intro channel
  rw [onChannel_append, onChannel_append, h channel, hmore channel]

namespace Mapping

open RoutedEdge (SameOnChannels)

lemma agree_mapMethod_plain (className : String) (classNode : NodeId) (m : Method) :
    Agree Eq SameOnChannels (mapMember className classNode (.method m))
      (mapMember className classNode (.method m.plain)) := by
  have hmap : mapMember className classNode (.method m.plain) =
      draw (drawMethod classNode m) >>= fun _ => outcome (annotationEdges m.plain) := rfl
  rw [hmap]
  refine (Agree.refl (draw (drawMethod classNode m))).bind fun _ _ _ => .outcome ?_
  intro es es' he he' channel
  rw [Method.annotationEdges_eq] at he he'
  rw [eq_of_barring he, eq_of_barring he', Method.onChannel_links_plain]

/-- Members without content make nothing. -/
lemma agree_mapMembers_plain (className : String) (classNode : NodeId) (members : List Member) :
    Agree Eq (fun es es' => SameOnChannels es.flatten es'.flatten)
      (members.mapM (mapMember className classNode))
      ((members.filterMap Member.plain?).mapM (mapMember className classNode)) := by
  induction members with
  | nil => exact .pure fun _ => rfl
  | cons member members ih =>
    rw [List.mapM_cons]
    cases member with
    | field f =>
      simp only [List.filterMap_cons, Member.plain?]
      rw [List.mapM_cons]
      refine (Agree.refl _).bind ?_
      rintro es _ rfl
      refine ih.bind fun ess ess' h => .pure ?_
      exact .append (fun _ => rfl) h
    | method m =>
      simp only [List.filterMap_cons, Member.plain?]
      rw [List.mapM_cons]
      refine (agree_mapMethod_plain className classNode m).bind fun es es' he => ?_
      exact ih.bind fun ess ess' h => .pure (he.append h)
    | other =>
      simp only [List.filterMap_cons, Member.plain?]
      have hnothing : mapMember className classNode .other = pure [] := rfl
      rw [hnothing, pure_bind, ← bind_pure (List.mapM _ (List.filterMap _ _))]
      exact ih.bind fun ess ess' h => .pure h

lemma agree_mapDeclaration_plain (owner : NodeId) (d : Declaration) :
    Agree Eq (fun mapped mapped' => SameOnChannels mapped.edges mapped'.edges)
      (mapDeclaration owner d) (mapDeclaration owner d.plain) := by
  refine (Agree.refl (draw (Drawing.attach owner .ownedElements d.draft))).bind ?_
  rintro id _ rfl
  refine (Agree.refl (store (·.addClass ⟨d.name, d.kind, id⟩))).bind fun _ _ _ => ?_
  refine (Agree.refl (store (·.addRelationships d.supertypes))).bind fun _ _ _ => ?_
  exact (agree_mapMembers_plain d.name id d.members).bind fun es es' h => .pure h

lemma agree_mapAll_plain (model : NodeId) (ds : List Declaration) :
    Agree Eq SameOnChannels (Assembly.mapAll model ds)
      (Assembly.mapAll model (ds.map Declaration.plain)) := by
  have hloop : (ds.map Declaration.plain).mapM (mapDeclaration model) =
      ds.mapM fun d => mapDeclaration model d.plain :=
    List.mapM_map
  unfold Assembly.mapAll
  rw [hloop]
  refine (Agree.mapM (agree_mapDeclaration_plain model) ds).bind fun mapped mapped' h => .pure ?_
  induction h with
  | nil => exact fun _ => rfl
  | cons hd _ ih =>
    rw [List.flatMap_cons, List.flatMap_cons]
    exact .append hd ih

end Mapping

/-! ## Assemblies -/

namespace Assembly

lemma agree_steps_plain (config : AssemblyConfig) (ds : List Declaration) :
    Agree Eq Eq (steps config ds) (steps config (ds.map Declaration.plain)) := by
  refine (Agree.refl _).bind ?_
  rintro model _ rfl
  refine (Mapping.agree_mapAll_plain model ds).bind fun es es' h => ?_
  have hdiagrams : ∀ classes, drawDiagrams config classes es = drawDiagrams config classes es' := by
    intro classes
    unfold drawDiagrams
    rw [h .trigger, h .message]
  simp only [hdiagrams]
  exact .refl _

lemma onChannel_links_map_plain (channel : Channel) (ds : List Declaration) :
    RoutedEdge.onChannel channel ((ds.map Declaration.plain).flatMap Declaration.links) =
      RoutedEdge.onChannel channel (ds.flatMap Declaration.links) := by
  induction ds with
  | nil => rfl
  | cons d ds ih =>
    rw [List.map_cons, List.flatMap_cons, List.flatMap_cons, RoutedEdge.onChannel_append,
      RoutedEdge.onChannel_append, Declaration.onChannel_links_plain, ih]

/-- Plain declarations have as many nodes. -/
lemma nodeCount_plain (ds : List Declaration) :
    nodeCount (ds.map Declaration.plain) = nodeCount ds := by
  have hmembers : ∀ d : Declaration, 1 + d.plain.fields.length +
        (d.plain.methods.map fun m => 2 + m.parameters.length).sum =
      1 + d.fields.length + (d.methods.map fun m => 2 + m.parameters.length).sum := by
    intro d
    rw [d.fields_plain, d.methods_plain, List.map_map]
    rfl
  have hsupertypes : supertypes (ds.map Declaration.plain) = supertypes ds :=
    List.flatMap_map _ _ ds
  have haggregations : aggregations (ds.map Declaration.plain) = aggregations ds := by
    rw [aggregations, List.flatMap_map]
    simp only [Declaration.fields_plain]
    rfl
  have hdeclared : ∀ rs : List Relationship,
      rs.countP (IsDeclared (ds.map Declaration.plain) ·) = rs.countP (IsDeclared ds ·) := by
    intro rs
    have hnames : (ds.map Declaration.plain).map Declaration.name = ds.map Declaration.name :=
      List.map_map
    refine List.countP_congr fun r _ => ?_
    rw [decide_eq_true_iff, decide_eq_true_iff, IsDeclared, IsDeclared, hnames]
  have htriggers : triggers (ds.map Declaration.plain) = triggers ds :=
    onChannel_links_map_plain .trigger ds
  have hmessages : messages (ds.map Declaration.plain) = messages ds :=
    onChannel_links_map_plain .message ds
  rw [nodeCount, nodeCount, hsupertypes, haggregations, hdeclared, hdeclared, htriggers, hmessages,
    List.map_map]
  simp only [Function.comp_def, hmembers]

/-- If declarations can be assembled, then their plain forms can, and the assembly is the same. -/
theorem assemble_plain {config : AssemblyConfig} {ds : List Declaration} {a : Assembly}
    (h : assemble config ds = .ok a) : assemble config (ds.map Declaration.plain) = .ok a := by
  obtain ⟨hf, hroom⟩ := nodeCount_le_of_ok h
  have hplain : (ds.map Declaration.plain).findSome? Declaration.fault? = none := by
    rw [List.findSome?_eq_none_iff] at hf ⊢
    intro d hd
    obtain ⟨e, he, rfl⟩ := List.mem_map.mp hd
    exact Declaration.fault?_plain (hf e he)
  rw [← nodeCount_plain] at hroom
  obtain ⟨a', ha', -⟩ := assemble_of_nodeCount_le hplain hroom
  -- both come from runs of the steps in the same document
  obtain ⟨doc, hnew, -⟩ := exists_new config
  obtain ⟨result, model, hrun, hresult⟩ := exists_run_of_ok hnew h
  obtain ⟨result', model', hrun', hresult'⟩ := exists_run_of_ok hnew ha'
  obtain ⟨rfl, rfl⟩ := agree_steps_plain config ds rfl hrun hrun'
  rw [ha', ← hresult', hresult]

/-- A message before a group of triggers, one of them with two targets and one without any. -/
theorem assemble_plain_of_group :
    let m (annotations : List Annotation) : Member :=
      .method ⟨"m", [], .named "void", [⟨"x", .named "A"⟩], annotations⟩
    let ds (members : List Member) : List Declaration :=
      [{ kind := .classType, name := "A", members }]
    let grouped := ds [.other, m [.single .message ⟨"a", .one "b"⟩,
      .group .trigger [⟨"s", .many ["t", "u"]⟩, ⟨"t", .many []⟩, ⟨"u", .one "s"⟩]]]
    let plain := ds [m [.single .trigger ⟨"s", .one "t"⟩, .single .trigger ⟨"s", .one "u"⟩,
      .single .trigger ⟨"u", .one "s"⟩, .single .message ⟨"a", .one "b"⟩]]
    ∃ a, assemble {} grouped = .ok a ∧ assemble {} plain = .ok a := by
  intro m ds grouped plain
  obtain ⟨a, ha, -⟩ := @assemble_of_nodeCount_le {} grouped (by decide) (by decide)
  have hplain : grouped.map Declaration.plain = plain := by decide
  rw [← hplain]
  exact ⟨a, ha, assemble_plain ha⟩

end Assembly

end JavaUml
