/-
# Further declarations

What is assembled from some declarations remains when further declarations follow them
(`assemble_extended`).  The nodes of the frame and of the first declarations come before everything
that depends on the further ones, so that they keep their identifiers and all their fields but the
types.  A type stays as well, unless the further declarations have a class or interface with its
text as name: then it is a reference to the last of these.

All that comes later is made after the further declarations, and has other identifiers.  But its
contents remain in order: the relationships that were drawn are still drawn, between others of them,
and the vertices and lifelines come first.
-/
import JavaUml.Proofs.Annotation.Plain
import JavaUml.Proofs.Assembly.Contents

namespace JavaUml

/-! ## The types of fields -/

/-- In a list of fields the type is a name, and it is the only one. -/
def FieldList.IsTyped (fields : FieldList) : Prop :=
  ∀ field ∈ fields, (field.1 = "type" → ∃ text, field.2 = .symbol text) ∧
    (field.1 ≠ "type" → field.2.IsSettled)

namespace FieldList.IsTyped

lemma append {fields more : FieldList} (h : fields.IsTyped) (hmore : more.IsTyped) :
    IsTyped (fields ++ more) := by
  intro field hf
  rcases List.mem_append.mp hf with hf | hf
  · exact h field hf
  · exact hmore field hf

lemma flagField {key : String} (hkey : key ≠ "type") (present : Bool) :
    IsTyped (flagField key present) := by
  cases present <;> simp [JavaUml.flagField, IsTyped, hkey, Value.IsSettled]

lemma visibilityField (modifiers : List String) : IsTyped (visibilityField modifiers) := by
  unfold JavaUml.visibilityField
  split <;> simp [IsTyped, Value.IsSettled]

lemma typeField (t : TypeRef) : IsTyped [typeField t] := by
  simp [IsTyped, JavaUml.typeField]

/-- The other fields do not change when names are replaced. -/
lemma filter_resolve {fields : FieldList} (h : fields.IsTyped) (table : NameTable) :
    (fields.map fun field => (field.1, field.2.resolve table)).filter
        (fun field => field.1 ≠ "type") =
      fields.filter fun field => field.1 ≠ "type" := by
  rw [List.filter_map]
  refine (List.map_congr_left fun field hf => ?_).trans (List.map_id _)
  obtain ⟨hmem, hkey⟩ := List.mem_filter.mp hf
  rw [((h field hmem).2 (by simpa using hkey)).resolve table]
  rfl

/-- The type is the name replaced. -/
lemma lookup_resolve {fields : FieldList} (h : fields.IsTyped) (table : NameTable) :
    (fields.map fun field => (field.1, field.2.resolve table)).lookup "type" =
      (fields.lookup "type").map (Value.resolve table) ∧
    ∀ value, fields.lookup "type" = some value → ∃ text, value = .symbol text := by
  induction fields with
  | nil => exact ⟨rfl, nofun⟩
  | cons field fields ih =>
    obtain ⟨key, value⟩ := field
    have hhead := h _ List.mem_cons_self
    have hrest := ih fun other ho => h other (List.mem_cons_of_mem _ ho)
    rw [List.map_cons, List.lookup_cons, List.lookup_cons]
    cases hkey : "type" == key with
    | true =>
      refine ⟨rfl, ?_⟩
      rintro _ ⟨⟩
      exact hhead.1 (eq_of_beq hkey).symm
    | false => exact hrest

end FieldList.IsTyped

lemma Declaration.isTyped_of_mem_nodes {owner : NodeId} {n : ℕ} {d : Declaration} {node : Node}
    (h : node ∈ d.nodes owner n) : node.fields.IsTyped := by
  rcases List.mem_cons.mp h with rfl | h
  · exact .flagField (by decide) _
  · obtain ⟨member, -, k, -, hm, -⟩ := exists_of_mem_chain h
    rcases Member.cases_of_mem_nodes hm with ⟨f, rfl⟩ | ⟨m, rfl⟩ | ⟨t, rfl⟩ | ⟨p, i, rfl⟩
    · exact ((FieldList.IsTyped.visibilityField _).append (.flagField (by decide) _)).append
        (.typeField f.type)
    · exact ((FieldList.IsTyped.visibilityField _).append (.flagField (by decide) _)).append
        (.flagField (by decide) _)
    · exact (FieldList.IsTyped.typeField t).append (by simp [FieldList.IsTyped, Value.IsSettled])
    · exact .typeField p.type

namespace Assembly

variable {config : AssemblyConfig} {ds es : List Declaration} {a a' : Assembly}

lemma findSome?_fault?_of_append (hf : (ds ++ es).findSome? Declaration.fault? = none) :
    ds.findSome? Declaration.fault? = none := by
  rw [List.findSome?_append, Option.or_eq_none_iff] at hf
  exact hf.1

/-! ## The last declaration with a name -/

/-- If a name is declared, then there is a last declaration that has it. -/
lemma exists_last_of_mem {name : String} (h : name ∈ es.map Declaration.name) :
    ∃ before e after, es = before ++ e :: after ∧ e.name = name ∧
      ∀ later ∈ after, later.name ≠ name := by
  induction es using List.reverseRecOn with
  | nil => cases h
  | append_singleton es e ih =>
    by_cases he : e.name = name
    · exact ⟨es, e, [], rfl, he, nofun⟩
    · have hes : name ∈ es.map Declaration.name := by
        simpa [Ne.symm he] using h
      obtain ⟨before, first, after, rfl, hfirst, hafter⟩ := ih hes
      refine ⟨before, first, after ++ [e], by simp, hfirst, fun later hl => ?_⟩
      rcases List.mem_append.mp hl with hl | hl
      · exact hafter later hl
      · rwa [List.mem_singleton.mp hl]

lemma entries_append (config : AssemblyConfig) (ds es : List Declaration) :
    ∃ n, entries config (ds ++ es) = entries config ds ++ Declaration.entries n es := by
  have happend : ∀ n, ∃ m, Declaration.entries n (ds ++ es) =
      Declaration.entries n ds ++ Declaration.entries m es := by
    induction ds with
    | nil => exact fun n => ⟨n, rfl⟩
    | cons d ds ih =>
      intro n
      obtain ⟨m, hm⟩ := ih (n + d.size)
      exact ⟨m, congrArg (List.cons _) hm⟩
  exact happend _

/-- A name that the further declarations do not have stands for what it stood for. -/
lemma resolve_bindings_append {name : String} (h : name ∉ es.map Declaration.name) :
    (bindings config (ds ++ es)).resolve name = (bindings config ds).resolve name := by
  obtain ⟨n, hentries⟩ := entries_append config ds es
  have hnames := Declaration.map_entries (fun _ name => name) n es
  have hnone :
      ((Declaration.entries n es).reverse.find? fun entry => entry.name = name) = none := by
    rw [List.find?_eq_none]
    intro entry hentry he
    refine h ?_
    rw [← hnames, ← of_decide_eq_true he]
    exact List.mem_map_of_mem (f := ClassEntry.name) (List.mem_reverse.mp hentry)
  rw [bindings, bindings, ClassEntry.resolve_table, ClassEntry.resolve_table, hentries,
    List.reverse_append, List.find?_append, hnone, Option.none_or]

/-- The last declaration with a name is the one for which the name stands. -/
lemma Follows.lastNamed_of_last (h : Follows config ds a)
    (hf : ds.findSome? Declaration.fault? = none) {before after : List Declaration}
    {d : Declaration} (hds : ds = before ++ d :: after)
    (hlast : ∀ later ∈ after, later.name ≠ d.name) :
    ∃ node, a.classifiers[before.length]? = some node ∧ a.lastNamed d.name = some node := by
  have hnames := congrArg (List.map fun triple => triple.2.2) (h.map_classifiers hf)
  rw [List.map_map, List.map_map] at hnames
  have hdeclared := hnames.trans (Declaration.map_entries (fun _ name => some name) _ ds)
  rw [hds, List.map_append, List.map_cons, List.map_eq_append_iff] at hdeclared
  obtain ⟨nodes, rest, hsplit, hbefore, hrest⟩ := hdeclared
  obtain ⟨node, later, rfl, hnode, hafter⟩ := List.map_eq_cons_iff.mp hrest
  have hlength : nodes.length = before.length := by simpa using congrArg List.length hbefore
  have hnone : (later.reverse.find? fun node => node.name = some d.name) = none := by
    rw [List.find?_eq_none]
    intro other ho hother
    have hmem : other.name ∈ later.map ((fun triple => triple.2.2) ∘
        fun node : Node => (node.id, node.kind, node.name)) :=
      List.mem_map_of_mem (f := Node.name) (List.mem_reverse.mp ho)
    rw [hafter, of_decide_eq_true hother] at hmem
    obtain ⟨e, he, hname⟩ := List.mem_map.mp hmem
    exact hlast e he (Option.some.inj hname)
  refine ⟨node, by rw [hsplit, ← hlength]; simp, ?_⟩
  rw [lastNamed, hsplit, List.reverse_append, List.reverse_cons, List.append_assoc,
    List.find?_append, hnone, Option.none_or]
  exact List.find?_cons_of_pos (by simpa using hnode)

/-! ## The nodes that remain -/

/-- The nodes of the frame and of the declarations are made in the same way when further
declarations follow. -/
lemma mem_blueprint_append (hf : (ds ++ es).findSome? Declaration.fault? = none) {node : Node}
    (hn : node ∈ partNodes config ds .frame ++ partNodes config ds .declarations) :
    node ∈ blueprint config (ds ++ es) ∧ node.fields.IsTyped := by
  have hds := findSome?_fault?_of_append hf
  rcases List.mem_append.mp hn with hframe | hclass
  · refine ⟨by rw [blueprint_eq]; exact List.mem_append_left _ hframe, ?_⟩
    simp only [partNodes, modelNodes, List.mem_cons, List.not_mem_nil, or_false] at hframe
    rcases hframe with rfl | rfl | rfl
    · simp [FieldList.IsTyped, projectNode]
    · simp [FieldList.IsTyped, NodeDraft.node, modelDraft]
    · simp [FieldList.IsTyped, NodeDraft.node, diagramDraft, Value.IsSettled]
  · obtain ⟨d, -, k, -, hd, -⟩ := exists_of_mem_chain hclass
    refine ⟨?_, Declaration.isTyped_of_mem_nodes hd⟩
    have hall : node ∈ classNodes config (ds ++ es) := by
      rw [partNodes, classNodes, upTo_of_findSome?_eq_none hds] at hclass
      rw [classNodes, upTo_of_findSome?_eq_none hf, chain_append]
      exact List.mem_append_left _ hclass
    simp [blueprint, hall]

/-- A node of the frame or of a declaration comes from a node with names, and with further
declarations there is a node that comes from the same one. -/
lemma Follows.exists_kept (h : Follows config ds a) (h' : Follows config (ds ++ es) a')
    (hf : (ds ++ es).findSome? Declaration.fault? = none) {node : Node}
    (hn : node ∈ a.document.nodes.toList)
    (hpart : node.kind.part = .frame ∨ node.kind.part = .declarations) :
    ∃ start : Node, start.fields.IsTyped ∧ node.bare = start.resolve (bindings config ds) ∧
      ∃ node', a'.document.get? node.id = some node' ∧
        node'.bare = start.resolve (bindings config (ds ++ es)) := by
  have hout : node.bare ∈ a.document.outline := List.mem_map_of_mem hn
  rw [h.outline] at hout
  obtain ⟨start, hstart, hbare⟩ := List.mem_map.mp hout
  have hkind : start.kind = node.kind := (congrArg Node.kind hbare :)
  have hid : start.id = node.id := (congrArg Node.id hbare :)
  have hmem : start ∈ partNodes config ds .frame ++ partNodes config ds .declarations := by
    simp only [blueprint_eq, List.mem_append] at hstart
    rcases hstart with hs | hs | hs | hs | hs
    · exact List.mem_append_left _ hs
    · exact List.mem_append_right _ hs
    all_goals
      have hother := (belongs_of_mem_partNodes hs).part
      rw [hkind] at hother
      rw [hother] at hpart
      rcases hpart with hpart | hpart <;> cases hpart
  obtain ⟨hmem', htyped⟩ := mem_blueprint_append hf hmem
  have hout' : start.resolve (bindings config (ds ++ es)) ∈ a'.document.outline := by
    rw [h'.outline]
    exact List.mem_map_of_mem hmem'
  obtain ⟨node', hn', hbare'⟩ := List.mem_map.mp hout'
  have hid' : node'.id = node.id := (congrArg Node.id hbare' :).trans hid
  exact ⟨start, htyped, hbare.symm, node', h'.sound.get?_eq_some_iff.mpr ⟨hn', hid'⟩, hbare'⟩

/-- The text of a type: the name that stands in it, or the name of the node to which it is a
reference. -/
def typeText? (a : Assembly) : Value → Option String
  | .text s | .symbol s => some s
  | .reference id => (a.document.get? id).bind Node.name
  | .flag _ => none

lemma Follows.typeText?_resolve (h : Follows config ds a)
    (hf : ds.findSome? Declaration.fault? = none) (text : String) :
    a.typeText? ((Value.symbol text).resolve (bindings config ds)) = some text := by
  rw [Value.resolve]
  cases hr : (bindings config ds).resolve text with
  | none => rfl
  | some id =>
    obtain ⟨node, hnode, rfl⟩ := h.exists_lastNamed hf hr
    obtain ⟨hget, hname⟩ := h.get?_of_lastNamed hnode
    exact (congrArg (Option.bind · Node.name) hget).trans hname

/-- A node of an assembly is kept by a node of another one in which further declarations follow the
first `count`: all its data are the same but those below it and its type.  The type is the same
unless the further declarations have its text as a name.  Then it is a reference to the class or
interface of the last of them that has this name. -/
structure Keeps (a a' : Assembly) (count : ℕ) (es : List Declaration) (node node' : Node) :
    Prop where
  kind : node'.kind = node.kind
  name : node'.name = node.name
  parent : node'.parent = node.parent
  slot : node'.slot = node.slot
  keys : node'.fields.map Prod.fst = node.fields.map Prod.fst
  fields : (node'.fields.filter fun field => field.1 ≠ "type") =
    node.fields.filter fun field => field.1 ≠ "type"
  type : ∀ value, node.field? "type" = some value → ∃ text, a.typeText? value = some text ∧
    (text ∉ es.map Declaration.name → node'.field? "type" = some value) ∧
    (text ∈ es.map Declaration.name → ∃ before e after target, es = before ++ e :: after ∧
      e.name = text ∧ (∀ later ∈ after, later.name ≠ text) ∧
      a'.classifiers[count + before.length]? = some target ∧
      node'.field? "type" = some (.reference target.id))

/-- A type that was replaced with the names of some declarations, and with those of further ones. -/
lemma Follows.type_kept (h : Follows config ds a) (h' : Follows config (ds ++ es) a')
    (hf : (ds ++ es).findSome? Declaration.fault? = none) (text : String) :
    a.typeText? ((Value.symbol text).resolve (bindings config ds)) = some text ∧
    (text ∉ es.map Declaration.name →
      (Value.symbol text).resolve (bindings config (ds ++ es)) =
        (Value.symbol text).resolve (bindings config ds)) ∧
    (text ∈ es.map Declaration.name → ∃ before e after target, es = before ++ e :: after ∧
      e.name = text ∧ (∀ later ∈ after, later.name ≠ text) ∧
      a'.classifiers[ds.length + before.length]? = some target ∧
      (Value.symbol text).resolve (bindings config (ds ++ es)) = .reference target.id) := by
  have hds := findSome?_fault?_of_append hf
  refine ⟨h.typeText?_resolve hds text, fun hnew => ?_, fun hnew => ?_⟩
  · rw [Value.resolve, Value.resolve, resolve_bindings_append hnew]
  · obtain ⟨before, e, after, rfl, rfl, hafter⟩ := exists_last_of_mem hnew
    obtain ⟨target, htarget, hlast⟩ :=
      h'.lastNamed_of_last hf (List.append_assoc ds before (e :: after)).symm hafter
    have hbound := h'.lastNamed_map_id hf e.name
    rw [hlast, Option.map_some] at hbound
    rw [List.length_append] at htarget
    exact ⟨before, e, after, target, rfl, rfl, hafter, htarget, by rw [Value.resolve, ← hbound]⟩

/-- Nodes that come from the same one, with the names of some declarations replaced and with those
of further ones. -/
lemma Follows.keeps_of_bare (h : Follows config ds a) (h' : Follows config (ds ++ es) a')
    (hf : (ds ++ es).findSome? Declaration.fault? = none) {start node node' : Node}
    (htyped : start.fields.IsTyped) (hbare : node.bare = start.resolve (bindings config ds))
    (hbare' : node'.bare = start.resolve (bindings config (ds ++ es))) :
    Keeps a a' ds.length es node node' := by
  have hfields : node.fields =
      start.fields.map fun field => (field.1, field.2.resolve (bindings config ds)) :=
    congrArg Node.fields hbare
  have hfields' : node'.fields =
      start.fields.map fun field => (field.1, field.2.resolve (bindings config (ds ++ es))) :=
    congrArg Node.fields hbare'
  refine ⟨(congrArg Node.kind hbare').trans (congrArg Node.kind hbare).symm,
    (congrArg Node.name hbare').trans (congrArg Node.name hbare).symm,
    (congrArg Node.parent hbare').trans (congrArg Node.parent hbare).symm,
    (congrArg Node.slot hbare').trans (congrArg Node.slot hbare).symm, ?_, ?_,
    fun value hvalue => ?_⟩
  · rw [hfields, hfields', List.map_map, List.map_map]
    rfl
  · rw [hfields, hfields', htyped.filter_resolve, htyped.filter_resolve]
  · rw [Node.field?, hfields, (htyped.lookup_resolve _).1, Option.map_eq_some_iff] at hvalue
    obtain ⟨symbol, hsymbol, rfl⟩ := hvalue
    obtain ⟨text, rfl⟩ := (htyped.lookup_resolve (bindings config ds)).2 symbol hsymbol
    have hvalue' : node'.field? "type" =
        some ((Value.symbol text).resolve (bindings config (ds ++ es))) := by
      rw [Node.field?, hfields', (htyped.lookup_resolve _).1, hsymbol]
      rfl
    rw [hvalue']
    simp only [Option.some.injEq]
    exact ⟨text, h.type_kept h' hf text⟩

/-! ## What comes later -/

lemma Follows.emitted_sublist (h : Follows config ds a) (h' : Follows config (ds ++ es) a')
    (hf : (ds ++ es).findSome? Declaration.fault? = none) : a.emitted.Sublist a'.emitted := by
  have hds := findSome?_fault?_of_append hf
  have hmono : ∀ r, decide (IsDeclared ds r) = true → decide (IsDeclared (ds ++ es) r) = true := by
    intro r hr
    obtain ⟨hsource, htarget⟩ := of_decide_eq_true hr
    rw [decide_eq_true_iff, IsDeclared, List.map_append]
    exact ⟨List.mem_append_left _ hsource, List.mem_append_left _ htarget⟩
  rw [h.emitted_eq hds, h'.emitted_eq hf, relationships, relationships, List.flatMap_append,
    List.filter_append]
  exact (List.monotone_filter_right _ hmono).trans (List.sublist_append_left _ _)

/-- The names at the ends of the first edges come first. -/
lemma map_endNames_prefix (channel : Channel) (ds es : List Declaration) :
    (endNames (RoutedEdge.onChannel channel (ds.flatMap Declaration.links))).map some <+:
      (endNames (RoutedEdge.onChannel channel
        ((ds ++ es).flatMap Declaration.links))).map some := by
  rw [List.flatMap_append, RoutedEdge.onChannel_append, endNames, endNames, List.flatMap_append,
    List.eraseDups_append, List.map_append]
  exact List.prefix_append _ _

/-- If further declarations follow, then every node of the frame and of the declarations remains
under its identifier, with all its data but those below it and perhaps its type (`Keeps`).  The
relationships that are drawn are still drawn in the same order, perhaps with others between them.
The vertices and the lifelines have the same names, and those that are new follow. -/
theorem assemble_extended (h : assemble config ds = .ok a)
    (h' : assemble config (ds ++ es) = .ok a') :
    (∀ node ∈ a.document.nodes.toList,
      node.kind.part = .frame ∨ node.kind.part = .declarations →
      ∃ node', a'.document.get? node.id = some node' ∧ Keeps a a' ds.length es node node') ∧
    (a'.classifiers.map fun node => (node.kind, node.name)) =
      (ds ++ es).map (fun d => (d.kind.nodeKind, some d.name)) ∧
    a.emitted.Sublist a'.emitted ∧
    a.vertexNames <+: a'.vertexNames ∧
    a.lifelineNames <+: a'.lifelineNames := by
  obtain ⟨-, hfollows⟩ := follows_of_ok h
  obtain ⟨hf, hfollows'⟩ := follows_of_ok h'
  refine ⟨fun node hn hpart => ?_, ?_, hfollows.emitted_sublist hfollows' hf, ?_, ?_⟩
  -- the nodes of the frame and of the declarations
  · obtain ⟨start, htyped, hbare, node', hget, hbare'⟩ :=
      hfollows.exists_kept hfollows' hf hn hpart
    exact ⟨node', hget, hfollows.keeps_of_bare hfollows' hf htyped hbare hbare'⟩
  -- the classes and interfaces, to which the places of the further declarations refer
  · have hkinds := congrArg (List.map Prod.snd) (hfollows'.map_classifiers hf)
    rw [List.map_map, List.map_map] at hkinds
    exact hkinds.trans (Declaration.map_entries (fun kind name => (kind.nodeKind, some name)) _ _)
  -- the names in the diagrams
  · rw [hfollows.vertexNames_eq, hfollows'.vertexNames_eq]
    exact map_endNames_prefix .trigger ds es
  · rw [hfollows.lifelineNames_eq, hfollows'.lifelineNames_eq]
    exact map_endNames_prefix .message ds es

/-- A class whose supertype and the type of one field are declared by two further declarations, of
which the last one counts. -/
theorem assemble_extended_of_redeclared_name :
    let ds : List Declaration :=
      [{ kind := .classType, name := "A", parents := ["B"]
         members := [.field ⟨"f", [], .named "A"⟩, .field ⟨"g", [], .named "B"⟩,
           .method ⟨"m", [], .named "void", [],
             [.group .trigger [⟨"x", .many ["y", "z"]⟩], .single .message ⟨"p", .one "q"⟩]⟩] }]
    let es : List Declaration :=
      [{ kind := .interfaceType, name := "B"
         members := [.method ⟨"m", [], .named "void", [],
           [.group .trigger [⟨"w", .many ["y", "v"]⟩], .single .message ⟨"q", .one "r"⟩]⟩] },
       { kind := .classType, name := "B" }]
    ∃ a a', assemble {} ds = .ok a ∧ assemble {} (ds ++ es) = .ok a' ∧
      (∃ node node' target, node ∈ a.document.nodes.toList ∧ node.name = some "g" ∧
        node.field? "type" = some (.symbol "B") ∧ a'.document.get? node.id = some node' ∧
        a'.classifiers[2]? = some target ∧
        node'.field? "type" = some (.reference target.id)) ∧
      a.emitted = [⟨.aggregation, "A", "A"⟩] ∧
      a.emitted.Sublist a'.emitted ∧
      a.vertexNames = [some "x", some "y", some "z"] ∧
      a.vertexNames <+: a'.vertexNames ∧
      a.lifelineNames = [some "p", some "q"] ∧
      a.lifelineNames <+: a'.lifelineNames := by
  intro ds es
  obtain ⟨a, ha, -⟩ := @assemble_of_nodeCount_le {} ds (by decide) (by decide)
  obtain ⟨a', ha', -⟩ := @assemble_of_nodeCount_le {} (ds ++ es) (by decide) (by decide)
  obtain ⟨hnodes, -, hemitted, hvertices, hlifelines⟩ := assemble_extended ha ha'
  have hread : (assemble {} ds).toOption.map (fun a => (a.emitted, a.vertexNames, a.lifelineNames,
      a.document.nodes.toList.any fun node => node.kind == .attributeNode &&
        node.name == some "g" && node.field? "type" == some (.symbol "B"))) =
      some ([⟨.aggregation, "A", "A"⟩], [some "x", some "y", some "z"], [some "p", some "q"],
        true) := by
    decide +kernel
  simp only [ha, Except.toOption, Option.map_some, Option.some.injEq, Prod.mk.injEq,
    List.any_eq_true, Bool.and_eq_true, beq_iff_eq] at hread
  obtain ⟨hrelationships, hvertexNames, hlifelineNames, node, hn, ⟨hkind, hname⟩, htype⟩ := hread
  obtain ⟨node', hget, hkeeps⟩ := hnodes node hn (.inr (by rw [hkind]; rfl))
  obtain ⟨text, htext, -, hnew⟩ := hkeeps.type _ htype
  obtain rfl : "B" = text := Option.some.inj htext
  obtain ⟨before, e, after, target, hes, -, hlast, htarget, href⟩ := hnew (by decide)
  -- the last declaration with this name is the second one
  have hbefore : before.length = 1 := by
    rcases before with - | ⟨first, - | ⟨second, before⟩⟩
    · obtain ⟨-, rfl⟩ := List.cons.inj hes
      exact absurd rfl (hlast _ List.mem_cons_self)
    · rfl
    · simp [es] at hes
  rw [hbefore] at htarget
  exact ⟨a, a', ha, ha', ⟨node, node', target, hn, hname, htype, hget, htarget, href⟩,
    hrelationships, hemitted, hvertexNames, hvertices, hlifelineNames, hlifelines⟩

end Assembly

end JavaUml
