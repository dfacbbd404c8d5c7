/-
# Declarations survive being written

Every part of a declaration is written in one way and read in several.  Reading what was written
gives the part back (`Member.decode_toJson`, `Annotation.decode_toJson`,
`Declaration.decode_toJson`): the keys are all there, in order and once.  The only thing that can go
wrong is the depth, since a reader allows 127 levels and types may be nested without end.

Field, method and annotation are read from a complete value, so that depth plays no part in them;
members and declarations are read on the way through the text.
-/
import JavaUml.Declaration.Json
import JavaUml.Proofs.Json.Decoding
import JavaUml.Proofs.TypeRef.Json

namespace JavaUml

open Json (Whole depth depthMembers reading memberReadings decodedWithin)

/-! ## Annotations -/

lemma Targets.decode_toJson (targets : Targets) : Targets.decode targets.toJson = .ok targets := by
  cases targets with
  | one name => rfl
  | many names =>
    rw [Targets.toJson, Targets.decode]
    · rw [Json.asStrings_strings]
      rfl
    · exact nofun

lemma Endpoints.decode_toMembers (e : Endpoints) :
    Endpoints.decode (.object e.toMembers) = .ok e := by
  simp only [Endpoints.decode, Endpoints.toMembers, List.foldlM_cons, List.foldlM_nil, Draft.step,
    Json.once, Json.asString, Targets.decode_toJson, Json.required, bind, Except.bind, pure,
    Except.pure, Option.isSome_none, Bool.false_eq_true, if_false]

lemma Family.decode_name (family : Family) : Family.decode (.string family.name) = .ok family := by
  obtain ⟨_ | _, _ | _⟩ := family <;> rfl

lemma Annotation.decodeEntries_value (family : Family) (entries : List Endpoints) :
    decodeEntries family (.object [("value", .array (entries.map fun e => .object e.toMembers))]) =
      .ok entries := by
  have hentries :
      (Json.array (entries.map fun e => .object e.toMembers)).asListOf Endpoints.decode =
      .ok entries := Json.asListOf_map fun e _ => e.decode_toMembers
  simp only [decodeEntries, List.foldlM_cons, List.foldlM_nil, if_true, Json.once, hentries,
    Json.required, bind, Except.bind, pure, Except.pure, Option.isSome_none, Bool.false_eq_true,
    if_false]

/-- A written annotation is decoded as it was. -/
lemma Annotation.decode_toJson (a : Annotation) : Annotation.decode a.toJson = .ok a := by
  cases a with
  | single channel entry =>
    have htag : (single channel entry).toJson.asTagged "family" wanted Family.decode =
        .ok (⟨channel, false⟩, .object entry.toMembers) :=
      Json.asTagged_object (Family.decode_name ⟨channel, false⟩) (by simp [Endpoints.toMembers])
    rw [decode, htag]
    simp only [bind, Except.bind, decodeRest, Bool.false_eq_true, if_false,
      Endpoints.decode_toMembers, pure, Except.pure]
  | group channel entries =>
    have htag : (group channel entries).toJson.asTagged "family" wanted Family.decode =
        .ok (⟨channel, true⟩,
          .object [("value", .array (entries.map fun e => .object e.toMembers))]) :=
      Json.asTagged_object (Family.decode_name ⟨channel, true⟩) (by simp)
    rw [decode, htag]
    simp only [bind, Except.bind, decodeRest, if_true, decodeEntries_value, pure, Except.pure]

/-! ## Fields, parameters and methods -/

lemma Field.decode_toMembers (f : Field) : Field.decode (.object f.toMembers) = .ok f := by
  simp only [Field.decode, Field.toMembers, List.foldlM_cons, List.foldlM_nil, Draft.step,
    Json.once, Json.asString, Json.asStrings_strings, TypeRef.decode_toJson, Json.required, bind,
    Except.bind, pure, Except.pure, Option.isSome_none, Bool.false_eq_true, if_false,
    Option.getD_some]

lemma Parameter.decode_toJson (p : Parameter) : Parameter.decode p.toJson = .ok p := by
  simp only [Parameter.decode, Parameter.toJson, List.foldlM_cons, List.foldlM_nil, Draft.step,
    Json.once, Json.asString, TypeRef.decode_toJson, Json.required, bind, Except.bind, pure,
    Except.pure, Option.isSome_none, Bool.false_eq_true, if_false]

lemma Method.decode_toMembers (m : Method) : Method.decode (.object m.toMembers) = .ok m := by
  have hparameters : (Json.array (m.parameters.map Parameter.toJson)).asListOf Parameter.decode =
      .ok m.parameters := Json.asListOf_map fun p _ => p.decode_toJson
  have hannotations :
      (Json.array (m.annotations.map Annotation.toJson)).asListOf Annotation.decode =
      .ok m.annotations := Json.asListOf_map fun a _ => a.decode_toJson
  simp only [Method.decode, Method.toMembers, List.foldlM_cons, List.foldlM_nil, Draft.step,
    Json.once, Json.asString, Json.asStrings_strings, TypeRef.decode_toJson, hparameters,
    hannotations, Json.required, bind, Except.bind, pure, Except.pure, Option.isSome_none,
    Bool.false_eq_true, if_false, Option.getD_some]

/-! ## Members -/

/-- A written member is decoded as it was, if it is not nested too deep. -/
lemma Member.decode_toJson (member : Member) (levels : ℕ) :
    Member.decode levels member.toJson.reading =
      decodedWithin member.toJson.depth levels member := by
  cases member with
  | field f =>
    have htag : Tag.decode (.string "field") = .ok .field := rfl
    rw [decode, toJson, Json.asTagged_reading htag (by simp [Field.toMembers])]
    refine Json.ifWithin_bind_ok ?_
    simp only [decodeRest, f.decode_toMembers, bind, Except.bind, pure, Except.pure]
  | method m =>
    have htag : Tag.decode (.string "method") = .ok .method := rfl
    rw [decode, toJson, Json.asTagged_reading htag (by simp [Method.toMembers])]
    refine Json.ifWithin_bind_ok ?_
    simp only [decodeRest, m.decode_toMembers, bind, Except.bind, pure, Except.pure]
  | other =>
    have htag : Tag.decode (.string "other") = .ok .other := rfl
    rw [decode, toJson, Json.asTagged_reading htag (by simp)]
    exact Json.ifWithin_bind_ok rfl

/-! ## Declarations -/

lemma ClassifierKind.decode_word (kind : ClassifierKind) (levels : ℕ) :
    ClassifierKind.decode levels (.string kind.word) = .ok kind := by
  cases kind <;> rfl

namespace Declaration

/-- A part that is read by a decoder of its own and stored. -/
lemma Draft.step_part {α : Type} {levels : ℕ} {draft : Draft} {key : String} {v : Json} {a : α}
    {decoder : Json.Decoded α} {store : α → Draft}
    (hdecoder : decoder = decodedWithin v.depth levels a)
    (hstep : step levels draft (some key, v.reading) = decoder >>= fun a => .ok (store a)) :
    step levels draft (some key, v.reading) = decodedWithin v.depth levels (store a) := by
  rw [hstep, hdecoder]
  exact Json.ifWithin_bind_ok rfl

/-- The members of the object that a declaration is written as. -/
def toMembers (d : Declaration) : List (String × Json) :=
  [("kind", .string d.kind.word), ("name", .string d.name),
    ("modifiers", .strings d.modifiers), ("members", .array (d.members.map Member.toJson)),
    ("extends", .strings d.parents), ("implements", .strings d.interfaces)]

lemma foldlM_toMembers (d : Declaration) (levels : ℕ) :
    (memberReadings d.toMembers).foldlM (Draft.step levels) {} =
      decodedWithin (depthMembers d.toMembers) levels
        { kind := some d.kind, name := some d.name, modifiers := some d.modifiers
          members := some d.members, parents := some d.parents
          interfaces := some d.interfaces } := by
  have hkind : ClassifierKind.decode levels (Json.string d.kind.word).reading =
      decodedWithin (Json.string d.kind.word).depth levels d.kind :=
    (d.kind.decode_word levels).trans (Json.decodedWithin_zero levels d.kind).symm
  have hname :
      Draft.step levels { kind := some d.kind } (some "name", (Json.string d.name).reading) =
        decodedWithin (Json.string d.name).depth levels
          { kind := some d.kind, name := some d.name } :=
    (Json.decodedWithin_zero levels _).symm
  have hmembers : Json.Reading.asListOf Member.decode levels
        (Json.array (d.members.map Member.toJson)).reading =
      decodedWithin (Json.array (d.members.map Member.toJson)).depth levels d.members :=
    Json.asListOf_readings (fun member _ levels => member.decode_toJson levels) levels
  refine Json.foldlM_memberReadings_cons (Draft.step_part hkind rfl) ?_
  refine Json.foldlM_memberReadings_cons hname ?_
  refine Json.foldlM_memberReadings_cons
    (Draft.step_part (Json.asStrings_reading d.modifiers levels) rfl) ?_
  refine Json.foldlM_memberReadings_cons (Draft.step_part hmembers rfl) ?_
  refine Json.foldlM_memberReadings_cons
    (Draft.step_part (Json.asStrings_reading d.parents levels) rfl) ?_
  refine Json.foldlM_memberReadings_cons
    (Draft.step_part (Json.asStrings_reading d.interfaces levels) rfl) ?_
  exact Json.foldlM_memberReadings_nil _

/-- A written declaration is decoded as it was, if it is not nested too deep. -/
lemma decode_toJson (d : Declaration) (levels : ℕ) :
    decode levels d.toJson.reading = decodedWithin d.toJson.depth levels d := by
  have hdepth : d.toJson.depth = 1 + depthMembers d.toMembers := by
    rw [toJson, depth, toMembers]
  rw [hdepth, toJson, reading]
  refine Json.enter_within fun levels => ?_
  rw [← toMembers, foldlM_toMembers]
  exact Json.ifWithin_bind_ok rfl

/-- A written list of declarations is decoded as it was, if it is not nested too deep. -/
lemma decodeList_listToJson (ds : List Declaration) (levels : ℕ) :
    decodeList levels (listToJson ds).reading = decodedWithin (listToJson ds).depth levels ds :=
  Json.asListOf_readings (fun d _ levels => d.decode_toJson levels) levels

end Declaration

/-! ## Numbers -/

/-- The types that stand in a member. -/
def Member.types : Member → List TypeRef
  | .field f => [f.type]
  | .method m => m.returnType :: m.parameters.map Parameter.type
  | .other => []

/-- The dimensions of all types in a declaration fit 64 bits. -/
def Declaration.Fits (d : Declaration) : Prop :=
  ∀ member ∈ d.members, ∀ t ∈ member.types, t.Fits

lemma whole_strings (ss : List String) : (Json.strings ss).Whole :=
  .array (List.forall_mem_map.mpr fun s _ => .string s)

lemma Endpoints.whole_toMembers (e : Endpoints) : ∀ member ∈ e.toMembers, member.2.Whole := by
  have htargets : e.targets.toJson.Whole := by
    cases e.targets with
    | one name => exact .string name
    | many names => exact whole_strings names
  exact List.forall_mem_cons.mpr ⟨.string e.source, List.forall_mem_singleton.mpr htargets⟩

lemma Annotation.whole_toJson (a : Annotation) : a.toJson.Whole := by
  refine .object (List.forall_mem_cons.mpr ⟨.string _, ?_⟩)
  cases a with
  | single channel entry => exact entry.whole_toMembers
  | group channel entries =>
    refine List.forall_mem_singleton.mpr (.array (List.forall_mem_map.mpr fun e _ => ?_))
    exact .object e.whole_toMembers

lemma Field.whole_toMembers {f : Field} (h : f.type.Fits) :
    ∀ member ∈ f.toMembers, member.2.Whole :=
  List.forall_mem_cons.mpr ⟨.string f.name, List.forall_mem_cons.mpr
    ⟨whole_strings f.modifiers, List.forall_mem_singleton.mpr h.whole_toJson⟩⟩

lemma Parameter.whole_toJson {p : Parameter} (h : p.type.Fits) : p.toJson.Whole :=
  .object (List.forall_mem_cons.mpr ⟨.string p.name, List.forall_mem_singleton.mpr h.whole_toJson⟩)

lemma Method.whole_toMembers {m : Method} (hreturn : m.returnType.Fits)
    (hparameters : ∀ p ∈ m.parameters, p.type.Fits) :
    ∀ member ∈ m.toMembers, member.2.Whole := by
  simp only [toMembers, List.forall_mem_cons, List.not_mem_nil, false_implies, implies_true,
    and_true]
  refine ⟨.string m.name, whole_strings m.modifiers, hreturn.whole_toJson, .array ?_, .array ?_⟩
  · exact List.forall_mem_map.mpr fun p hp => Parameter.whole_toJson (hparameters p hp)
  · exact List.forall_mem_map.mpr fun a _ => a.whole_toJson

lemma Member.whole_toJson {member : Member} (h : ∀ t ∈ member.types, t.Fits) :
    member.toJson.Whole := by
  cases member with
  | field f =>
    have htype : f.type.Fits := h f.type List.mem_cons_self
    exact .object (List.forall_mem_cons.mpr ⟨.string _, Field.whole_toMembers htype⟩)
  | method m =>
    rw [types, List.forall_mem_cons, List.forall_mem_map] at h
    exact .object (List.forall_mem_cons.mpr ⟨.string _, Method.whole_toMembers h.1 h.2⟩)
  | other => exact .object (List.forall_mem_singleton.mpr (.string _))

namespace Declaration

/-- The numbers in a written declaration are whole and fit 64 bits. -/
lemma Fits.whole_toJson {d : Declaration} (h : d.Fits) : d.toJson.Whole := by
  have hmembers : Whole (.array (d.members.map Member.toJson)) :=
    .array (List.forall_mem_map.mpr fun member hmember => Member.whole_toJson (h member hmember))
  refine .object ?_
  simp only [List.forall_mem_cons, List.not_mem_nil, false_implies, implies_true, and_true]
  exact ⟨.string _, .string _, whole_strings _, hmembers, whole_strings _, whole_strings _⟩

lemma whole_listToJson {ds : List Declaration} (h : ∀ d ∈ ds, d.Fits) : (listToJson ds).Whole :=
  .array (List.forall_mem_map.mpr fun d hd => (h d hd).whole_toJson)

/-! ## Texts -/

/-- A list of declarations as a text. -/
def listToText (layout : Json.Layout) (ds : List Declaration) : String :=
  layout.write (listToJson ds)

/-- Reads a list of declarations from a text and writes it again. -/
def rewrite (layout : Json.Layout) (text : String) : Json.Decoded String :=
  (listOfText text).map (listToText layout)

lemma listOfText_listToText_eq {ds : List Declaration} (h : ∀ d ∈ ds, d.Fits)
    (layout : Json.Layout) :
    listOfText (listToText layout ds) =
      decodedWithin (Json.textNesting (listToText layout ds)) Json.Reading.maxDepth ds := by
  have hwhole := whole_listToJson h
  rw [listToText, listOfText, hwhole.decode_write, decodeList_listToJson,
    hwhole.textNesting_write]

/-- A list of declarations is read from its text as it was if the text nests arrays and objects at
most 127 deep; if it nests them deeper, the text is malformed.  A text that has been read and
written again within that depth stays as it is when that is done once more. -/
theorem listOfText_listToText (ds : List Declaration) (hfits : ∀ d ∈ ds, d.Fits)
    (layout : Json.Layout) :
    (Json.textNesting (listToText layout ds) ≤ 127 →
      listOfText (listToText layout ds) = .ok ds) ∧
    (127 < Json.textNesting (listToText layout ds) →
      listOfText (listToText layout ds) = .error (.fault .malformed)) ∧
    ∀ text, listOfText text = .ok ds → Json.textNesting (listToText layout ds) ≤ 127 →
      rewrite layout text = .ok (listToText layout ds) ∧
      rewrite layout (listToText layout ds) = .ok (listToText layout ds) := by
  have hread := listOfText_listToText_eq hfits layout
  have hshallow (hdepth : Json.textNesting (listToText layout ds) ≤ 127) :
      listOfText (listToText layout ds) = .ok ds := hread.trans (if_pos hdepth)
  refine ⟨hshallow, fun hdepth => hread.trans (if_neg (Nat.not_le.mpr hdepth)), ?_⟩
  intro text htext hdepth
  rw [rewrite, rewrite, htext, hshallow hdepth]
  exact ⟨rfl, rfl⟩

/-- A class with one field of a type. -/
def withField (type : TypeRef) : Declaration :=
  { kind := .classType, name := "Crate", members := [.field { name := "content", type }] }

/-- A type in a number of lists. -/
def inLists : ℕ → TypeRef → TypeRef
  | 0, t => t
  | n + 1, t => { name := "List", arguments := [inLists n t] }

/-- A type with all its parts, whose name is no word and needs escapes, is read as it was; sixty-two
lists around it are too deep. -/
theorem listOfText_listToText_of_lists :
    let t : TypeRef :=
      { name := "a \"<\n>", arguments := [.named "?"], dimensions := 2 ^ 64 - 1
        wildcard := some .lower }
    (∀ d ∈ [withField t], d.Fits) ∧ (∀ d ∈ [withField (inLists 62 t)], d.Fits) ∧
    listOfText (listToText .manyLines [withField t]) = .ok [withField t] ∧
    listOfText (listToText .oneLine [withField (inLists 62 t)]) = .error (.fault .malformed) := by
  intro t
  have ht : t.Fits := by
    simp [t, TypeRef.Fits, TypeRef.AllFit, TypeRef.named, Json.wordLimit, Decimal.twoTo]
  have hlists : ∀ n, (inLists n t).Fits := by
    intro n
    induction n with
    | zero => exact ht
    | succ n ih => exact ⟨by decide, ih, trivial⟩
  have hfits : ∀ d ∈ [withField t], d.Fits := by
    simpa [withField, Fits, Member.types] using ht
  have hdeep : ∀ d ∈ [withField (inLists 62 t)], d.Fits := by
    simpa [withField, Fits, Member.types] using hlists 62
  refine ⟨hfits, hdeep, (listOfText_listToText _ hfits .manyLines).1 ?_,
    (listOfText_listToText _ hdeep .oneLine).2.1 ?_⟩
  · rw [listToText, (whole_listToJson hfits).textNesting_write]
    decide +kernel
  · rw [listToText, (whole_listToJson hdeep).textNesting_write]
    decide +kernel

end Declaration

end JavaUml
