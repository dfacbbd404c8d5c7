/-
# Presentations of declarations

Fields, parameters, methods, members and declarations are records; a member is a tagged one.  Every
presentation of a list of declarations is decoded as the list
(`Declaration.decodeList_of_presents`), and so it does not matter in which way the records in a text
are presented (`Declaration.listOfText_of_presents`).

Members and declarations are read on the way through the text, so that the depth of what presents
them plays a part; the values of unknown keys of a declaration are passed over.
-/
import JavaUml.Proofs.Annotation.Presentation
import JavaUml.Proofs.TypeRef.Presentation
import JavaUml.Proofs.TypeRef.Text

namespace JavaUml

open Json (RecordPart PresentsByKey PresentsInOrder PresentsAll slot)

/-! ## Fields -/

namespace Field

/-- The parts of a field. -/
def parts (f : Field) : List RecordPart :=
  [.just "name" (.string f.name), .strings "modifiers" f.modifiers,
    ⟨"type", f.type.Presents, False⟩]

lemma keys_parts (f : Field) : Json.keys f.parts = ["name", "modifiers", "type"] := rfl

/-- What has been read of a field after some keys. -/
def Draft.of (f : Field) (seen : List String) : Draft where
  name := slot seen "name" f.name
  modifiers := slot seen "modifiers" f.modifiers
  type := slot seen "type" f.type

lemma Draft.step_known (f : Field) :
    ∀ part ∈ f.parts, ∀ v, part.Presents v → ∀ seen, part.key ∉ seen →
      step (of f seen) (part.key, v) = .ok (of f (part.key :: seen)) := by
  simp only [parts, List.forall_mem_cons, List.not_mem_nil, false_implies, implies_true, and_true,
    RecordPart.just, RecordPart.strings]
  refine ⟨?name, ?modifiers, ?type⟩ <;> intro v hv seen hseen
  case name =>
    subst hv
    simp [step, of, Json.once, slot, hseen, Json.asString, bind, Except.bind, pure, Except.pure]
  case modifiers =>
    subst hv
    simp [step, of, Json.once, slot, hseen, Json.asStrings_strings, bind, Except.bind, pure,
      Except.pure]
  case type =>
    simp [step, of, Json.once, slot, hseen, TypeRef.decode_of_presents hv, bind, Except.bind, pure,
      Except.pure]

lemma Draft.step_unknown (d : Draft) {key : String} (v : Json)
    (h : key ∉ ["name", "modifiers", "type"]) : d.step (key, v) = .ok d := by
  unfold step
  split <;> simp_all [pure, Except.pure]

/-- Every presentation of a field is decoded as the field. -/
lemma decode_of_presents {f : Field} {v : Json} (h : Json.Presents f.parts v) :
    decode v = .ok f := by
  cases h with
  | @object members hmembers =>
    obtain ⟨seen, hseen, hfold⟩ := @PresentsByKey.exists_foldlM _ _ _ Draft.step (Draft.of f)
      hmembers (by rw [keys_parts]; decide) (fun part hpart v _ => Draft.step_known f part hpart v)
      (fun key v _ hkey _ => Draft.step_unknown _ v hkey)
    simp only [parts, List.forall_mem_cons, List.not_mem_nil, false_implies, implies_true,
      and_true, RecordPart.just, RecordPart.strings, or_false] at hseen
    obtain ⟨hname, hmodifiers, htype⟩ := hseen
    have hnone : Draft.of f [] = {} := rfl
    rw [decode, ← hnone, hfold]
    simp [Draft.of, Json.required_slot hname, Json.getD_slot hmodifiers, Json.required_slot htype,
      bind, Except.bind, pure, Except.pure]
  | @array items hitems =>
    obtain ⟨afterName, hname, hitems⟩ :=
      hitems.exists_nextItem_just (rfl : (Json.string f.name).asString = .ok f.name) 0 wanted
    obtain ⟨afterModifiers, hmodifiers, hitems⟩ := hitems.exists_nextItemOr_strings
    obtain ⟨afterType, htype, hitems⟩ := hitems.exists_nextItem id
      (fun v => TypeRef.decode_of_presents) 2 wanted
    rw [decode, hname]
    simp only [bind, Except.bind, hmodifiers, htype, hitems.noMore, pure, Except.pure]

end Field

/-! ## Parameters -/

namespace Parameter

/-- The parts of a parameter. -/
def parts (p : Parameter) : List RecordPart :=
  [.just "name" (.string p.name), ⟨"type", p.type.Presents, False⟩]

/-- The values that present a parameter. -/
def Presents (p : Parameter) : Json → Prop := Json.Presents p.parts

lemma keys_parts (p : Parameter) : Json.keys p.parts = ["name", "type"] := rfl

lemma presents_toJson (p : Parameter) : p.Presents p.toJson :=
  .object (Json.Kept.present rfl (.present p.type.presents_toJson .nil)).presentsByKey

/-- What has been read of a parameter after some keys. -/
def Draft.of (p : Parameter) (seen : List String) : Draft where
  name := slot seen "name" p.name
  type := slot seen "type" p.type

lemma Draft.step_known (p : Parameter) :
    ∀ part ∈ p.parts, ∀ v, part.Presents v → ∀ seen, part.key ∉ seen →
      step (of p seen) (part.key, v) = .ok (of p (part.key :: seen)) := by
  simp only [parts, List.forall_mem_cons, List.not_mem_nil, false_implies, implies_true, and_true,
    RecordPart.just]
  refine ⟨?name, ?type⟩ <;> intro v hv seen hseen
  case name =>
    subst hv
    simp [step, of, Json.once, slot, hseen, Json.asString, bind, Except.bind, pure, Except.pure]
  case type =>
    simp [step, of, Json.once, slot, hseen, TypeRef.decode_of_presents hv, bind, Except.bind, pure,
      Except.pure]

lemma Draft.step_unknown (d : Draft) {key : String} (v : Json) (h : key ∉ ["name", "type"]) :
    d.step (key, v) = .ok d := by
  unfold step
  split <;> simp_all [pure, Except.pure]

/-- Every presentation of a parameter is decoded as the parameter. -/
lemma decode_of_presents {p : Parameter} {v : Json} (h : p.Presents v) : decode v = .ok p := by
  cases h with
  | @object members hmembers =>
    obtain ⟨seen, hseen, hfold⟩ := @PresentsByKey.exists_foldlM _ _ _ Draft.step (Draft.of p)
      hmembers (by rw [keys_parts]; decide) (fun part hpart v _ => Draft.step_known p part hpart v)
      (fun key v _ hkey _ => Draft.step_unknown _ v hkey)
    simp only [parts, List.forall_mem_cons, List.not_mem_nil, false_implies, implies_true,
      and_true, RecordPart.just, or_false] at hseen
    obtain ⟨hname, htype⟩ := hseen
    have hnone : Draft.of p [] = {} := rfl
    rw [decode, ← hnone, hfold]
    simp [Draft.of, Json.required_slot hname, Json.required_slot htype, bind, Except.bind, pure,
      Except.pure]
  | @array items hitems =>
    obtain ⟨afterName, hname, hitems⟩ :=
      hitems.exists_nextItem_just (rfl : (Json.string p.name).asString = .ok p.name) 0 wanted
    obtain ⟨afterType, htype, hitems⟩ := hitems.exists_nextItem id
      (fun v => TypeRef.decode_of_presents) 1 wanted
    rw [decode, hname]
    simp only [bind, Except.bind, htype, hitems.noMore, pure, Except.pure]

end Parameter

/-! ## Methods -/

namespace Method

/-- The parts of a method. -/
def parts (m : Method) : List RecordPart :=
  [.just "name" (.string m.name), .strings "modifiers" m.modifiers,
    ⟨"returnType", m.returnType.Presents, False⟩,
    .list "parameters" Parameter.Presents m.parameters,
    .list "annotations" Annotation.Presents m.annotations]

lemma keys_parts (m : Method) :
    Json.keys m.parts = ["name", "modifiers", "returnType", "parameters", "annotations"] := rfl

/-- What has been read of a method after some keys. -/
def Draft.of (m : Method) (seen : List String) : Draft where
  name := slot seen "name" m.name
  modifiers := slot seen "modifiers" m.modifiers
  returnType := slot seen "returnType" m.returnType
  parameters := slot seen "parameters" m.parameters
  annotations := slot seen "annotations" m.annotations

lemma Draft.step_known (m : Method) :
    ∀ part ∈ m.parts, ∀ v, part.Presents v → ∀ seen, part.key ∉ seen →
      step (of m seen) (part.key, v) = .ok (of m (part.key :: seen)) := by
  simp only [parts, List.forall_mem_cons, List.not_mem_nil, false_implies, implies_true, and_true,
    RecordPart.just, RecordPart.strings, RecordPart.list]
  refine ⟨?name, ?modifiers, ?returnType, ?parameters, ?annotations⟩ <;> intro v hv seen hseen
  case name =>
    subst hv
    simp [step, of, Json.once, slot, hseen, Json.asString, bind, Except.bind, pure, Except.pure]
  case modifiers =>
    subst hv
    simp [step, of, Json.once, slot, hseen, Json.asStrings_strings, bind, Except.bind, pure,
      Except.pure]
  case returnType =>
    simp [step, of, Json.once, slot, hseen, TypeRef.decode_of_presents hv, bind, Except.bind, pure,
      Except.pure]
  case parameters =>
    have hread := hv.asListOf fun p v => Parameter.decode_of_presents
    simp [step, of, Json.once, slot, hseen, hread, bind, Except.bind, pure, Except.pure]
  case annotations =>
    have hread := hv.asListOf fun a v => Annotation.decode_of_presents
    simp [step, of, Json.once, slot, hseen, hread, bind, Except.bind, pure, Except.pure]

lemma Draft.step_unknown (d : Draft) {key : String} (v : Json)
    (h : key ∉ ["name", "modifiers", "returnType", "parameters", "annotations"]) :
    d.step (key, v) = .ok d := by
  unfold step
  split <;> simp_all [pure, Except.pure]

/-- Every presentation of a method is decoded as the method. -/
lemma decode_of_presents {m : Method} {v : Json} (h : Json.Presents m.parts v) :
    decode v = .ok m := by
  cases h with
  | @object members hmembers =>
    obtain ⟨seen, hseen, hfold⟩ := @PresentsByKey.exists_foldlM _ _ _ Draft.step (Draft.of m)
      hmembers (by rw [keys_parts]; decide) (fun part hpart v _ => Draft.step_known m part hpart v)
      (fun key v _ hkey _ => Draft.step_unknown _ v hkey)
    simp only [parts, List.forall_mem_cons, List.not_mem_nil, false_implies, implies_true,
      and_true, RecordPart.just, RecordPart.strings, RecordPart.list, or_false] at hseen
    obtain ⟨hname, hmodifiers, hreturnType, hparameters, hannotations⟩ := hseen
    have hnone : Draft.of m [] = {} := rfl
    rw [decode, ← hnone, hfold]
    simp [Draft.of, Json.required_slot hname, Json.getD_slot hmodifiers,
      Json.required_slot hreturnType, Json.getD_slot hparameters, Json.getD_slot hannotations,
      bind, Except.bind, pure, Except.pure]
  | @array items hitems =>
    obtain ⟨afterName, hname, hitems⟩ :=
      hitems.exists_nextItem_just (rfl : (Json.string m.name).asString = .ok m.name) 0 wanted
    obtain ⟨afterModifiers, hmodifiers, hitems⟩ := hitems.exists_nextItemOr_strings
    obtain ⟨afterReturnType, hreturnType, hitems⟩ := hitems.exists_nextItem id
      (fun v => TypeRef.decode_of_presents) 2 wanted
    obtain ⟨afterParameters, hparameters, hitems⟩ :=
      hitems.exists_nextItemOr_list fun p v => Parameter.decode_of_presents
    obtain ⟨afterAnnotations, hannotations, hitems⟩ :=
      hitems.exists_nextItemOr_list fun a v => Annotation.decode_of_presents
    rw [decode, hname]
    simp only [bind, Except.bind, hmodifiers, hreturnType, hparameters, hannotations,
      hitems.noMore, pure, Except.pure]

end Method

/-! ## Members -/

namespace Member

/-- The parts of a member.  A member without content can have any word but two as its tag. -/
def parts : Member → List RecordPart
  | .field f => .just "kind" (.string "field") :: f.parts
  | .method m => .just "kind" (.string "method") :: m.parts
  | .other =>
    [⟨"kind", fun v => ∃ word, v = .string word ∧ word ≠ "field" ∧ word ≠ "method", False⟩]

/-- The values that present a member. -/
def Presents (member : Member) : Json → Prop := Json.Presents member.parts

/-- What a member is written as presents it. -/
lemma presents_toJson (member : Member) : member.Presents member.toJson := by
  cases member with
  | field f =>
    exact .object (Json.Kept.present rfl (.present rfl (.present rfl
      (.present f.type.presents_toJson .nil)))).presentsByKey
  | method m =>
    have hparameters := Json.presentsAll_map Parameter.presents_toJson m.parameters
    have hannotations := Json.presentsAll_map Annotation.presents_toJson m.annotations
    exact .object (Json.Kept.present rfl (.present rfl (.present rfl
      (.present m.returnType.presents_toJson (.present hparameters
      (.present hannotations .nil)))))).presentsByKey
  | other =>
    exact .object (Json.Kept.presentsByKey
      (.present ⟨"other", rfl, by decide, by decide⟩ .nil))

lemma decodeTag_other {word : String} (hfield : word ≠ "field") (hmethod : word ≠ "method") :
    Tag.decode (.string word) = .ok .other := by
  unfold Tag.decode
  split <;> simp_all [pure, Except.pure]

lemma decodeRest_other {rest : Json} (h : Json.Presents [] rest) :
    decodeRest .other rest = .ok .other := by
  cases h with
  | object => rfl
  | array hitems =>
    cases hitems
    rfl

/-- A member is decoded by its tag, and the rest of it as the tag says. -/
lemma decode_of_tag {presents : Json → Prop} {parts : List RecordPart} {tag : Tag} {member : Member}
    {v : Json} {levels : ℕ} (h : Json.Presents (⟨"kind", presents, False⟩ :: parts) v)
    (hkey : "kind" ∉ Json.keys parts) (hdepth : v.depth ≤ levels)
    (htag : ∀ w, presents w → Tag.decode w.reading = .ok tag)
    (hrest : ∀ rest, Json.Presents parts rest → decodeRest tag rest = .ok member) :
    decode levels v.reading = .ok member := by
  obtain ⟨rest, htagged, hpresents⟩ := @Json.Presents.exists_asTagged Tag
    "internally tagged enum Member" tag _ _ _ (fun w => Tag.decode w.reading) h hkey id htag
  rw [decode, Json.asTagged_reading_eq hdepth, htagged]
  exact hrest rest hpresents

/-- Every presentation of a member is decoded as the member, if it is not nested too deep. -/
lemma decode_of_presents {member : Member} {v : Json} (h : member.Presents v) {levels : ℕ}
    (hdepth : v.depth ≤ levels) : decode levels v.reading = .ok member := by
  cases member with
  | field f =>
    have hkey : "kind" ∉ Json.keys f.parts := by
      rw [Field.keys_parts]
      decide
    have htag : ∀ w, w = Json.string "field" → Tag.decode w.reading = .ok .field := by
      rintro _ rfl
      rfl
    refine decode_of_tag h hkey hdepth htag fun rest hrest => ?_
    simp only [decodeRest, Field.decode_of_presents hrest, bind, Except.bind, pure, Except.pure]
  | method m =>
    have hkey : "kind" ∉ Json.keys m.parts := by
      rw [Method.keys_parts]
      decide
    have htag : ∀ w, w = Json.string "method" → Tag.decode w.reading = .ok .method := by
      rintro _ rfl
      rfl
    refine decode_of_tag h hkey hdepth htag fun rest hrest => ?_
    simp only [decodeRest, Method.decode_of_presents hrest, bind, Except.bind, pure, Except.pure]
  | other =>
    refine decode_of_tag h List.not_mem_nil hdepth ?_ fun rest => decodeRest_other
    rintro _ ⟨word, rfl, hfield, hmethod⟩
    exact decodeTag_other hfield hmethod

end Member

/-! ## Declarations -/

namespace Declaration

/-- The parts of a declaration. -/
def parts (d : Declaration) : List RecordPart :=
  [.just "kind" (.string d.kind.word), .just "name" (.string d.name),
    .strings "modifiers" d.modifiers, .list "members" Member.Presents d.members,
    .strings "extends" d.parents, .strings "implements" d.interfaces]

/-- The values that present a declaration. -/
def Presents (d : Declaration) : Json → Prop := Json.Presents d.parts

/-- The values that present a list of declarations. -/
def ListPresents : List Declaration → Json → Prop := PresentsAll Presents

lemma keys_parts (d : Declaration) :
    Json.keys d.parts = ["kind", "name", "modifiers", "members", "extends", "implements"] := rfl

/-- What a declaration is written as presents it. -/
lemma presents_toJson (d : Declaration) : d.Presents d.toJson := by
  have hmembers := Json.presentsAll_map Member.presents_toJson d.members
  exact .object (Json.Kept.present rfl (.present rfl (.present rfl (.present hmembers
    (.present rfl (.present rfl .nil)))))).presentsByKey

/-- What has been read of a declaration after some keys. -/
def Draft.of (d : Declaration) (seen : List String) : Draft where
  kind := slot seen "kind" d.kind
  name := slot seen "name" d.name
  modifiers := slot seen "modifiers" d.modifiers
  members := slot seen "members" d.members
  parents := slot seen "extends" d.parents
  interfaces := slot seen "implements" d.interfaces

lemma Draft.step_known (d : Declaration) {levels : ℕ} :
    ∀ part ∈ d.parts, ∀ v, part.Presents v → v.depth ≤ levels → ∀ seen, part.key ∉ seen →
      step levels (of d seen) (some part.key, v.reading) = .ok (of d (part.key :: seen)) := by
  simp only [parts, List.forall_mem_cons, List.not_mem_nil, false_implies, implies_true, and_true,
    RecordPart.just, RecordPart.strings, RecordPart.list]
  refine ⟨?kind, ?name, ?modifiers, ?members, ?parents, ?interfaces⟩ <;>
    intro v hv hdepth seen hseen
  case kind =>
    subst hv
    simp [step, of, Json.once, slot, hseen, Json.reading, d.kind.decode_word, bind, Except.bind,
      pure, Except.pure]
  case name =>
    subst hv
    simp [step, of, Json.once, slot, hseen, Json.reading, Json.Reading.asString, bind, Except.bind,
      pure, Except.pure]
  case members =>
    have hread := hv.asListOf_reading (fun _ _ _ h => Member.decode_of_presents h) hdepth
    simp [step, of, Json.once, slot, hseen, hread, bind, Except.bind, pure, Except.pure]
  all_goals
    subst hv
    simp [step, of, Json.once, slot, hseen, Json.asStrings_reading_of_le hdepth, bind, Except.bind,
      pure, Except.pure]

lemma Draft.step_unknown (d : Draft) {levels : ℕ} {key : String} (v : Json)
    (h : key ∉ ["kind", "name", "modifiers", "members", "extends", "implements"]) :
    step levels d (some key, v.reading) = .ok d := by
  unfold step
  split <;> simp_all [Json.skip_reading, Json.orFault, bind, Except.bind, pure, Except.pure]

/-- An item of an array that has no default. -/
lemma exists_nextItem {α : Type} {decoder : Json.Reading → Json.Decoded α} {part : RecordPart}
    {parts : List RecordPart} {items : List Json} {a : α} {levels : ℕ}
    (h : PresentsInOrder (part :: parts) items) (hpart : ¬ part.omittable)
    (hdepth : ∀ item ∈ items, item.depth ≤ levels)
    (hdecoder : ∀ v, part.Presents v → v.depth ≤ levels → decoder v.reading = .ok a)
    (index : ℕ) :
    ∃ rest, nextItem decoder .closed index (Json.readings items) = .ok (a, Json.readings rest) ∧
      PresentsInOrder parts rest ∧ ∀ item ∈ rest, item.depth ≤ levels := by
  cases h with
  | nil homittable => exact absurd (homittable part List.mem_cons_self) hpart
  | @cons _ _ v items hv hitems =>
    rw [List.forall_mem_cons] at hdepth
    refine ⟨items, ?_, hitems, hdepth.2⟩
    simp only [Json.readings, nextItem, nextItem?, hdecoder v hv hdepth.1, bind, Except.bind, pure,
      Except.pure]

/-- An item of an array, or its end if the default is taken. -/
lemma exists_nextItem? {α : Type} {decoder : Json.Reading → Json.Decoded α} {part : RecordPart}
    {parts : List RecordPart} {items : List Json} {a default : α} {levels : ℕ}
    (h : PresentsInOrder (part :: parts) items) (hpart : part.omittable → a = default)
    (hdepth : ∀ item ∈ items, item.depth ≤ levels)
    (hdecoder : ∀ v, part.Presents v → v.depth ≤ levels → decoder v.reading = .ok a) :
    ∃ read rest,
      nextItem? decoder .closed (Json.readings items) = .ok (read, Json.readings rest) ∧
      read.getD default = a ∧ PresentsInOrder parts rest ∧ ∀ item ∈ rest, item.depth ≤ levels := by
  cases h with
  | nil homittable =>
    rw [List.forall_mem_cons] at homittable
    exact ⟨none, [], rfl, (hpart homittable.1).symm, .nil homittable.2, hdepth⟩
  | @cons _ _ v items hv hitems =>
    rw [List.forall_mem_cons] at hdepth
    refine ⟨some a, items, ?_, rfl, hitems, hdepth.2⟩
    simp only [Json.readings, nextItem?, hdecoder v hv hdepth.1, bind, Except.bind, pure,
      Except.pure]

/-- Every presentation of a declaration is decoded as the declaration, if it is not nested too
deep. -/
lemma decode_of_presents {d : Declaration} {v : Json} (h : d.Presents v) {levels : ℕ}
    (hdepth : v.depth ≤ levels) : decode levels v.reading = .ok d := by
  cases h with
  | @object members hmembers =>
    rw [Json.depth] at hdepth
    obtain ⟨levels, rfl⟩ : ∃ n, levels = n + 1 := ⟨levels - 1, by omega⟩
    have hdepths : ∀ member ∈ members, member.2.depth ≤ levels :=
      Json.depthMembers_le_iff.mp (by omega)
    obtain ⟨seen, hseen, hfold⟩ := @PresentsByKey.exists_foldlM _ _ _
      (fun draft member => Draft.step levels draft (some member.1, member.2.reading)) (Draft.of d)
      hmembers (by rw [keys_parts]; decide)
      (fun part hpart v hv hpresents => Draft.step_known d part hpart v hpresents (hdepths _ hv))
      (fun key v _ hkey _ => Draft.step_unknown _ v hkey)
    simp only [parts, List.forall_mem_cons, List.not_mem_nil, false_implies, implies_true,
      and_true, RecordPart.just, RecordPart.strings, RecordPart.list, or_false] at hseen
    obtain ⟨hkind, hname, hmodifiers, hmembers', hparents, hinterfaces⟩ := hseen
    have hnone : Draft.of d [] = {} := rfl
    rw [Json.reading, decode, Json.Reading.enter, Json.memberReadings_eq_map, List.foldlM_map,
      ← hnone, hfold]
    simp [Draft.of, Json.required_slot hkind, Json.required_slot hname,
      Json.getD_slot hmodifiers, Json.getD_slot hmembers', Json.getD_slot hparents,
      Json.getD_slot hinterfaces, Json.Ending.check, Json.orFault, bind, Except.bind, pure,
      Except.pure]
  | @array items hitems =>
    rw [Json.depth] at hdepth
    obtain ⟨levels, rfl⟩ : ∃ n, levels = n + 1 := ⟨levels - 1, by omega⟩
    have hdepths : ∀ item ∈ items, item.depth ≤ levels :=
      Json.depthItems_le_iff.mp (by omega)
    have hstrings : ∀ ss v, v = Json.strings ss → v.depth ≤ levels →
        v.reading.asStrings levels = .ok ss := by
      rintro ss _ rfl hdepth
      exact Json.asStrings_reading_of_le hdepth
    have hword : ∀ v, v = Json.string d.kind.word → v.depth ≤ levels →
        ClassifierKind.decode levels v.reading = .ok d.kind := by
      rintro _ rfl -
      exact d.kind.decode_word levels
    have hstring : ∀ v, v = Json.string d.name → v.depth ≤ levels →
        v.reading.asString = .ok d.name := by
      rintro _ rfl -
      rfl
    obtain ⟨afterKind, hkind, hitems, hdepths⟩ := exists_nextItem hitems id hdepths hword 0
    obtain ⟨afterName, hname, hitems, hdepths⟩ := exists_nextItem hitems id hdepths hstring 1
    obtain ⟨modifiers, afterModifiers, hmodifiers, hmodifiers', hitems, hdepths⟩ :=
      exists_nextItem? hitems id hdepths (hstrings _)
    obtain ⟨members, afterMembers, hmembers, hmembers', hitems, hdepths⟩ :=
      exists_nextItem? hitems id hdepths fun v hv =>
        hv.asListOf_reading fun _ _ _ h => Member.decode_of_presents h
    obtain ⟨parents, afterParents, hparents, hparents', hitems, hdepths⟩ :=
      exists_nextItem? hitems id hdepths (hstrings _)
    obtain ⟨interfaces, afterInterfaces, hinterfaces, hinterfaces', hitems, -⟩ :=
      exists_nextItem? hitems id hdepths (hstrings _)
    cases hitems
    rw [Json.reading, decode, Json.Reading.enter]
    simp only [hkind, hname, hmodifiers, hmembers, hparents, hinterfaces, Json.readings, bind,
      Except.bind, pure, Except.pure]
    rw [hmodifiers', hmembers', hparents', hinterfaces']

/-- Every presentation of a list of declarations is decoded as the list, if it is not nested too
deep. -/
lemma decodeList_of_presents {ds : List Declaration} {v : Json} (h : ListPresents ds v)
    {levels : ℕ} (hdepth : v.depth ≤ levels) : decodeList levels v.reading = .ok ds :=
  h.asListOf_reading (fun _ _ _ h => decode_of_presents h) hdepth

/-- The value that a list of declarations is written as presents the list, and every text whose
value presents it, nested at most 127 deep, is decoded as the list. -/
theorem listOfText_of_presents (ds : List Declaration) :
    ListPresents ds (listToJson ds) ∧
      (∀ v text, ListPresents ds v → Json.ofText text = .ok v → listOfText text = .ok ds) ∧
      ∀ v (layout : Json.Layout), ListPresents ds v → v.Whole → v.depth ≤ 127 →
        listOfText (layout.write v) = .ok ds := by
  have hread : ∀ v text, ListPresents ds v → Json.ofText text = .ok v →
      listOfText text = .ok ds := by
    intro v text hpresents htext
    obtain ⟨hdecode, hdepth⟩ := Json.decode_of_ofText htext (decodeList Json.Reading.maxDepth)
    exact hdecode.trans (decodeList_of_presents hpresents hdepth)
  refine ⟨Json.presentsAll_map presents_toJson ds, hread, ?_⟩
  intro v layout hpresents hwhole hdepth
  exact hread v (layout.write v) hpresents (hwhole.ofText_write hdepth layout)

/-! ## An example -/

/-- A class with a field, a method and a member without content. -/
def crate : Declaration where
  kind := .classType
  name := "Crate"
  members := [
    .field { name := "content", type := ⟨"List", [.named "int"], 0, none⟩ },
    .method {
      name := "open", returnType := .named "int", parameters := [⟨"key", .named "int"⟩]
      annotations := [.single .trigger ⟨"Shut", .one "Open"⟩] },
    .other]

/-- The field of `crate` from behind, with an unknown key and the type as a text. -/
def crateField : Json.Members :=
  [("kind", .string "field"), ("name", .string "content"), ("type", .string "List<int>"),
    ("doc", .array [.null])].reverse

/-- The method of `crate` as an array, in which everything but the modifiers is one as well. -/
def crateMethod : List Json :=
  [.string "method", .string "open", .strings [], .string "int",
    .array [.array [.string "key", .string "int"]],
    .array [.array [.string "Trigger", .string "Shut", .string "Open"]]]

/-- The class as an array without the two lists at its end. -/
def crateItems : List Json :=
  [.string "class", .string "Crate", .strings [],
    .array [.object crateField, .array crateMethod, .object [("kind", .string "constructor")]]]

lemma wellFormed_int : (TypeRef.named "int").WellFormed :=
  .named (.word (TypeRef.isWord_of_all (by decide) rfl)) (fun _ h => absurd h List.not_mem_nil)

lemma presents_int : (TypeRef.named "int").Presents (.string "int") :=
  TypeRef.presents_iff.mpr (.inl ⟨_, rfl, wellFormed_int.parse_text⟩)

lemma presents_crateField :
    (Member.field { name := "content", type := ⟨"List", [.named "int"], 0, none⟩ }).Presents
      (.object crateField) := by
  have hlist : (⟨"List", [.named "int"], 0, none⟩ : TypeRef).WellFormed :=
    .named (.word (TypeRef.isWord_of_all (by decide) rfl)) (by simpa using wellFormed_int)
  have htype : (⟨"List", [.named "int"], 0, none⟩ : TypeRef).Presents (.string "List<int>") :=
    TypeRef.presents_iff.mpr (.inl ⟨_, rfl, hlist.parse_text⟩)
  have hperm : crateField.Perm
      ([("kind", .string "field"), ("name", .string "content"), ("type", .string "List<int>")] ++
        [("doc", .array [.null])]) := List.reverse_perm _
  refine .object ⟨_, _, hperm, ?_, ?_⟩
  · exact .present rfl (.present rfl (.absent rfl (.present htype .nil)))
  · rw [List.forall_mem_singleton]
    decide

lemma presents_crateMethod :
    (Member.method {
      name := "open", returnType := .named "int", parameters := [⟨"key", .named "int"⟩]
      annotations := [.single .trigger ⟨"Shut", .one "Open"⟩] }).Presents (.array crateMethod) := by
  have hparameter : (⟨"key", .named "int"⟩ : Parameter).Presents
      (.array [.string "key", .string "int"]) :=
    .array (.cons rfl (.cons presents_int (.nil nofun)))
  have hannotation : (.single .trigger ⟨"Shut", .one "Open"⟩ : Annotation).Presents
      (.array [.string "Trigger", .string "Shut", .string "Open"]) :=
    .array (.cons rfl (.cons rfl (.cons rfl (.nil nofun))))
  exact .array (.cons rfl (.cons rfl (.cons rfl (.cons presents_int
    (.cons ⟨_, rfl, .cons hparameter .nil⟩ (.cons ⟨_, rfl, .cons hannotation .nil⟩
    (.nil nofun)))))))

lemma presents_crateItems : crate.Presents (.array crateItems) := by
  have hother : Member.other.Presents (.object [("kind", .string "constructor")]) :=
    .object (Json.Kept.presentsByKey (.present ⟨"constructor", rfl, by decide, by decide⟩ .nil))
  have hmembers : PresentsAll Member.Presents crate.members _ :=
    ⟨_, rfl, .cons presents_crateField (.cons presents_crateMethod (.cons hother .nil))⟩
  refine .array (.cons rfl (.cons rfl (.cons rfl (.cons hmembers (.nil ?_)))))
  simp [RecordPart.strings, crate]

/-- A class is read from its array as from its object. -/
theorem listOfText_of_crateItems :
    ListPresents [crate] (.array [.array crateItems]) ∧
      Json.ofText (Json.Layout.oneLine.write (.array [.array crateItems])) =
        .ok (.array [.array crateItems]) ∧
      listOfText (Json.Layout.oneLine.write (.array [.array crateItems])) = .ok [crate] ∧
      listOfText (Json.Layout.manyLines.write (.array [.array crateItems])) = .ok [crate] := by
  have hpresents : ListPresents [crate] (.array [.array crateItems]) :=
    ⟨_, rfl, .cons presents_crateItems .nil⟩
  have hwhole : (Json.array [.array crateItems]).Whole := by
    simp [Json.whole_array_iff, Json.whole_object_iff, crateItems, crateField, crateMethod,
      Json.strings, Json.Whole.string, Json.Whole.null]
  have hdepth : (Json.array [.array crateItems]).depth ≤ 127 := by decide
  have htext := hwhole.ofText_write hdepth .oneLine
  obtain ⟨-, hread, hwritten⟩ := listOfText_of_presents [crate]
  exact ⟨hpresents, htext, hread _ _ hpresents htext, hwritten _ _ hpresents hwhole hdepth⟩

end Declaration

end JavaUml
