/-
# Presentations of types

A type can be presented as a text that denotes it, or as an object with its parts, and its arguments
in either way.  Every presentation is read as the type (`ofJson?_of_presents`).
-/
import JavaUml.Proofs.Json.Presentation
import JavaUml.Proofs.TypeRef.Json

namespace JavaUml.TypeRef

open Json (RecordPart PresentsByKey PresentsAll slot)

/-- The parts of a type, of which one presents the arguments. -/
def partsWith (presentsArguments : Json → Prop) (t : TypeRef) : List RecordPart :=
  [.just "name" (.string t.name), ⟨"arguments", presentsArguments, t.arguments = []⟩,
    ⟨"dimensions", (· = .nat t.dimensions), t.dimensions = 0⟩,
    ⟨"wildcard", fun v => ∃ bound, t.wildcard = some bound ∧ v = .string bound.keyword,
      t.wildcard = none⟩]

mutual

/-- The values that present a type: a text or an object. -/
def Presents : TypeRef → Json → Prop
  | ⟨name, arguments, dimensions, wildcard⟩, v =>
    (∃ s, v = .string s ∧ parse s = .ok ⟨name, arguments, dimensions, wildcard⟩) ∨
      ∃ members, v = .object members ∧
        PresentsByKey
          (partsWith (fun v => ∃ items, v = .array items ∧ PresentsItems arguments items)
            ⟨name, arguments, dimensions, wildcard⟩)
          members

/-- The values that present some types one by one. -/
def PresentsItems : List TypeRef → List Json → Prop
  | [], items => items = []
  | t :: ts, items => ∃ v rest, items = v :: rest ∧ Presents t v ∧ PresentsItems ts rest

end

lemma presentsItems_iff {ts : List TypeRef} {items : List Json} :
    PresentsItems ts items ↔ List.Forall₂ Presents ts items := by
  induction ts generalizing items with
  | nil => rw [PresentsItems, List.forall₂_nil_left_iff]
  | cons t ts ih =>
    simp only [PresentsItems, ih, List.forall₂_cons_left_iff]
    constructor
    · rintro ⟨v, rest, rfl, hv, hrest⟩
      exact ⟨v, rest, hv, hrest, rfl⟩
    · rintro ⟨v, rest, hv, hrest, rfl⟩
      exact ⟨v, rest, rfl, hv, hrest⟩

/-- The parts of a type. -/
def parts (t : TypeRef) : List RecordPart := t.partsWith (PresentsAll Presents t.arguments)

lemma presents_iff {t : TypeRef} {v : Json} :
    t.Presents v ↔ (∃ s, v = .string s ∧ parse s = .ok t) ∨
      ∃ members, v = .object members ∧ PresentsByKey t.parts members := by
  obtain ⟨name, arguments, dimensions, wildcard⟩ := t
  simp only [Presents, presentsItems_iff]
  rfl

lemma keys_parts (t : TypeRef) :
    Json.keys t.parts = ["name", "arguments", "dimensions", "wildcard"] := rfl

lemma nodup_keys_parts (t : TypeRef) : (Json.keys t.parts).Nodup := by
  rw [keys_parts]
  decide

/-! ## Written types -/

/-- What a type is written as presents it. -/
lemma presents_toJson (t : TypeRef) : t.Presents t.toJson := by
  induction t using TypeRef.induction with
  | type name arguments dimensions wildcard ih =>
    have harguments : PresentsAll Presents arguments (.array (toJsons arguments)) := by
      rw [toJsons_eq_map]
      exact ⟨_, rfl, List.forall₂_map_right_iff.mpr (List.forall₂_same.mpr ih)⟩
    unfold toJson
    rw [List.append_assoc]
    refine presents_iff.mpr (.inr ⟨_, rfl, Json.Kept.presentsByKey ?_⟩)
    refine .present rfl (.optional List.isEmpty_iff.mp (fun _ => harguments) ?_)
    refine .optional id (fun _ => rfl) ?_
    cases wildcard with
    | none => exact .absent rfl .nil
    | some bound => exact .present ⟨bound, rfl, rfl⟩ .nil

/-! ## Reading -/

/-- What has been read of a type after some keys. -/
def Draft.of (t : TypeRef) (seen : List String) : Draft where
  name := slot seen "name" t.name
  arguments := slot seen "arguments" t.arguments
  dimensions := slot seen "dimensions" t.dimensions
  wildcard := slot seen "wildcard" t.wildcard

/-- Reading a part that has not come yet. -/
lemma ofMembers?_known {t : TypeRef}
    (harguments : ∀ v, PresentsAll Presents t.arguments v → argumentsOfJson? v = some t.arguments) :
    ∀ part ∈ t.parts, ∀ v, part.Presents v → ∀ seen rest, part.key ∉ seen →
      ofMembers? (.of t seen) ((part.key, v) :: rest) =
        ofMembers? (.of t (part.key :: seen)) rest := by
  simp only [parts, partsWith, List.forall_mem_cons, List.not_mem_nil, false_implies, implies_true,
    and_true, RecordPart.just]
  refine ⟨?name, ?arguments, ?dimensions, ?wildcard⟩ <;> intro v hv seen rest hseen
  case name =>
    subst hv
    simp [ofMembers?, Draft.of, slot, hseen, store?, nameOfJson?]
  case arguments => simp [ofMembers?, Draft.of, slot, hseen, store?, harguments v hv]
  case dimensions =>
    subst hv
    simp [ofMembers?, Draft.of, slot, hseen, store?, dimensionsOfJson?, Json.nat]
  case wildcard =>
    obtain ⟨bound, hbound, rfl⟩ := hv
    simp [ofMembers?, Draft.of, slot, hseen, store?, wildcardOfJson?_keyword, hbound]

lemma ofMembers?_unknown (d : Draft) {key : String} (v : Json) (rest : List (String × Json))
    (h : key ∉ ["name", "arguments", "dimensions", "wildcard"]) :
    ofMembers? d ((key, v) :: rest) = ofMembers? d rest := by
  rw [ofMembers?] <;> simp_all

/-- A draft in which only parts with defaults are missing. -/
lemma Draft.build?_of {t : TypeRef} {seen : List String}
    (h : ∀ part ∈ t.parts, part.key ∈ seen ∨ part.omittable) : (of t seen).build? = some t := by
  simp only [parts, partsWith, List.forall_mem_cons, List.not_mem_nil, false_implies, implies_true,
    and_true, RecordPart.just, or_false] at h
  obtain ⟨hname, harguments, hdimensions, hwildcard⟩ := h
  obtain ⟨name, arguments, dimensions, wildcard⟩ := t
  simp [build?, of, Json.slot_of_mem hname, Json.getD_slot harguments, Json.getD_slot hdimensions,
    Json.getD_slot hwildcard]

lemma parse?_eq_some {s : String} {t : TypeRef} (h : parse s = .ok t) : parse? s = some t := by
  unfold parse at h
  cases hread : parse? s with
  | none =>
    rw [hread] at h
    cases h
  | some u =>
    rw [hread] at h
    cases h
    rfl

lemma ofItems?_of_forall₂ {ts : List TypeRef} {items : List Json}
    (h : List.Forall₂ (fun t v => ofJson? v = some t) ts items) : ofItems? items = some ts := by
  induction h with
  | nil => rfl
  | cons hv _ ih =>
    rw [ofItems?, hv, ih]
    rfl

/-- Every presentation of a type is read as the type. -/
lemma ofJson?_of_presents {t : TypeRef} {v : Json} (h : t.Presents v) : ofJson? v = some t := by
  induction t using TypeRef.induction generalizing v with
  | type name arguments dimensions wildcard ih =>
    have harguments : ∀ v, PresentsAll Presents arguments v →
        argumentsOfJson? v = some arguments := by
      rintro _ ⟨items, rfl, hitems⟩
      have hread : List.Forall₂ (fun t v => ofJson? v = some t) arguments items :=
        ((List.forall₂_and_left _ _).mpr ⟨ih, hitems⟩).imp fun t v h => h.1 h.2
      rw [argumentsOfJson?, ofItems?_of_forall₂ hread]
    rcases presents_iff.mp h with ⟨s, rfl, hs⟩ | ⟨members, rfl, hmembers⟩
    · rw [ofJson?]
      exact parse?_eq_some hs
    · obtain ⟨seen, hseen, hrun⟩ := @Json.PresentsByKey.exists_seen _ _ _ _ ofMembers? (Draft.of _)
        hmembers (nodup_keys_parts _)
        (fun part hpart v _ => ofMembers?_known harguments part hpart v)
        (fun key v _ hkey seen rest => ofMembers?_unknown _ v rest hkey)
      have hnone : (Draft.of ⟨name, arguments, dimensions, wildcard⟩ []) = {} := rfl
      rw [ofJson?, ← hnone, hrun, ofMembers?, Draft.build?_of hseen]

/-- Every presentation of a type is decoded as the type. -/
lemma decode_of_presents {t : TypeRef} {v : Json} (h : t.Presents v) : decode v = .ok t := by
  simp only [decode, ofJson?_of_presents h]
  rfl

end JavaUml.TypeRef
