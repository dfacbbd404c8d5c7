/-
# Presentations of annotations

An entry is a record of two parts.  An annotation is a tagged record, whose parts are those of its
entry or the list of its entries.  Every presentation of an annotation is decoded as the annotation
(`Annotation.decode_of_presents`).
-/
import JavaUml.Annotation.Json
import JavaUml.Proofs.Declaration.Json
import JavaUml.Proofs.Json.Presentation

namespace JavaUml

open Json (RecordPart PresentsByKey PresentsAll slot)

/-! ## Entries -/

namespace Endpoints

/-- The parts of an entry. -/
def parts (e : Endpoints) : List RecordPart :=
  [.just "from" (.string e.source), .just "to" e.targets.toJson]

/-- The values that present an entry. -/
def Presents (e : Endpoints) : Json → Prop := Json.Presents e.parts

lemma nodup_keys_parts (e : Endpoints) : (Json.keys e.parts).Nodup := by
  have hkeys : Json.keys e.parts = ["from", "to"] := rfl
  rw [hkeys]
  decide

lemma presentsByKey_toMembers (e : Endpoints) : PresentsByKey e.parts e.toMembers :=
  (Json.Kept.present rfl (.present rfl .nil)).presentsByKey

/-- What has been read of an entry after some keys. -/
def Draft.of (e : Endpoints) (seen : List String) : Draft where
  source := slot seen "from" e.source
  targets := slot seen "to" e.targets

lemma Draft.step_known (e : Endpoints) :
    ∀ part ∈ e.parts, ∀ v, part.Presents v → ∀ seen, part.key ∉ seen →
      step (of e seen) (part.key, v) = .ok (of e (part.key :: seen)) := by
  simp only [parts, List.forall_mem_cons, List.not_mem_nil, false_implies, implies_true, and_true,
    RecordPart.just]
  refine ⟨?source, ?targets⟩ <;> rintro v rfl seen hseen
  case source =>
    simp [step, of, Json.once, slot, hseen, Json.asString, bind, Except.bind, pure, Except.pure]
  case targets =>
    simp [step, of, Json.once, slot, hseen, Targets.decode_toJson, bind, Except.bind, pure,
      Except.pure]

lemma Draft.step_unknown (d : Draft) {key : String} (v : Json) (h : key ∉ ["from", "to"]) :
    d.step (key, v) = .ok d := by
  unfold step
  split <;> simp_all [pure, Except.pure]

/-- Every presentation of an entry is decoded as the entry. -/
lemma decode_of_presents {e : Endpoints} {v : Json} (h : e.Presents v) : decode v = .ok e := by
  cases h with
  | @object members hmembers =>
    obtain ⟨seen, hseen, hfold⟩ := @PresentsByKey.exists_foldlM _ _ _ Draft.step (Draft.of e)
      hmembers e.nodup_keys_parts (fun part hpart v _ => Draft.step_known e part hpart v)
      (fun key v _ hkey _ => Draft.step_unknown _ v hkey)
    simp only [parts, List.forall_mem_cons, List.not_mem_nil, false_implies, implies_true,
      and_true, RecordPart.just, or_false] at hseen
    have hnone : Draft.of e [] = {} := rfl
    rw [decode, ← hnone, hfold]
    simp [Draft.of, Json.required_slot hseen.1, Json.required_slot hseen.2, bind, Except.bind, pure,
      Except.pure]
  | @array items hitems =>
    obtain ⟨afterSource, hsource, hitems⟩ :=
      hitems.exists_nextItem_just (rfl : (Json.string e.source).asString = .ok e.source) 0 wanted
    obtain ⟨afterTargets, htargets, hitems⟩ :=
      hitems.exists_nextItem_just (Targets.decode_toJson e.targets) 1 wanted
    rw [decode, hsource]
    simp only [bind, Except.bind, htargets, hitems.noMore, pure, Except.pure]

end Endpoints

/-! ## Annotations -/

namespace Annotation

/-- The part that holds the entries of a group. -/
def entriesPart (entries : List Endpoints) : RecordPart :=
  ⟨"value", PresentsAll Endpoints.Presents entries, False⟩

/-- The parts of an annotation behind its tag. -/
def contents : Annotation → List RecordPart
  | .single _ entry => entry.parts
  | .group _ entries => [entriesPart entries]

/-- The parts of an annotation. -/
def parts (a : Annotation) : List RecordPart := .just "family" (.string a.family.name) :: a.contents

/-- The values that present an annotation. -/
def Presents (a : Annotation) : Json → Prop := Json.Presents a.parts

/-- What an annotation is written as presents it. -/
lemma presents_toJson (a : Annotation) : a.Presents a.toJson := by
  cases a with
  | single channel entry =>
    exact .object (Json.Kept.present rfl (.present rfl (.present rfl .nil))).presentsByKey
  | group channel entries =>
    have hentries : PresentsAll Endpoints.Presents entries
        (.array (entries.map fun e => .object e.toMembers)) :=
      Json.presentsAll_map (fun e => .object e.presentsByKey_toMembers) entries
    exact .object (Json.Kept.present rfl (.present hentries .nil)).presentsByKey

/-- Reads a member of the object that holds the entries of a group. -/
def readEntries (entries : Option (List Endpoints)) (member : String × Json) :
    Json.Decoded (Option (List Endpoints)) := do
  if member.1 = "value" then
    Json.once "value" entries
    return some (← member.2.asListOf Endpoints.decode)
  else
    return entries

lemma decodeEntries_object (family : Family) (members : List (String × Json)) :
    decodeEntries family (.object members) =
      members.foldlM readEntries none >>= Json.required "value" := rfl

lemma asListOf_of_presentsAll {entries : List Endpoints} {v : Json}
    (h : PresentsAll Endpoints.Presents entries v) :
    v.asListOf Endpoints.decode = .ok entries :=
  h.asListOf fun _ _ => Endpoints.decode_of_presents

lemma readEntries_known (entries : List Endpoints) :
    ∀ part ∈ [entriesPart entries], ∀ v, part.Presents v → ∀ seen, part.key ∉ seen →
      readEntries (slot seen "value" entries) (part.key, v) =
        .ok (slot (part.key :: seen) "value" entries) := by
  rw [List.forall_mem_singleton]
  intro v hv seen hseen
  have hread := asListOf_of_presentsAll hv
  have hnew : "value" ∉ seen := hseen
  simp [entriesPart, readEntries, Json.once, slot, hnew, hread, bind, Except.bind, pure,
    Except.pure]

lemma readEntries_unknown (entries : Option (List Endpoints)) {key : String} (v : Json)
    (h : key ≠ "value") : readEntries entries (key, v) = .ok entries := by
  rw [readEntries, if_neg h]
  rfl

lemma decodeEntries_of_presents (family : Family) {entries : List Endpoints} {v : Json}
    (h : Json.Presents [entriesPart entries] v) : decodeEntries family v = .ok entries := by
  cases h with
  | @object members hmembers =>
    obtain ⟨seen, hseen, hfold⟩ := @PresentsByKey.exists_foldlM _ _ _ readEntries
      (fun seen => slot seen "value" entries) hmembers (by simp [Json.keys])
      (fun part hpart v _ => readEntries_known entries part hpart v)
      (fun key v _ hkey seen =>
        readEntries_unknown _ v (by simpa [Json.keys, entriesPart] using hkey))
    have hvalue : "value" ∈ seen := (hseen _ List.mem_cons_self).resolve_right id
    rw [Json.slot_nil] at hfold
    rw [decodeEntries_object, hfold]
    exact Json.required_slot hvalue entries
  | @array items hitems =>
    obtain ⟨afterEntries, hentries, hitems⟩ := hitems.exists_nextItem id
      (fun v => asListOf_of_presentsAll) 0
      ("struct variant Annotation::" ++ family.name ++ " with 1 element")
    simp only [decodeEntries, hentries, bind, Except.bind, hitems.noMore, pure, Except.pure]

lemma family_notMem_keys_contents (a : Annotation) : "family" ∉ Json.keys a.contents := by
  cases a with
  | single channel entry =>
    have hkeys : Json.keys entry.parts = ["from", "to"] := rfl
    rw [contents, hkeys]
    decide
  | group channel entries => exact (by decide : "family" ∉ ["value"])

lemma decodeRest_of_presents {a : Annotation} {rest : Json} (h : Json.Presents a.contents rest) :
    decodeRest a.family rest = .ok a := by
  cases a with
  | single channel entry =>
    simp only [decodeRest, family, Endpoints.decode_of_presents h, bind, Except.bind, pure,
      Except.pure, Bool.false_eq_true, if_false]
  | group channel entries =>
    simp only [decodeRest, family, decodeEntries_of_presents _ h, bind, Except.bind, pure,
      Except.pure, if_true]

/-- Every presentation of an annotation is decoded as the annotation. -/
lemma decode_of_presents {a : Annotation} {v : Json} (h : a.Presents v) : decode v = .ok a := by
  have htag : ∀ w, w = .string a.family.name → Family.decode w = .ok a.family := by
    rintro _ rfl
    exact Family.decode_name a.family
  obtain ⟨rest, hrest, hpresents⟩ :=
    Json.Presents.exists_asTagged h a.family_notMem_keys_contents id htag
  have hrest' : v.asTagged "family" wanted Family.decode = .ok (a.family, rest) := hrest
  rw [decode, hrest']
  exact decodeRest_of_presents hpresents

end Annotation

end JavaUml
