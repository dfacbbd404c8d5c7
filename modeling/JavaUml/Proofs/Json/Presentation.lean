/-
# Presentations of records

A record has parts, each under a key of its own.  It can be presented as an object, whose members
stand in any order among others with unknown keys, or as an array of its parts in their order; a
part that has its default can be left out, in an array if nothing follows it (`Presents`).

Decoders keep what they have read in a draft.  What such a draft holds depends on the keys that have
come so far and not on their order (`slot`), and one step for each member leads to a draft in which
only parts with defaults are missing (`exists_seen`).

A tagged record is a record whose first part is its tag.
-/
import JavaUml.Proofs.Json.Decoding
import JavaUml.Proofs.Json.Objects
import JavaUml.Proofs.Json.RoundTrip
import JavaUml.Proofs.Loops

namespace JavaUml.Json

/-- Values that are presented one by one, as an array. -/
def PresentsAll {α : Type} (presents : α → Json → Prop) (as : List α) (v : Json) : Prop :=
  ∃ items, v = .array items ∧ List.Forall₂ presents as items

/-- A part of a record: its key, the values that present it, and whether it may be left out. -/
structure RecordPart where
  key : String
  Presents : Json → Prop
  omittable : Prop

namespace RecordPart

/-- A part that is presented by one value and has no default. -/
def just (key : String) (v : Json) : RecordPart := ⟨key, (· = v), False⟩

/-- A list of strings, which may be left out if it is empty. -/
def strings (key : String) (ss : List String) : RecordPart := ⟨key, (· = .strings ss), ss = []⟩

/-- A list of values of one kind, which may be left out if it is empty. -/
def list {α : Type} (key : String) (presents : α → Json → Prop) (as : List α) : RecordPart :=
  ⟨key, PresentsAll presents as, as = []⟩

end RecordPart

/-- The keys of some parts. -/
def keys (parts : List RecordPart) : List String := parts.map RecordPart.key

/-- Members for some parts in their order; those that are missing may be left out. -/
inductive Kept : List RecordPart → Members → Prop
  | nil : Kept [] []
  | present {part : RecordPart} {parts : List RecordPart} {v : Json} {members : Members} :
      part.Presents v → Kept parts members → Kept (part :: parts) ((part.key, v) :: members)
  | absent {part : RecordPart} {parts : List RecordPart} {members : Members} :
      part.omittable → Kept parts members → Kept (part :: parts) members

/-- Members for some parts in any order, among members with other keys. -/
def PresentsByKey (parts : List RecordPart) (members : Members) : Prop :=
  ∃ kept unknown, members.Perm (kept ++ unknown) ∧ Kept parts kept ∧
    ∀ member ∈ unknown, member.1 ∉ keys parts

/-- Items for some parts in their order; those that are missing at the end may be left out. -/
inductive PresentsInOrder : List RecordPart → List Json → Prop
  | nil {parts : List RecordPart} : (∀ part ∈ parts, part.omittable) → PresentsInOrder parts []
  | cons {part : RecordPart} {parts : List RecordPart} {v : Json} {items : List Json} :
      part.Presents v → PresentsInOrder parts items → PresentsInOrder (part :: parts) (v :: items)

/-- A record with some parts is presented as an object or as an array. -/
inductive Presents (parts : List RecordPart) : Json → Prop
  | object {members : Members} : PresentsByKey parts members → Presents parts (.object members)
  | array {items : List Json} : PresentsInOrder parts items → Presents parts (.array items)

/-! ## Objects -/

section Objects

variable {parts : List RecordPart} {members : Members}

lemma Kept.map_key_sublist (h : Kept parts members) :
    (members.map Prod.fst).Sublist (keys parts) := by
  induction h with
  | nil => exact .slnil
  | present _ _ ih => exact ih.cons_cons _
  | absent _ _ ih => exact ih.cons _

lemma Kept.key_mem (h : Kept parts members) {member : String × Json} (hm : member ∈ members) :
    member.1 ∈ keys parts := h.map_key_sublist.subset (List.mem_map_of_mem hm)

lemma Kept.presents (h : Kept parts members) (hkeys : (keys parts).Nodup) {part : RecordPart}
    (hpart : part ∈ parts) {member : String × Json} (hm : member ∈ members)
    (hkey : member.1 = part.key) : part.Presents member.2 := by
  induction h with
  | nil => exact absurd hpart List.not_mem_nil
  | @present first parts v members hv hkept ih =>
    rw [keys, List.map_cons, List.nodup_cons] at hkeys
    rcases List.mem_cons.mp hpart with rfl | hpart <;> rcases List.mem_cons.mp hm with rfl | hm
    · exact hv
    · rw [← hkey] at hkeys
      exact absurd (hkept.key_mem hm) hkeys.1
    · refine absurd ?_ hkeys.1
      rw [show first.key = part.key from hkey]
      exact List.mem_map_of_mem hpart
    · exact ih hkeys.2 hpart hm
  | @absent first parts members _ hkept ih =>
    rw [keys, List.map_cons, List.nodup_cons] at hkeys
    rcases List.mem_cons.mp hpart with rfl | hpart
    · rw [← hkey] at hkeys
      exact absurd (hkept.key_mem hm) hkeys.1
    · exact ih hkeys.2 hpart hm

lemma Kept.mem_or_omittable (h : Kept parts members) {part : RecordPart} (hpart : part ∈ parts) :
    part.key ∈ members.map Prod.fst ∨ part.omittable := by
  induction h with
  | nil => exact absurd hpart List.not_mem_nil
  | present _ _ ih =>
    rcases List.mem_cons.mp hpart with rfl | hpart
    · exact .inl List.mem_cons_self
    · exact (ih hpart).imp_left (List.mem_cons_of_mem _)
  | absent homittable _ ih =>
    rcases List.mem_cons.mp hpart with rfl | hpart
    · exact .inr homittable
    · exact ih hpart

/-- A member that is written under a condition, and else may be left out. -/
lemma Kept.optional {part : RecordPart} {v : Json} {p : Prop} [Decidable p]
    (hp : p → part.omittable) (hv : ¬ p → part.Presents v) (h : Kept parts members) :
    Kept (part :: parts) ((if p then [] else [(part.key, v)]) ++ members) := by
  by_cases hp' : p
  · rw [if_pos hp']
    exact .absent (hp hp') h
  · rw [if_neg hp']
    exact .present (hv hp') h

lemma Kept.presentsByKey (h : Kept parts members) : PresentsByKey parts members :=
  ⟨members, [], by rw [List.append_nil], h, nofun⟩

lemma PresentsByKey.presents (h : PresentsByKey parts members) (hkeys : (keys parts).Nodup)
    {part : RecordPart} (hpart : part ∈ parts) {member : String × Json} (hm : member ∈ members)
    (hkey : member.1 = part.key) : part.Presents member.2 := by
  obtain ⟨kept, unknown, hperm, hkept, hunknown⟩ := h
  rcases List.mem_append.mp (hperm.mem_iff.mp hm) with hm | hm
  · exact hkept.presents hkeys hpart hm hkey
  · refine absurd ?_ (hunknown member hm)
    rw [hkey]
    exact List.mem_map_of_mem hpart

lemma PresentsByKey.mem_or_omittable (h : PresentsByKey parts members) {part : RecordPart}
    (hpart : part ∈ parts) : part.key ∈ members.map Prod.fst ∨ part.omittable := by
  obtain ⟨kept, unknown, hperm, hkept, -⟩ := h
  refine (hkept.mem_or_omittable hpart).imp_left fun hkey => ?_
  rw [(hperm.map Prod.fst).mem_iff, List.map_append]
  exact List.mem_append_left _ hkey

/-- No key of a part stands twice. -/
lemma PresentsByKey.pairwise (h : PresentsByKey parts members) (hkeys : (keys parts).Nodup) :
    members.Pairwise fun member member' => member.1 = member'.1 → member.1 ∉ keys parts := by
  obtain ⟨kept, unknown, hperm, hkept, hunknown⟩ := h
  have hnodup : (kept.map Prod.fst).Nodup := hkept.map_key_sublist.nodup hkeys
  rw [hperm.pairwise_iff fun hne he => he ▸ hne he.symm, List.pairwise_append]
  refine ⟨?_, ?_, ?_⟩
  · exact (List.pairwise_map.mp hnodup).imp fun hne he => absurd he hne
  · exact List.pairwise_of_forall_mem_list fun m hm _ _ _ => hunknown m hm
  · intro m _ m' hm' he
    rw [he]
    exact hunknown m' hm'

end Objects

/-! ## Drafts -/

section Drafts

variable {α β ρ : Type} {parts : List RecordPart} {members : Members} {seen : List String}
  {key : String}

/-- What a draft holds of a part after some keys. -/
def slot (seen : List String) (key : String) (a : α) : Option α :=
  if key ∈ seen then some a else none

@[simp] lemma slot_nil (key : String) (a : α) : slot [] key a = none := rfl

lemma slot_of_mem (h : key ∈ seen) (a : α) : slot seen key a = some a := if_pos h

lemma getD_slot {a default : α} (h : key ∈ seen ∨ a = default) :
    (slot seen key a).getD default = a := by
  rcases h with h | rfl
  · rw [slot_of_mem h, Option.getD_some]
  · unfold slot
    split <;> rfl

/-- Going through members that have pairwise different keys among some known ones.  A known key that
is new is seen from then on; every other key says nothing. -/
lemma exists_seen_of_pairwise {known : List String} {run : β → Members → ρ} {of : List String → β}
    (hknown : ∀ member ∈ members, member.1 ∈ known → ∀ seen rest, member.1 ∉ seen →
      run (of seen) (member :: rest) = run (of (member.1 :: seen)) rest)
    (hother : ∀ member ∈ members, member.1 ∉ known → ∀ seen rest,
      run (of seen) (member :: rest) = run (of seen) rest)
    (hpairwise : members.Pairwise fun member member' =>
      member.1 = member'.1 → member.1 ∉ known)
    (hnew : ∀ member ∈ members, member.1 ∈ known → member.1 ∉ seen) :
    ∃ seen', (∀ key ∈ seen, key ∈ seen') ∧ (∀ member ∈ members, member.1 ∈ known →
      member.1 ∈ seen') ∧ run (of seen) members = run (of seen') [] := by
  induction members generalizing seen with
  | nil => exact ⟨seen, fun _ hkey => hkey, nofun, rfl⟩
  | cons member members ih =>
    rw [List.forall_mem_cons] at hknown hother hnew
    rw [List.pairwise_cons] at hpairwise
    by_cases hkey : member.1 ∈ known
    · have hnew' : ∀ m ∈ members, m.1 ∈ known → m.1 ∉ member.1 :: seen := by
        intro m hm hmkey
        rw [List.mem_cons, not_or]
        exact ⟨fun he => hpairwise.1 m hm he.symm hkey, hnew.2 m hm hmkey⟩
      obtain ⟨seen', hseen, hmembers, hrun⟩ := ih hknown.2 hother.2 hpairwise.2 hnew'
      rw [List.forall_mem_cons] at hseen
      refine ⟨seen', hseen.2, List.forall_mem_cons.mpr ⟨fun _ => hseen.1, hmembers⟩, ?_⟩
      rw [hknown.1 hkey seen members (hnew.1 hkey), hrun]
    · obtain ⟨seen', hseen, hmembers, hrun⟩ := ih hknown.2 hother.2 hpairwise.2 hnew.2
      refine ⟨seen', hseen, List.forall_mem_cons.mpr ⟨fun h => absurd h hkey, hmembers⟩, ?_⟩
      rw [hother.1 hkey seen members, hrun]

/-- Going through the members of a record leads to a draft in which only parts that may be left out
are missing. -/
lemma PresentsByKey.exists_seen {run : β → Members → ρ} {of : List String → β}
    (h : PresentsByKey parts members) (hkeys : (keys parts).Nodup)
    (hpart : ∀ part ∈ parts, ∀ v, (part.key, v) ∈ members → part.Presents v →
      ∀ seen rest, part.key ∉ seen →
        run (of seen) ((part.key, v) :: rest) = run (of (part.key :: seen)) rest)
    (hother : ∀ key v, (key, v) ∈ members → key ∉ keys parts → ∀ seen rest,
      run (of seen) ((key, v) :: rest) = run (of seen) rest) :
    ∃ seen, (∀ part ∈ parts, part.key ∈ seen ∨ part.omittable) ∧
      run (of []) members = run (of seen) [] := by
  have hknown : ∀ member ∈ members, member.1 ∈ keys parts → ∀ seen rest, member.1 ∉ seen →
      run (of seen) (member :: rest) = run (of (member.1 :: seen)) rest := by
    rintro ⟨key, v⟩ hm hkey
    obtain ⟨part, hmem, rfl⟩ := List.mem_map.mp hkey
    exact hpart part hmem v hm (h.presents hkeys hmem hm rfl)
  have hnew : ∀ member ∈ members, member.1 ∈ keys parts → member.1 ∉ ([] : List String) :=
    fun _ _ _ => List.not_mem_nil
  obtain ⟨seen, -, hseen, hrun⟩ := exists_seen_of_pairwise hknown
    (fun member hm => hother member.1 member.2 hm) (h.pairwise hkeys) hnew
  refine ⟨seen, fun part hmem => ?_, hrun⟩
  refine (h.mem_or_omittable hmem).imp_left fun hkey => ?_
  obtain ⟨member, hm, hname⟩ := List.mem_map.mp hkey
  rw [← hname]
  exact hseen member hm (hname ▸ List.mem_map_of_mem hmem)

/-- The same for a fold with a step for each member. -/
lemma PresentsByKey.exists_foldlM {step : β → String × Json → Decoded β} {of : List String → β}
    (h : PresentsByKey parts members) (hkeys : (keys parts).Nodup)
    (hpart : ∀ part ∈ parts, ∀ v, (part.key, v) ∈ members → part.Presents v →
      ∀ seen, part.key ∉ seen → step (of seen) (part.key, v) = .ok (of (part.key :: seen)))
    (hother : ∀ key v, (key, v) ∈ members → key ∉ keys parts → ∀ seen,
      step (of seen) (key, v) = .ok (of seen)) :
    ∃ seen, (∀ part ∈ parts, part.key ∈ seen ∨ part.omittable) ∧
      members.foldlM step (of []) = .ok (of seen) := by
  refine @exists_seen _ _ _ _ (fun d rest => rest.foldlM step d) of h hkeys ?_ ?_
  · intro part hmem v hm hv seen rest hseen
    rw [List.foldlM_cons, hpart part hmem v hm hv seen hseen]
    rfl
  · intro key v hm hkey seen rest
    rw [List.foldlM_cons, hother key v hm hkey seen]
    rfl

lemma required_slot (h : key ∈ seen) (a : α) : required key (slot seen key a) = .ok a := by
  rw [slot_of_mem h]
  rfl

end Drafts

/-! ## Arrays -/

section Arrays

variable {α : Type} {part : RecordPart} {parts : List RecordPart} {items : List Json} {a : α}
  {decoder : Json → Decoded α}

/-- An item for a part without a default is there. -/
lemma PresentsInOrder.exists_nextItem (h : PresentsInOrder (part :: parts) items)
    (hpart : ¬ part.omittable) (hdecoder : ∀ v, part.Presents v → decoder v = .ok a) (index : ℕ)
    (wanted : String) :
    ∃ rest, nextItem decoder index wanted items = .ok (a, rest) ∧ PresentsInOrder parts rest := by
  cases h with
  | nil homittable => exact absurd (homittable part List.mem_cons_self) hpart
  | @cons _ _ v items hv hitems =>
    refine ⟨items, ?_, hitems⟩
    rw [nextItem, hdecoder v hv]
    rfl

lemma PresentsInOrder.exists_nextItem_just {key : String} {v : Json}
    (h : PresentsInOrder (.just key v :: parts) items) (hdecoder : decoder v = .ok a) (index : ℕ)
    (wanted : String) :
    ∃ rest, nextItem decoder index wanted items = .ok (a, rest) ∧ PresentsInOrder parts rest := by
  refine h.exists_nextItem id ?_ index wanted
  rintro _ rfl
  exact hdecoder

/-- An item for a part with a default is there, or nothing follows. -/
lemma PresentsInOrder.exists_nextItemOr {default : α} (h : PresentsInOrder (part :: parts) items)
    (hpart : part.omittable → a = default) (hdecoder : ∀ v, part.Presents v → decoder v = .ok a) :
    ∃ rest, nextItemOr decoder default items = .ok (a, rest) ∧ PresentsInOrder parts rest := by
  cases h with
  | nil homittable =>
    rw [List.forall_mem_cons] at homittable
    rw [hpart homittable.1]
    exact ⟨[], rfl, .nil homittable.2⟩
  | @cons _ _ v items hv hitems =>
    refine ⟨items, ?_, hitems⟩
    rw [nextItemOr, hdecoder v hv]
    rfl

lemma PresentsInOrder.noMore (h : PresentsInOrder [] items) (count : ℕ) :
    noMore count items = .ok () := by
  cases h
  rfl

end Arrays

/-! ## Lists -/

section Lists

variable {α : Type} {presents : α → Json → Prop} {as : List α} {v : Json}

lemma presentsAll_map {f : α → Json} (h : ∀ a, presents a (f a)) (as : List α) :
    PresentsAll presents as (.array (as.map f)) :=
  ⟨as.map f, rfl, List.forall₂_map_right_iff.mpr (List.forall₂_same.mpr fun a _ => h a)⟩

lemma PresentsAll.asListOf (h : PresentsAll presents as v) {decoder : Json → Decoded α}
    (hdecoder : ∀ a v, presents a v → decoder v = .ok a) : v.asListOf decoder = .ok as := by
  obtain ⟨items, rfl, hitems⟩ := h
  exact mapM_eq_ok_iff.mpr (hitems.imp hdecoder).flip

lemma readings_eq_map (items : List Json) : readings items = items.map reading := by
  induction items with
  | nil => rfl
  | cons item items ih => rw [readings, ih, List.map_cons]

lemma PresentsAll.asListOf_reading (h : PresentsAll presents as v)
    {decoder : ℕ → Reading → Decoded α}
    (hdecoder : ∀ a v levels, presents a v → v.depth ≤ levels → decoder levels v.reading = .ok a)
    {levels : ℕ} (hlevels : v.depth ≤ levels) :
    Reading.asListOf decoder levels v.reading = .ok as := by
  obtain ⟨items, rfl, hitems⟩ := h
  rw [depth] at hlevels
  obtain ⟨levels, rfl⟩ : ∃ n, levels = n + 1 := ⟨levels - 1, by omega⟩
  have hdepth : ∀ item ∈ items, item.depth ≤ levels := depthItems_le_iff.mp (by omega)
  have hboth : List.Forall₂ (fun item a => item.depth ≤ levels ∧ presents a item) items as :=
    (List.forall₂_and_left _ _).mpr ⟨hdepth, hitems.flip⟩
  have hread : (readings items).mapM (decoder levels) = .ok as := by
    rw [readings_eq_map]
    refine mapM_eq_ok_iff.mpr (List.forall₂_map_left_iff.mpr ?_)
    exact hboth.imp fun v a h => hdecoder a v levels h.2 h.1
  rw [reading, Reading.asListOf, Reading.enter, hread]
  rfl

lemma asStrings_reading_of_le {ss : List String} {levels : ℕ} (h : (strings ss).depth ≤ levels) :
    (strings ss).reading.asStrings levels = .ok ss :=
  (asStrings_reading ss levels).trans (if_pos h)

lemma PresentsInOrder.exists_nextItemOr_list {key : String} {parts : List RecordPart}
    {items : List Json} (h : PresentsInOrder (.list key presents as :: parts) items)
    {decoder : Json → Decoded α} (hdecoder : ∀ a v, presents a v → decoder v = .ok a) :
    ∃ rest, nextItemOr (Json.asListOf decoder) [] items = .ok (as, rest) ∧
      PresentsInOrder parts rest :=
  h.exists_nextItemOr id fun _ hv => hv.asListOf hdecoder

lemma PresentsInOrder.exists_nextItemOr_strings {key : String} {ss : List String}
    {parts : List RecordPart} {items : List Json}
    (h : PresentsInOrder (.strings key ss :: parts) items) :
    ∃ rest, nextItemOr asStrings [] items = .ok (ss, rest) ∧ PresentsInOrder parts rest :=
  h.exists_nextItemOr id fun _ hv => hv ▸ asStrings_strings ss

end Lists

/-! ## Tags -/

section Tags

variable {τ : Type} {key wanted : String} {tag : τ} {before after : Members} {levels : ℕ}

lemma splitTag_append_cons {asTag : Json → Decoded τ} {w : Json} (htag : asTag w = .ok tag)
    (hbefore : ∀ member ∈ before, member.1 ≠ key) (hafter : ∀ member ∈ after, member.1 ≠ key) :
    splitTag key asTag none (before ++ (key, w) :: after) = .ok (some tag, before ++ after) := by
  induction before with
  | nil =>
    rw [List.nil_append, splitTag, if_pos rfl, htag]
    exact splitTag_of_forall_ne hafter _
  | cons member before ih =>
    rw [List.forall_mem_cons] at hbefore
    rw [List.cons_append, splitTag, if_neg hbefore.1, ih hbefore.2]
    rfl

/-- The tag of a record is split off, and the rest presents the rest. -/
lemma Presents.exists_asTagged {part : RecordPart} {parts : List RecordPart} {v : Json}
    {asTag : Json → Decoded τ} (h : Presents (part :: parts) v) (hkey : part.key ∉ keys parts)
    (hpart : ¬ part.omittable) (htag : ∀ w, part.Presents w → asTag w = .ok tag) :
    ∃ rest, v.asTagged part.key wanted asTag = .ok (tag, rest) ∧ Presents parts rest := by
  cases h with
  | @object members hmembers =>
    obtain ⟨kept, unknown, hperm, hkept, hunknown⟩ := hmembers
    cases hkept with
    | absent homittable _ => exact absurd homittable hpart
    | @present _ _ w kept hw hkept =>
      have hmem : (part.key, w) ∈ members := hperm.mem_iff.mpr List.mem_cons_self
      obtain ⟨before, after, rfl⟩ := List.append_of_mem hmem
      have hrest : (before ++ after).Perm (kept ++ unknown) :=
        (List.perm_middle.symm.trans hperm).cons_inv
      have hunknown' : ∀ member ∈ unknown, member.1 ∉ keys parts := fun member hm hk =>
        hunknown member hm (List.mem_cons_of_mem _ hk)
      have hne : ∀ member ∈ before ++ after, member.1 ≠ part.key := by
        intro member hm he
        rcases List.mem_append.mp (hrest.mem_iff.mp hm) with hm | hm
        · exact hkey (he ▸ hkept.key_mem hm)
        · exact hunknown member hm (he ▸ List.mem_cons_self)
      rw [List.forall_mem_append] at hne
      refine ⟨.object (before ++ after), ?_, .object ⟨kept, unknown, hrest, hkept, hunknown'⟩⟩
      rw [asTagged, splitTag_append_cons (htag w hw) hne.1 hne.2]
      rfl
  | @array items hitems =>
    cases hitems with
    | nil homittable => exact absurd (homittable part List.mem_cons_self) hpart
    | @cons _ _ w items hw hitems =>
      refine ⟨.array items, ?_, .array hitems⟩
      rw [asTagged, htag w hw]
      rfl

lemma value_reading_of_le {v : Json} (h : v.depth ≤ levels) : v.reading.value levels = .ok v := by
  rw [value_reading, ifWithin, if_pos h]

lemma splitTag_reading {asTag : Reading → Decoded τ} {members : Members}
    (h : depthMembers members ≤ levels) (tag : Option τ) :
    Reading.splitTag key asTag levels tag (memberReadings members) =
      splitTag key (fun w => asTag w.reading) tag members := by
  induction members generalizing tag with
  | nil => rfl
  | cons member members ih =>
    obtain ⟨name, v⟩ := member
    rw [depthMembers, Nat.max_le] at h
    rw [memberReadings, Reading.splitTag, splitTag]
    simp only [ih h.2, value_reading_of_le h.1]
    rfl

/-- A tag is split off a reading as it is split off the value. -/
lemma asTagged_reading_eq {asTag : Reading → Decoded τ} {v : Json} (h : v.depth ≤ levels) :
    v.reading.asTagged key wanted asTag levels =
      v.asTagged key wanted fun w => asTag w.reading := by
  cases v with
  | object members =>
    rw [depth] at h
    obtain ⟨levels, rfl⟩ : ∃ n, levels = n + 1 := ⟨levels - 1, by omega⟩
    rw [reading, Reading.asTagged, Reading.enter, splitTag_reading (by omega)]
    rfl
  | array items =>
    rw [depth] at h
    obtain ⟨levels, rfl⟩ : ∃ n, levels = n + 1 := ⟨levels - 1, by omega⟩
    cases items with
    | nil => rfl
    | cons item items =>
      have hdepth : depthItems items ≤ levels := by
        rw [depthItems, Nat.add_comm 1, Nat.succ_le_succ_iff, Nat.max_le] at h
        exact h.2
      have hitems : Reading.values levels (readings items) = .ok items := by
        rw [values_readings fun item _ => value_reading item levels, ifWithin, if_pos hdepth]
      rw [reading, readings, Reading.asTagged, Reading.enter, hitems]
      rfl
  | _ => rfl

end Tags

/-! ## Values that are passed over -/

lemma skipItems_readings {items : List Json} (h : ∀ item ∈ items, item.reading.skip = .ok ()) :
    Reading.skipItems (readings items) = .ok () := by
  induction items with
  | nil => rfl
  | cons item items ih =>
    rw [List.forall_mem_cons] at h
    rw [readings, Reading.skipItems, h.1, ih h.2]
    rfl

lemma skipMembers_memberReadings {members : Members}
    (h : ∀ member ∈ members, member.2.reading.skip = .ok ()) :
    Reading.skipMembers (memberReadings members) = .ok () := by
  induction members with
  | nil => rfl
  | cons member members ih =>
    rw [List.forall_mem_cons] at h
    rw [memberReadings, Reading.skipMembers, h.1, ih h.2]
    rfl

/-- Every value can be passed over. -/
lemma skip_reading (v : Json) : v.reading.skip = .ok () := by
  induction v using Json.induction with
  | array items ih =>
    rw [reading, Reading.skip, skipItems_readings ih]
    rfl
  | object members ih =>
    rw [reading, Reading.skip, skipMembers_memberReadings ih]
    rfl
  | _ => rfl

lemma memberReadings_eq_map (members : Members) :
    memberReadings members = members.map fun member => (some member.1, member.2.reading) := by
  induction members with
  | nil => rfl
  | cons member members ih => rw [memberReadings, ih, List.map_cons]

/-! ## Texts -/

/-- A decoder of a text that holds a value gets the reading of the value. -/
lemma decode_of_ofText {α : Type} {text : String} {v : Json} (h : ofText text = .ok v)
    (decoder : Reading → Decoded α) :
    decode decoder text = decoder v.reading ∧ v.depth ≤ Reading.maxDepth := by
  rw [ofText, decode] at h
  obtain ⟨w, hw, h⟩ := exists_of_bind_eq_ok h
  have hvalue : (TextReading.ofString text).value.value Reading.maxDepth = .ok w := by
    cases hread : (TextReading.ofString text).value.value Reading.maxDepth with
    | ok w' =>
      rw [hread] at hw
      cases hw
      rfl
    | error f =>
      rw [hread] at hw
      cases hw
  cases htrailing : (TextReading.ofString text).trailing with
  | true =>
    rw [htrailing] at h
    cases h
  | false =>
    rw [htrailing] at h
    cases h
    obtain ⟨hreading, hdepth⟩ := eq_reading_of_value hvalue
    refine ⟨?_, hdepth⟩
    rw [decode, hreading, htrailing]
    exact bind_pure _

end JavaUml.Json
