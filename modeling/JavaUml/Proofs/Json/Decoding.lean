/-
# Decoders of what was written

Decoders that go through a reading can meet one fault in what was written, that it is nested too
deep.  The lemmas here say so for lists, for the members of objects and for tagged records: if each
part is decoded wherever it is not too deep, then so is the whole.
-/
import JavaUml.Json.Decoding
import JavaUml.Proofs.Json.Depth

namespace JavaUml.Json

variable {α : Type}

/-- The result of a decoder that can only fail on values nested too deep. -/
def decodedWithin (depth levels : ℕ) (a : α) : Decoded α :=
  ifWithin (.fault .malformed) depth levels a

lemma orFault_ifWithin (depth levels : ℕ) (a : α) :
    orFault (ifWithin .malformed depth levels a) = decodedWithin depth levels a := by
  unfold decodedWithin ifWithin
  split <;> rfl

@[simp] lemma decodedWithin_zero (levels : ℕ) (a : α) : decodedWithin 0 levels a = .ok a :=
  ifWithin_zero levels a

/-! ## Lists -/

lemma mapM_map {decoder : Json → Decoded α} {f : α → Json} {as : List α}
    (h : ∀ a ∈ as, decoder (f a) = .ok a) : (as.map f).mapM decoder = .ok as := by
  induction as with
  | nil => rfl
  | cons a as ih =>
    rw [List.forall_mem_cons] at h
    rw [List.map_cons, List.mapM_cons, h.1, ih h.2]
    rfl

lemma asListOf_map {decoder : Json → Decoded α} {f : α → Json} {as : List α}
    (h : ∀ a ∈ as, decoder (f a) = .ok a) : (array (as.map f)).asListOf decoder = .ok as :=
  mapM_map h

lemma asStrings_strings (ss : List String) : (strings ss).asStrings = .ok ss :=
  asListOf_map fun _ _ => rfl

lemma mapM_readings {decoder : Reading → Decoded α} {f : α → Json} {levels : ℕ} {as : List α}
    (h : ∀ a ∈ as, decoder (f a).reading = decodedWithin (f a).depth levels a) :
    (readings (as.map f)).mapM decoder = decodedWithin (depthItems (as.map f)) levels as := by
  induction as with
  | nil => exact (decodedWithin_zero levels []).symm
  | cons a as ih =>
    rw [List.forall_mem_cons] at h
    rw [List.map_cons, readings, List.mapM_cons, h.1, ih h.2]
    exact ifWithin_bind (ifWithin_bind_ok rfl)

/-- Arrays and objects take up one level. -/
lemma enter_within {inside : ℕ → Decoded α} {depth levels : ℕ} {a : α}
    (h : ∀ levels, inside levels = decodedWithin depth levels a) :
    Reading.enter levels inside = decodedWithin (1 + depth) levels a := by
  cases levels with
  | zero => exact (ifWithin_succ_zero depth a).symm
  | succ levels =>
    rw [Reading.enter, h, decodedWithin, decodedWithin, ifWithin_succ]

lemma asListOf_readings {decoder : ℕ → Reading → Decoded α} {f : α → Json} {as : List α}
    (h : ∀ a ∈ as, ∀ levels, decoder levels (f a).reading = decodedWithin (f a).depth levels a)
    (levels : ℕ) :
    Reading.asListOf decoder levels (array (as.map f)).reading =
      decodedWithin (array (as.map f)).depth levels as := by
  rw [reading, depth]
  refine enter_within fun levels => ?_
  rw [mapM_readings fun a ha => h a ha levels]
  exact ifWithin_bind_ok rfl

lemma asStrings_reading (ss : List String) (levels : ℕ) :
    Reading.asStrings levels (strings ss).reading = decodedWithin (strings ss).depth levels ss :=
  asListOf_readings (fun s _ levels => (decodedWithin_zero levels s).symm) levels

/-! ## Members of objects -/

section Members

variable {β : Type} {step : β → Option String × Reading → Decoded β} {levels : ℕ}

lemma foldlM_memberReadings_nil (b : β) :
    (memberReadings []).foldlM step b = decodedWithin (depthMembers []) levels b :=
  (decodedWithin_zero levels b).symm

/-- One member after another takes as many levels as the deeper one. -/
lemma foldlM_memberReadings_cons {b b' b'' : β} {key : String} {v : Json}
    {members : List (String × Json)}
    (hfirst : step b (some key, v.reading) = decodedWithin v.depth levels b')
    (hrest : (memberReadings members).foldlM step b' =
      decodedWithin (depthMembers members) levels b'') :
    (memberReadings ((key, v) :: members)).foldlM step b =
      decodedWithin (depthMembers ((key, v) :: members)) levels b'' := by
  rw [memberReadings, List.foldlM_cons, hfirst]
  exact ifWithin_bind hrest

end Members

/-! ## Tagged records -/

section Tagged

variable {τ : Type} {key wanted tagText : String} {tag : τ} {members : List (String × Json)}

lemma splitTag_of_forall_ne {asTag : Json → Decoded τ} (h : ∀ member ∈ members, member.1 ≠ key)
    (tag : Option τ) : splitTag key asTag tag members = .ok (tag, members) := by
  induction members with
  | nil => rfl
  | cons member members ih =>
    rw [List.forall_mem_cons] at h
    rw [splitTag, if_neg h.1, ih h.2]
    rfl

/-- A tag in front of the members of a record is split off. -/
lemma asTagged_object {asTag : Json → Decoded τ} (htag : asTag (.string tagText) = .ok tag)
    (h : ∀ member ∈ members, member.1 ≠ key) :
    (object ((key, .string tagText) :: members)).asTagged key wanted asTag =
      .ok (tag, object members) := by
  rw [asTagged, splitTag, if_pos rfl, htag]
  simp only [bind, Except.bind, once, Option.isSome_none, Bool.false_eq_true, if_false, pure,
    Except.pure, splitTag_of_forall_ne h, required]

lemma splitTag_memberReadings (asTag : Reading → Decoded τ)
    (h : ∀ member ∈ members, member.1 ≠ key) (levels : ℕ) (tag : Option τ) :
    Reading.splitTag key asTag levels tag (memberReadings members) =
      decodedWithin (depthMembers members) levels (tag, members) := by
  induction members with
  | nil => exact (decodedWithin_zero levels _).symm
  | cons member members ih =>
    rw [List.forall_mem_cons] at h
    rw [memberReadings, Reading.splitTag, if_neg h.1, value_reading, orFault_ifWithin, ih h.2]
    exact ifWithin_bind (ifWithin_bind_ok rfl)

/-- A tag in front of the members of a record is split off while the record is read. -/
lemma asTagged_reading {asTag : Reading → Decoded τ}
    (htag : asTag (.string tagText) = .ok tag) (h : ∀ member ∈ members, member.1 ≠ key)
    (levels : ℕ) :
    (object ((key, .string tagText) :: members)).reading.asTagged key wanted asTag levels =
      decodedWithin (object ((key, .string tagText) :: members)).depth levels
        (tag, object members) := by
  have hdepth : (object ((key, .string tagText) :: members)).depth = 1 + depthMembers members := by
    simp [depth, depthMembers]
  rw [hdepth, reading]
  refine enter_within fun levels => ?_
  rw [memberReadings, reading, Reading.splitTag, if_pos rfl, htag]
  have hrest := splitTag_memberReadings asTag h levels (some tag)
  simp only [bind, Except.bind, once, Option.isSome_none, Bool.false_eq_true, if_false, pure,
    Except.pure] at hrest ⊢
  rw [hrest]
  exact ifWithin_bind_ok rfl

end Tagged

end JavaUml.Json
