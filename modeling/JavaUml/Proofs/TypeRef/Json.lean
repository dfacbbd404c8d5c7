/-
# Types survive being written

A type that is written as an object is read back as it was, whatever its name is
(`ofJson?_toJson`): the keys that are left out are those that have their default.  If its dimensions
fit 64 bits, so do all numbers in the object (`Fits.whole_toJson`).
-/
import JavaUml.Proofs.Json.RoundTrip
import JavaUml.TypeRef.Json

namespace JavaUml.TypeRef

/-- Induction over a type and the types among its arguments. -/
@[elab_as_elim]
theorem induction {P : TypeRef → Prop}
    (type : ∀ name arguments dimensions wildcard, (∀ t ∈ arguments, P t) →
      P ⟨name, arguments, dimensions, wildcard⟩) (t : TypeRef) : P t :=
  @TypeRef.rec P (fun ts => ∀ t ∈ ts, P t) type (fun _ hn => absurd hn List.not_mem_nil)
    (fun _ _ ht hts => List.forall_mem_cons.mpr ⟨ht, hts⟩) t

lemma toJsons_eq_map (ts : List TypeRef) : toJsons ts = ts.map toJson := by
  induction ts with
  | nil => rfl
  | cons t ts ih => rw [toJsons, ih, List.map_cons]

/-! ## Reading -/

lemma wildcardOfJson?_keyword (bound : WildcardBound) :
    wildcardOfJson? (.string bound.keyword) = some (some bound) := by
  cases bound <;> rfl

lemma ofItems?_map {ts : List TypeRef} (h : ∀ t ∈ ts, ofJson? t.toJson = some t) :
    ofItems? (ts.map toJson) = some ts := by
  induction ts with
  | nil => rfl
  | cons t ts ih =>
    rw [List.forall_mem_cons] at h
    rw [List.map_cons, ofItems?, h.1, ih h.2]
    rfl

/-- A written type is read as it was. -/
lemma ofJson?_toJson (t : TypeRef) : ofJson? t.toJson = some t := by
  induction t using TypeRef.induction with
  | type name arguments dimensions wildcard ih =>
    have hitems : ofItems? (toJsons arguments) = some arguments := by
      rw [toJsons_eq_map]
      exact ofItems?_map ih
    unfold toJson
    rw [ofJson?]
    -- each of the three keys behind the name is there or not
    by_cases ha : arguments.isEmpty = true <;> by_cases hd : dimensions = 0 <;>
      cases wildcard <;>
      simp_all [ofMembers?, nameOfJson?, argumentsOfJson?, dimensionsOfJson?, store?, Json.nat,
        wildcardOfJson?_keyword, Draft.build?]

/-- Decoding a written type gives the type. -/
lemma decode_toJson (t : TypeRef) : decode t.toJson = .ok t := by
  simp only [decode, ofJson?_toJson]
  rfl

/-! ## Numbers -/

mutual

/-- The dimensions of a type and of its arguments fit 64 bits. -/
def Fits : TypeRef → Prop
  | ⟨_, arguments, dimensions, _⟩ => dimensions < Json.wordLimit ∧ AllFit arguments

/-- The dimensions in all of some types fit 64 bits. -/
def AllFit : List TypeRef → Prop
  | [] => True
  | t :: ts => Fits t ∧ AllFit ts

end

lemma allFit_iff {ts : List TypeRef} : AllFit ts ↔ ∀ t ∈ ts, t.Fits := by
  induction ts with
  | nil => simp [AllFit]
  | cons t ts ih => rw [AllFit, ih, List.forall_mem_cons]

open Json in
/-- The numbers in a written type are whole and fit 64 bits. -/
lemma Fits.whole_toJson {t : TypeRef} (h : t.Fits) : t.toJson.Whole := by
  induction t using TypeRef.induction with
  | type name arguments dimensions wildcard ih =>
    obtain ⟨hdimensions, harguments⟩ := h
    rw [allFit_iff] at harguments
    have hitems : ∀ v ∈ toJsons arguments, v.Whole := by
      rw [toJsons_eq_map, List.forall_mem_map]
      exact fun t ht => ih t ht (harguments t ht)
    unfold toJson
    refine .object fun member hmember => ?_
    simp only [List.mem_cons, List.mem_append] at hmember
    rcases hmember with rfl | (ha | hd) | hw
    · exact .string name
    · split at ha
      · simp at ha
      · obtain rfl := List.mem_singleton.mp ha
        exact .array hitems
    · split at hd
      · simp at hd
      · obtain rfl := List.mem_singleton.mp hd
        exact .number hdimensions
    · cases wildcard with
      | none => simp at hw
      | some bound =>
        obtain rfl := List.mem_singleton.mp hw
        exact .string _

end JavaUml.TypeRef
