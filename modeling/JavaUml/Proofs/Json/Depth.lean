/-
# How deep values are nested

A reader allows a number of levels of arrays and objects.  The reading of a value is the value again
if it has no more levels, and else the text is malformed (`value_reading`).  Results of this kind
(`ifWithin`) are put together along the value: a result that needs two others needs the greater one
of their depths.

Conversely a reading that has a value is the reading of this value (`eq_reading_of_value`).

The proofs about values go by `Json.induction`, which has one case for arrays and one for objects.
-/
import JavaUml.Json.Reading
import Mathlib.Tactic.Common

namespace JavaUml.Json

/-- Induction over a value and the values in it. -/
@[elab_as_elim]
theorem induction {P : Json → Prop} (null : P .null) (boolean : ∀ b, P (.boolean b))
    (number : ∀ n, P (.number n)) (string : ∀ s, P (.string s))
    (array : ∀ items, (∀ item ∈ items, P item) → P (.array items))
    (object : ∀ members, (∀ member ∈ members, P member.2) → P (.object members)) (v : Json) : P v :=
  @Json.rec P (fun items => ∀ item ∈ items, P item)
    (fun members => ∀ member ∈ members, P member.2) (fun member => P member.2)
    null boolean number string array object
    (fun _ hn => absurd hn List.not_mem_nil)
    (fun _ _ hitem hitems => List.forall_mem_cons.mpr ⟨hitem, hitems⟩)
    (fun _ hn => absurd hn List.not_mem_nil)
    (fun _ _ hmember hmembers => List.forall_mem_cons.mpr ⟨hmember, hmembers⟩)
    (fun _ _ hvalue => hvalue) v

/-! ## Results that need a depth -/

/-- A result that is there if it needs no more levels than there are. -/
def ifWithin {ε α : Type} (e : ε) (depth levels : ℕ) (a : α) : Except ε α :=
  if depth ≤ levels then .ok a else .error e

section IfWithin

variable {ε α β : Type} {e : ε} {depth levels : ℕ} {a : α}

@[simp] lemma ifWithin_zero (levels : ℕ) (a : α) : ifWithin e 0 levels a = .ok a := by
  simp [ifWithin]

@[simp] lemma ifWithin_succ (depth levels : ℕ) (a : α) :
    ifWithin e (1 + depth) (levels + 1) a = ifWithin e depth levels a := by
  simp [ifWithin, Nat.add_comm 1]

@[simp] lemma ifWithin_succ_zero (depth : ℕ) (a : α) : ifWithin e (1 + depth) 0 a = .error e := by
  simp [ifWithin]

/-- One result after another needs as many levels as both of them. -/
lemma ifWithin_bind {f : α → Except ε β} {depth' : ℕ} {b : β}
    (h : f a = ifWithin e depth' levels b) :
    (ifWithin e depth levels a >>= f) = ifWithin e (max depth depth') levels b := by
  unfold ifWithin at h ⊢
  by_cases hd : depth ≤ levels
  · rw [if_pos hd]
    simp only [Nat.max_le, hd, true_and]
    exact h
  · rw [if_neg hd, if_neg fun hmax => hd (Nat.max_le.mp hmax).1]
    rfl

lemma ifWithin_bind_ok {f : α → Except ε β} {b : β} (h : f a = .ok b) :
    (ifWithin e depth levels a >>= f) = ifWithin e depth levels b := by
  have hb : f a = ifWithin e 0 levels b := h.trans (ifWithin_zero levels b).symm
  rw [ifWithin_bind hb, Nat.max_zero]

end IfWithin

/-! ## Values of readings -/

lemma values_readings {items : List Json} {levels : ℕ} (h : ∀ item ∈ items,
    item.reading.value levels = ifWithin .malformed item.depth levels item) :
    Reading.values levels (readings items) =
      ifWithin .malformed (depthItems items) levels items := by
  induction items with
  | nil => rfl
  | cons item items ih =>
    rw [List.forall_mem_cons] at h
    rw [readings, Reading.values, h.1, ih h.2]
    exact ifWithin_bind (ifWithin_bind_ok rfl)

lemma memberValues_memberReadings {members : List (String × Json)} {levels : ℕ}
    (h : ∀ member ∈ members,
      member.2.reading.value levels = ifWithin .malformed member.2.depth levels member.2) :
    Reading.memberValues levels (memberReadings members) =
      ifWithin .malformed (depthMembers members) levels members := by
  induction members with
  | nil => rfl
  | cons member members ih =>
    rw [List.forall_mem_cons] at h
    rw [memberReadings, Reading.memberValues, h.1, ih h.2]
    exact ifWithin_bind (ifWithin_bind_ok rfl)

/-- A value is read back from its reading if it is not nested too deep. -/
lemma value_reading (v : Json) (levels : ℕ) :
    v.reading.value levels = ifWithin .malformed v.depth levels v := by
  induction v using Json.induction generalizing levels with
  | null => rfl
  | boolean b => rfl
  | number n => rfl
  | string s => rfl
  | array items ih =>
    cases levels with
    | zero => rw [reading, Reading.value, depth, ifWithin_succ_zero]
    | succ levels =>
      rw [reading, Reading.value, values_readings fun item hi => ih item hi levels, depth,
        ifWithin_succ]
      exact ifWithin_bind_ok rfl
  | object members ih =>
    cases levels with
    | zero => rw [reading, Reading.value, depth, ifWithin_succ_zero]
    | succ levels =>
      rw [reading, Reading.value,
        memberValues_memberReadings fun member hm => ih member hm levels, depth, ifWithin_succ]
      exact ifWithin_bind_ok rfl

/-! ## Readings with a value -/

lemma exists_of_bind_eq_ok {ε α β : Type} {x : Except ε α} {f : α → Except ε β} {b : β}
    (h : x >>= f = .ok b) : ∃ a, x = .ok a ∧ f a = .ok b := by
  cases x with
  | error e => cases h
  | ok a => exact ⟨a, rfl, h⟩

mutual

/-- A reading with a value is the reading of its value. -/
theorem eq_reading_of_value {levels : ℕ} {r : Reading} {v : Json} (h : r.value levels = .ok v) :
    r = v.reading ∧ v.depth ≤ levels := by
  cases r with
  | array items ending =>
    cases levels with
    | zero => cases h
    | succ levels =>
      rw [Reading.value] at h
      obtain ⟨vs, hitems, h⟩ := exists_of_bind_eq_ok h
      obtain ⟨_, hending, h⟩ := exists_of_bind_eq_ok h
      cases h
      obtain ⟨rfl, hdepth⟩ := eq_readings_of_values hitems
      cases ending with
      | closed => exact ⟨rfl, by rw [depth]; omega⟩
      | _ => cases hending
  | object members ending =>
    cases levels with
    | zero => cases h
    | succ levels =>
      rw [Reading.value] at h
      obtain ⟨vs, hmembers, h⟩ := exists_of_bind_eq_ok h
      obtain ⟨_, hending, h⟩ := exists_of_bind_eq_ok h
      cases h
      obtain ⟨rfl, hdepth⟩ := eq_memberReadings_of_memberValues hmembers
      cases ending with
      | closed => exact ⟨rfl, by rw [depth]; omega⟩
      | _ => cases hending
  | noValue => cases h
  | broken => cases h
  | _ =>
    cases h
    exact ⟨rfl, Nat.zero_le _⟩

theorem eq_readings_of_values {levels : ℕ} {items : List Reading} {vs : List Json}
    (h : Reading.values levels items = .ok vs) : items = readings vs ∧ depthItems vs ≤ levels := by
  cases items with
  | nil =>
    cases h
    exact ⟨rfl, Nat.zero_le _⟩
  | cons item items =>
    rw [Reading.values] at h
    obtain ⟨v, hitem, h⟩ := exists_of_bind_eq_ok h
    obtain ⟨vs, hitems, h⟩ := exists_of_bind_eq_ok h
    cases h
    obtain ⟨rfl, hdepth⟩ := eq_reading_of_value hitem
    obtain ⟨rfl, hdepths⟩ := eq_readings_of_values hitems
    exact ⟨rfl, Nat.max_le.mpr ⟨hdepth, hdepths⟩⟩

theorem eq_memberReadings_of_memberValues {levels : ℕ} {members : List (Option String × Reading)}
    {vs : List (String × Json)} (h : Reading.memberValues levels members = .ok vs) :
    members = memberReadings vs ∧ depthMembers vs ≤ levels := by
  cases members with
  | nil =>
    cases h
    exact ⟨rfl, Nat.zero_le _⟩
  | cons member members =>
    obtain ⟨_ | key, r⟩ := member
    · cases h
    · rw [Reading.memberValues] at h
      obtain ⟨v, hvalue, h⟩ := exists_of_bind_eq_ok h
      obtain ⟨vs, hmembers, h⟩ := exists_of_bind_eq_ok h
      cases h
      obtain ⟨rfl, hdepth⟩ := eq_reading_of_value hvalue
      obtain ⟨rfl, hdepths⟩ := eq_memberReadings_of_memberValues hmembers
      exact ⟨rfl, Nat.max_le.mpr ⟨hdepth, hdepths⟩⟩

end

end JavaUml.Json
