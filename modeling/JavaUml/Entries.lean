/-
# Entries under names

Names with values are kept as lists of pairs in a fixed order. Setting the value of a name that is
there leaves the order as it is.
-/

namespace JavaUml.Entries

variable {α : Type}

/-- Sets the value of a name: in its place if the name is there, else at the end. -/
def set (name : String) (value : α) : List (String × α) → List (String × α)
  | [] => [(name, value)]
  | entry :: entries =>
    if entry.1 = name then (name, value) :: entries else entry :: set name value entries

theorem lookup_set_self (name : String) (value : α) (entries : List (String × α)) :
    (set name value entries).lookup name = some value := by
  induction entries with
  | nil => simp [set]
  | cons entry entries ih =>
    obtain ⟨key, old⟩ := entry
    by_cases h : key = name
    · simp [set, h]
    · simp [set, h, List.lookup_cons, beq_false_of_ne (Ne.symm h), ih]

theorem lookup_set_of_ne {name other : String} (value : α) (entries : List (String × α))
    (h : other ≠ name) : (set name value entries).lookup other = entries.lookup other := by
  induction entries with
  | nil => simp [set, List.lookup_cons, beq_false_of_ne h]
  | cons entry entries ih =>
    obtain ⟨key, old⟩ := entry
    by_cases he : key = name
    · simp [set, he, List.lookup_cons, beq_false_of_ne h]
    · simp [set, he, List.lookup_cons, ih]

/-- A name that is not there comes to the end. -/
theorem set_eq_append {name : String} {entries : List (String × α)}
    (h : entries.lookup name = none) (value : α) :
    set name value entries = entries ++ [(name, value)] := by
  induction entries with
  | nil => rfl
  | cons entry entries ih =>
    obtain ⟨key, old⟩ := entry
    by_cases hk : name = key
    · simp [hk] at h
    · rw [List.lookup_cons, beq_false_of_ne hk] at h
      rw [set, if_neg (Ne.symm hk), ih h, List.cons_append]

/-- Setting a name to the value that it has changes nothing. -/
theorem set_eq_self {name : String} {value : α} {entries : List (String × α)}
    (h : entries.lookup name = some value) : set name value entries = entries := by
  induction entries with
  | nil => cases h
  | cons entry entries ih =>
    obtain ⟨key, old⟩ := entry
    by_cases hk : key = name
    · subst hk
      obtain rfl : old = value := by simpa using h
      simp [set]
    · rw [List.lookup_cons, beq_false_of_ne (Ne.symm hk)] at h
      simp [set, hk, ih h]

/-- If no key occurs twice, then a value is found by looking up its key. -/
theorem lookup_eq_some_iff_mem {κ : Type} [BEq κ] [LawfulBEq κ] {entries : List (κ × α)}
    (h : (entries.map Prod.fst).Nodup) {key : κ} {a : α} :
    entries.lookup key = some a ↔ (key, a) ∈ entries := by
  induction entries with
  | nil => simp
  | cons entry entries ih =>
    obtain ⟨first, b⟩ := entry
    rw [List.map_cons, List.nodup_cons] at h
    rw [List.lookup_cons, List.mem_cons]
    by_cases hk : key = first
    · subst hk
      -- the key does not occur again
      have hnot : (key, a) ∉ entries := fun hm => h.1 (List.mem_map.mpr ⟨_, hm, rfl⟩)
      simp [hnot, eq_comm]
    · simp [beq_false_of_ne hk, hk, ih h.2]

end JavaUml.Entries
