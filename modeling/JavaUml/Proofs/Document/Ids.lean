/-
# Identifiers in 64 bits

A source of identifiers answers calls with the numbers from its seed on.  It remembers how many it
has issued, as a number without a bound.  In 64 bits this cannot be done: when all identifiers below
2^64 are issued, the next one is not a word, and neither is their number if the seed is zero.  So a
counter in 64 bits keeps the next identifier, or nothing when there is none (`IdCounter`).

Sums and differences of words are taken with a check, and the checks that have to hold do hold.  For
the counter is at all times what the source is in 64 bits (`IdAllocator.counter`), because a call on
both has the same answer (`take_counter`), and the state of a new source after any number of calls
is known (`afterCalls_new`).
-/
import JavaUml.Document.Error
import Mathlib.Data.UInt
import Mathlib.Logic.Function.Iterate
import Mathlib.Tactic.Common

namespace JavaUml

/-! ## Calls one after the other -/

/-- The state after a number of calls, each of which gives an answer and the next state. -/
def afterCalls {σ α : Type} (call : σ → α × σ) (calls : ℕ) : σ → σ := (fun s => (call s).2)^[calls]

section Calls

variable {σ τ α : Type} {call : σ → α × σ} {call' : τ → α × τ}

lemma afterCalls_succ (calls : ℕ) (s : σ) :
    afterCalls call (calls + 1) s = (call (afterCalls call calls s)).2 :=
  Function.iterate_succ_apply' _ calls s

/-- If each call on what stands for a state has the same answer, and leads to what stands for the
next state, then this is so after any number of calls. -/
lemma afterCalls_of_map {f : σ → τ} (h : ∀ s, call' (f s) = ((call s).1, f (call s).2)) (calls : ℕ)
    (s : σ) : afterCalls call' calls (f s) = f (afterCalls call calls s) := by
  have hstep : Function.Semiconj f (fun s => (call s).2) (fun t => (call' t).2) := fun s =>
    (congrArg Prod.snd (h s)).symm
  exact (hstep.iterate_right calls s).symm

end Calls

/-- Calls for identifiers are answered with the numbers from a seed on, one after the other.  When
the last number below 2^64 has been issued, each call fails and leaves the state as it is. -/
def IssuesFrom {σ : Type} (call : σ → Except ModelError NodeId × σ) (s : σ) (seed : UInt64) :
    Prop :=
  ∀ j, call (afterCalls call j s) =
    if j < 2 ^ 64 - seed.toNat then (.ok ⟨seed.toNat + j⟩, afterCalls call (j + 1) s)
    else (.error (.idsExhausted seed), afterCalls call j s)

lemma IssuesFrom.of_map {σ τ : Type} {call : σ → Except ModelError NodeId × σ}
    {call' : τ → Except ModelError NodeId × τ} {s : σ} {seed : UInt64} {f : σ → τ}
    (hissues : IssuesFrom call s seed) (h : ∀ s, call' (f s) = ((call s).1, f (call s).2)) :
    IssuesFrom call' (f s) seed := by
  intro j
  rw [afterCalls_of_map h, afterCalls_of_map h, h, hissues j]
  split <;> rfl

/-! ## Calls on a source -/

namespace IdAllocator

/-- A call for the next identifier: its answer, and the source after it. -/
def take (ids : IdAllocator) : Except ModelError NodeId × IdAllocator :=
  match ids.next? with
  | some (id, ids) => (.ok id, ids)
  | none => (.error (.idsExhausted ids.seed), ids)

variable {ids : IdAllocator}

lemma take_of_room (h : ids.seed.toNat + ids.used < UInt64.size) :
    ids.take = (.ok ⟨ids.seed.toNat + ids.used⟩, { ids with used := ids.used + 1 }) := by
  simp [take, next?, h]

lemma take_of_full (h : UInt64.size ≤ ids.seed.toNat + ids.used) :
    ids.take = (.error (.idsExhausted ids.seed), ids) := by
  simp [take, next?, Nat.not_lt.mpr h]

/-- A source has room for the numbers between its seed and 2^64. -/
lemma seed_add_room (seed : UInt64) : seed.toNat + (UInt64.size - seed.toNat) = UInt64.size :=
  Nat.add_sub_cancel' seed.toNat_lt_size.le

/-- Each call on a new source issues an identifier, until there is no room left. -/
lemma afterCalls_new (seed : UInt64) (calls : ℕ) :
    afterCalls take calls (new seed) = { seed, used := min calls (UInt64.size - seed.toNat) } := by
  induction calls with
  | zero => simp [afterCalls, new]
  | succ calls ih =>
    rw [afterCalls_succ, ih]
    rcases Nat.lt_or_ge calls (UInt64.size - seed.toNat) with hroom | hfull
    · rw [Nat.min_eq_left hroom.le, take_of_room (Nat.add_lt_of_lt_sub' hroom),
        Nat.min_eq_left hroom]
    · rw [Nat.min_eq_right hfull, take_of_full (seed_add_room seed).ge,
        Nat.min_eq_right (Nat.le_succ_of_le hfull)]

lemma afterCalls_new_of_le {seed : UInt64} {calls : ℕ} (h : calls ≤ UInt64.size - seed.toNat) :
    afterCalls take calls (new seed) = { seed, used := calls } := by
  rw [afterCalls_new, Nat.min_eq_left h]

lemma afterCalls_new_of_ge {seed : UInt64} {calls : ℕ} (h : UInt64.size - seed.toNat ≤ calls) :
    afterCalls take calls (new seed) = { seed, used := UInt64.size - seed.toNat } := by
  rw [afterCalls_new, Nat.min_eq_right h]

lemma issuesFrom_new (seed : UInt64) : IssuesFrom take (new seed) seed := by
  intro j
  rcases Nat.lt_or_ge j (2 ^ 64 - seed.toNat) with hroom | hfull
  · rw [if_pos hroom, afterCalls_new_of_le hroom.le, afterCalls_new_of_le hroom,
      take_of_room (Nat.add_lt_of_lt_sub' hroom)]
  · rw [if_neg (Nat.not_lt.mpr hfull), afterCalls_new_of_ge hfull,
      take_of_full (seed_add_room seed).ge]

/-- Only a source with the seed zero can issue more identifiers than the count can tell. -/
lemma issued_afterCalls_new (seed : UInt64) (calls : ℕ) :
    (afterCalls take calls (new seed)).issued =
      if seed = 0 ∧ 2 ^ 64 ≤ calls then 2 ^ 64 - 1 else min calls (2 ^ 64 - seed.toNat) := by
  by_cases hall : seed = 0 ∧ 2 ^ 64 ≤ calls
  · obtain ⟨rfl, hcalls⟩ := hall
    rw [if_pos ⟨rfl, hcalls⟩, afterCalls_new_of_ge hcalls]
    rfl
  · have hfew : min calls (2 ^ 64 - seed.toNat) ≤ 2 ^ 64 - 1 := by
      rw [← UInt64.toNat_inj, UInt64.toNat_zero] at hall
      omega
    rw [if_neg hall, afterCalls_new]
    exact Nat.min_eq_left hfew

end IdAllocator

/-! ## Words -/

namespace Word

/-- A number as a word, if it is one. -/
def ofNat? (n : ℕ) : Option UInt64 := if n < UInt64.size then some (.ofNat n) else none

/-- The sum of two words, unless it overflows. -/
def sum? (a b : UInt64) : Option UInt64 :=
  if a.toBitVec.uaddOverflow b.toBitVec then none else some (a + b)

/-- The difference of two words, unless it falls below zero. -/
def difference? (a b : UInt64) : Option UInt64 :=
  if a.toBitVec.usubOverflow b.toBitVec then none else some (a - b)

/-- The largest word. -/
def last : UInt64 := 0xFFFFFFFFFFFFFFFF

/-- The sum of two words, or the largest word if it overflows. -/
def saturatingSum (a b : UInt64) : UInt64 := (sum? a b).getD last

variable {a b : UInt64} {n : ℕ}

lemma ofNat?_of_lt (h : n < UInt64.size) : ofNat? n = some (.ofNat n) := if_pos h

lemma ofNat?_of_le (h : UInt64.size ≤ n) : ofNat? n = none := if_neg (Nat.not_lt.mpr h)

lemma ofNat?_toNat (a : UInt64) : ofNat? a.toNat = some a := by
  rw [ofNat?_of_lt a.toNat_lt_size, UInt64.ofNat_toNat]

lemma toNat_last : last.toNat = UInt64.size - 1 := rfl

/-- A sum overflows if it is not below 2^64. -/
lemma sum?_eq (a b : UInt64) : sum? a b = ofNat? (a.toNat + b.toNat) := by
  have hover : a.toBitVec.uaddOverflow b.toBitVec = true ↔ UInt64.size ≤ a.toNat + b.toNat := by
    simp [BitVec.uaddOverflow, UInt64.size]
  rcases Nat.lt_or_ge (a.toNat + b.toNat) UInt64.size with hlt | hle
  · rw [sum?, if_neg (fun h => Nat.not_le.mpr hlt (hover.mp h)), ofNat?_of_lt hlt,
      UInt64.ofNat_add, UInt64.ofNat_toNat, UInt64.ofNat_toNat]
  · rw [sum?, if_pos (hover.mpr hle), ofNat?_of_le hle]

lemma sum?_ofNat_one (h : n < UInt64.size) : sum? (.ofNat n) 1 = ofNat? (n + 1) := by
  rw [sum?_eq, UInt64.toNat_ofNat_of_lt' h, UInt64.toNat_one]

lemma difference?_of_le (h : b ≤ a) : difference? a b = some (a - b) := by
  have hunder : ¬ a.toBitVec.usubOverflow b.toBitVec = true := by
    simpa [BitVec.usubOverflow] using UInt64.le_iff_toNat_le.mp h
  exact if_neg hunder

lemma toNat_saturatingSum (a b : UInt64) :
    (saturatingSum a b).toNat = min (a.toNat + b.toNat) (UInt64.size - 1) := by
  rw [saturatingSum, sum?_eq]
  rcases Nat.lt_or_ge (a.toNat + b.toNat) UInt64.size with hlt | hle
  · rw [ofNat?_of_lt hlt, Option.getD_some, UInt64.toNat_ofNat_of_lt' hlt,
      Nat.min_eq_left (Nat.le_sub_one_of_lt hlt)]
  · rw [ofNat?_of_le hle, Option.getD_none, toNat_last, Nat.min_eq_right (by omega)]

end Word

/-! ## Sources in 64 bits -/

/-- A source of identifiers in 64 bits: its seed, and the next identifier, unless the last one has
been issued. -/
structure IdCounter where
  seed : UInt64
  next : Option UInt64
deriving DecidableEq, Repr

namespace IdCounter

/-- A counter that has not issued an identifier. -/
def new (seed : UInt64) : IdCounter := ⟨seed, some seed⟩

/-- A call for the next identifier: its answer, and the counter after it. -/
def take : IdCounter → Except ModelError NodeId × IdCounter
  | ⟨seed, some word⟩ => (.ok ⟨word.toNat⟩, ⟨seed, Word.sum? word 1⟩)
  | ⟨seed, none⟩ => (.error (.idsExhausted seed), ⟨seed, none⟩)

/-- How many identifiers were issued, unless a difference falls below zero.  When the last one has
been issued, these are the words above the seed and the seed itself. -/
def issued? : IdCounter → Option UInt64
  | ⟨seed, some word⟩ => Word.difference? word seed
  | ⟨seed, none⟩ => (Word.difference? Word.last seed).map fun above => Word.saturatingSum above 1

end IdCounter

namespace IdAllocator

/-- What a source is in 64 bits. -/
def counter (ids : IdAllocator) : IdCounter :=
  ⟨ids.seed, Word.ofNat? (ids.seed.toNat + ids.used)⟩

variable {ids : IdAllocator}

lemma counter_new (seed : UInt64) : (new seed).counter = .new seed :=
  congrArg (IdCounter.mk seed) (Word.ofNat?_toNat seed)

lemma counter_of_room (h : ids.seed.toNat + ids.used < UInt64.size) :
    ids.counter = ⟨ids.seed, some (.ofNat (ids.seed.toNat + ids.used))⟩ :=
  congrArg (IdCounter.mk ids.seed) (Word.ofNat?_of_lt h)

lemma counter_of_full (h : UInt64.size ≤ ids.seed.toNat + ids.used) :
    ids.counter = ⟨ids.seed, none⟩ :=
  congrArg (IdCounter.mk ids.seed) (Word.ofNat?_of_le h)

/-- A call has the same answer in 64 bits, and the sources after it correspond. -/
lemma take_counter (ids : IdAllocator) : ids.counter.take = (ids.take.1, ids.take.2.counter) := by
  rcases Nat.lt_or_ge (ids.seed.toNat + ids.used) UInt64.size with hroom | hfull
  · rw [counter_of_room hroom, take_of_room hroom, IdCounter.take, Word.sum?_ofNat_one hroom,
      UInt64.toNat_ofNat_of_lt' hroom]
    rfl
  · rw [take_of_full hfull, counter_of_full hfull, IdCounter.take]

/-- The count is the same in 64 bits, and no difference falls below zero. -/
lemma issued?_counter (h : ids.seed.toNat + ids.used ≤ UInt64.size) :
    ids.counter.issued?.map UInt64.toNat = some ids.issued := by
  have hseed := ids.seed.toNat_lt_size
  rcases Nat.lt_or_ge (ids.seed.toNat + ids.used) UInt64.size with hroom | hfull
  · have hword := UInt64.toNat_ofNat_of_lt' hroom
    have hle : ids.seed ≤ .ofNat (ids.seed.toNat + ids.used) := by
      rw [UInt64.le_iff_toNat_le, hword]
      exact Nat.le_add_right _ _
    have hissued : ids.seed.toNat + ids.used - ids.seed.toNat = ids.issued := by
      rw [issued, Nat.add_sub_cancel_left, Nat.min_eq_left (by omega)]
    rw [counter_of_room hroom, IdCounter.issued?, Word.difference?_of_le hle, Option.map_some,
      UInt64.toNat_sub_of_le _ _ hle, hword, hissued]
  · -- the words above the seed and the seed itself are 2^64 if the seed is zero
    have hle : ids.seed ≤ Word.last :=
      UInt64.le_iff_toNat_le.mpr (Nat.le_sub_one_of_lt hseed)
    have hused : UInt64.size - 1 - ids.seed.toNat + 1 = ids.used := by omega
    rw [counter_of_full hfull, IdCounter.issued?, Word.difference?_of_le hle, Option.map_some,
      Option.map_some, Word.toNat_saturatingSum, UInt64.toNat_sub_of_le _ _ hle, Word.toNat_last,
      UInt64.toNat_one, hused, issued]

/-! ## New sources -/

lemma afterCalls_counter (seed : UInt64) (calls : ℕ) :
    afterCalls IdCounter.take calls (.new seed) = (afterCalls take calls (new seed)).counter := by
  rw [← counter_new, afterCalls_of_map take_counter]

/-- The next identifier in 64 bits is the number that it should be, if it is there. -/
lemma next_afterCalls_counter (seed : UInt64) (calls : ℕ) :
    (afterCalls IdCounter.take calls (.new seed)).next.map UInt64.toNat =
      if calls < 2 ^ 64 - seed.toNat then some (seed.toNat + calls) else none := by
  rw [afterCalls_counter]
  rcases Nat.lt_or_ge calls (2 ^ 64 - seed.toNat) with hroom | hfull
  · have hword : seed.toNat + calls < UInt64.size := Nat.add_lt_of_lt_sub' hroom
    rw [if_pos hroom, afterCalls_new_of_le hroom.le, counter_of_room hword, Option.map_some,
      UInt64.toNat_ofNat_of_lt' hword]
  · rw [if_neg (Nat.not_lt.mpr hfull), afterCalls_new_of_ge hfull,
      counter_of_full (seed_add_room seed).ge, Option.map_none]

lemma issued?_afterCalls_counter (seed : UInt64) (calls : ℕ) :
    (afterCalls IdCounter.take calls (.new seed)).issued?.map UInt64.toNat =
      some (afterCalls take calls (new seed)).issued := by
  rw [afterCalls_counter]
  refine issued?_counter ?_
  rw [afterCalls_new]
  calc seed.toNat + min calls (UInt64.size - seed.toNat)
    _ ≤ seed.toNat + (UInt64.size - seed.toNat) := Nat.add_le_add_left (Nat.min_le_right _ _) _
    _ = UInt64.size := seed_add_room seed

/-- A new source of identifiers answers calls with the numbers from its seed on, until the last one
below 2^64 is issued; then each call fails with the seed and leaves the source as it is.  It tells
how many it has issued, and one less if these are 2^64.  In 64 bits the answers are the same, the
next identifier does not wrap around, and the count is the same, without a difference that falls
below zero. -/
theorem issues_in_order (seed : UInt64) (calls : ℕ) :
    IssuesFrom take (new seed) seed ∧
    ((afterCalls take calls (new seed)).issued =
      if seed = 0 ∧ 2 ^ 64 ≤ calls then 2 ^ 64 - 1 else min calls (2 ^ 64 - seed.toNat)) ∧
    IssuesFrom IdCounter.take (.new seed) seed ∧
    ((afterCalls IdCounter.take calls (.new seed)).next.map UInt64.toNat =
      if calls < 2 ^ 64 - seed.toNat then some (seed.toNat + calls) else none) ∧
    (afterCalls IdCounter.take calls (.new seed)).issued?.map UInt64.toNat =
      some (afterCalls take calls (new seed)).issued := by
  have hissues := issuesFrom_new seed
  refine ⟨hissues, issued_afterCalls_new seed calls, ?_, next_afterCalls_counter seed calls,
    issued?_afterCalls_counter seed calls⟩
  rw [← counter_new]
  exact hissues.of_map take_counter

/-- A source with the seed zero issues its last identifier without telling, and then no more. -/
theorem issues_in_order_from_zero :
    (afterCalls take (2 ^ 64 - 1) (new 0)).take.1 = .ok ⟨2 ^ 64 - 1⟩ ∧
    (afterCalls take (2 ^ 64 - 1) (new 0)).issued = 2 ^ 64 - 1 ∧
    (afterCalls take (2 ^ 64) (new 0)).issued = 2 ^ 64 - 1 ∧
    (afterCalls take (2 ^ 64) (new 0)).take.1 = .error (.idsExhausted 0) := by
  obtain ⟨hissues, hlast, -⟩ := issues_in_order 0 (2 ^ 64 - 1)
  obtain ⟨-, hall, -⟩ := issues_in_order 0 (2 ^ 64)
  refine ⟨?_, hlast, hall, ?_⟩
  · rw [hissues (2 ^ 64 - 1)]
    rfl
  · rw [hissues (2 ^ 64)]
    rfl

end IdAllocator

end JavaUml
