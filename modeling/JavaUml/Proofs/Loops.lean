/-
# Loops that can fail

A loop over a list gives the results of its items, one by one (`mapM_eq_ok_iff`), or it fails where
an item fails first (`failure?_mapM`).
-/
import Mathlib.Data.List.Forall2
import Mathlib.Tactic.Common

namespace JavaUml

variable {ε α β γ : Type}

/-! ## Lists side by side -/

section Pairs

variable {R : α → β → Prop} {x : α} {xs : List α} {ys : List β}

lemma exists_of_forall₂ (h : List.Forall₂ R xs ys) (hx : x ∈ xs) : ∃ y ∈ ys, R x y := by
  induction h with
  | nil => cases hx
  | cons hxy _ ih =>
    rcases List.mem_cons.mp hx with rfl | hx
    · exact ⟨_, List.mem_cons_self, hxy⟩
    · exact (ih hx).imp fun _ hy => ⟨List.mem_cons_of_mem _ hy.1, hy.2⟩

lemma forall₂_singleton_iff : List.Forall₂ R [x] ys ↔ ∃ y, R x y ∧ ys = [y] := by
  simp [List.forall₂_cons_left_iff]

end Pairs

/-! ## Results -/

lemma mapM_eq_some_iff {f : α → Option β} {xs : List α} {ys : List β} :
    xs.mapM f = some ys ↔ List.Forall₂ (fun x y => f x = some y) xs ys := by
  induction xs generalizing ys with
  | nil => simp [List.forall₂_nil_left_iff, eq_comm]
  | cons x xs ih =>
    rw [List.mapM_cons, List.forall₂_cons_left_iff]
    cases hx : f x with
    | none => simp
    | some y => cases hxs : xs.mapM f <;> simp [← ih, hxs, eq_comm]

lemma mapM_eq_ok_iff {f : α → Except ε β} {xs : List α} {ys : List β} :
    xs.mapM f = .ok ys ↔ List.Forall₂ (fun x y => f x = .ok y) xs ys := by
  induction xs generalizing ys with
  | nil =>
    rw [List.forall₂_nil_left_iff]
    exact ⟨fun h => (Except.ok.inj h).symm, fun h => congrArg Except.ok h.symm⟩
  | cons x xs ih =>
    rw [List.mapM_cons, List.forall₂_cons_left_iff]
    cases hx : f x with
    | error e => simp [bind, Except.bind]
    | ok y =>
      cases hxs : xs.mapM f with
      | error e => simp [bind, Except.bind, ← ih, hxs]
      | ok more => simp [bind, Except.bind, pure, Except.pure, ← ih, hxs, eq_comm]

/-! ## Failures -/

/-- The error in a result, if it is one. -/
def failure? : Except ε α → Option ε
  | .ok _ => none
  | .error e => some e

lemma failure?_eq_some_iff {r : Except ε α} {e : ε} : failure? r = some e ↔ r = .error e := by
  cases r <;> simp [failure?]

lemma failure?_map (r : Except ε α) (g : α → β) : failure? (r.map g) = failure? r := by
  cases r <;> rfl

/-- A loop over a list fails where it fails first. -/
lemma failure?_mapM {f : α → Except ε β} (xs : List α) :
    failure? (xs.mapM f) = xs.findSome? fun x => failure? (f x) := by
  induction xs with
  | nil => rfl
  | cons x xs ih =>
    rw [List.mapM_cons, List.findSome?_cons, ← ih]
    cases f x with
    | error e => rfl
    | ok y => cases xs.mapM f <;> rfl

lemma findSome?_flatMap {g : β → Option γ} {h : α → List β} (xs : List α) :
    (xs.flatMap h).findSome? g = xs.findSome? fun x => (h x).findSome? g := by
  induction xs with
  | nil => rfl
  | cons x xs ih =>
    rw [List.flatMap_cons, List.findSome?_append, ih, List.findSome?_cons]
    cases (h x).findSome? g <;> rfl

end JavaUml
