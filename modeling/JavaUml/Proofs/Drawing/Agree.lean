/-
# Two runs side by side

Two computations agree, with respect to a relation between states and one between results, if runs
that begin in related states end in related states with related results (`Agree`).  Nothing is said
about runs with an error, so that computations that differ in whether they fail may agree.

The rules of this file follow the parts of a computation: what related steps preserve, the whole run
preserves.
-/
import JavaUml.Proofs.Drawing.Run
import Mathlib.Data.List.Forall2

namespace JavaUml

variable {σ α α' β β' ι : Type}

/-- Two computations take related states to related states with related results, if both have a
result. -/
def Agree (S : σ → σ → Prop) (R : α → α' → Prop) (m : ExceptT ModelError (StateM σ) α)
    (m' : ExceptT ModelError (StateM σ) α') : Prop :=
  ∀ ⦃s s' t t' a a'⦄, S s s' → Attempt.run m s = (.ok a, t) → Attempt.run m' s' = (.ok a', t') →
    S t t' ∧ R a a'

namespace Agree

variable {S : σ → σ → Prop} {R : α → α' → Prop} {Q : β → β' → Prop}
variable {m : ExceptT ModelError (StateM σ) α} {m' : ExceptT ModelError (StateM σ) α'}

lemma imp {R' : α → α' → Prop} (h : Agree S R m m') (hR : ∀ a a', R a a' → R' a a') :
    Agree S R' m m' := by
  intro s s' t t' a a' hs hm hm'
  obtain ⟨ht, ha⟩ := h hs hm hm'
  exact ⟨ht, hR a a' ha⟩

/-- A computation agrees with itself. -/
lemma refl (m : ExceptT ModelError (StateM σ) α) : Agree Eq Eq m m := by
  rintro s _ t t' a a' rfl hm hm'
  rw [hm] at hm'
  cases hm'
  exact ⟨rfl, rfl⟩

lemma pure {a : α} {a' : α'} (h : R a a') : Agree S R (pure a) (pure a') := by
  intro s s' t t' b b' hs hm hm'
  rw [Attempt.run_pure] at hm hm'
  cases hm
  cases hm'
  exact ⟨hs, h⟩

/-- A computation without a result agrees with any other. -/
lemma of_throw (e : ModelError) (m' : ExceptT ModelError (StateM σ) α') :
    Agree S R (throw e : ExceptT ModelError (StateM σ) α) m' := by
  intro s s' t t' a a' _ hm _
  cases hm

lemma bind {f : α → ExceptT ModelError (StateM σ) β} {f' : α' → ExceptT ModelError (StateM σ) β'}
    (hm : Agree S R m m') (hf : ∀ a a', R a a' → Agree S Q (f a) (f' a')) :
    Agree S Q (m >>= f) (m' >>= f') := by
  intro s s' t t' b b' hs hrun hrun'
  obtain ⟨a, u, ha, hb⟩ := Attempt.exists_of_run_bind hrun
  obtain ⟨a', u', ha', hb'⟩ := Attempt.exists_of_run_bind hrun'
  obtain ⟨hu, hR⟩ := hm hs ha ha'
  exact hf a a' hR hu hb hb'

/-! ## Loops -/

lemma mapM {f : ι → ExceptT ModelError (StateM σ) α} {f' : ι → ExceptT ModelError (StateM σ) α'}
    (h : ∀ x, Agree S R (f x) (f' x)) (xs : List ι) :
    Agree S (List.Forall₂ R) (xs.mapM f) (xs.mapM f') := by
  induction xs with
  | nil => exact .pure .nil
  | cons x xs ih =>
    rw [List.mapM_cons, List.mapM_cons]
    refine (h x).bind fun a a' ha => ih.bind fun as as' has => ?_
    exact .pure (.cons ha has)

lemma forM {f f' : ι → ExceptT ModelError (StateM σ) PUnit} (h : ∀ x, Agree S Eq (f x) (f' x))
    (xs : List ι) : Agree S Eq (xs.forM f) (xs.forM f') := by
  induction xs with
  | nil => exact .pure rfl
  | cons x xs ih =>
    rw [List.forM_eq_forM, List.forM_cons, List.forM_cons]
    exact (h x).bind fun _ _ _ => ih

lemma foldlM {f : α → ι → ExceptT ModelError (StateM σ) α}
    {f' : α' → ι → ExceptT ModelError (StateM σ) α'}
    (h : ∀ x a a', R a a' → Agree S R (f a x) (f' a' x)) (xs : List ι) {a : α} {a' : α'}
    (ha : R a a') : Agree S R (xs.foldlM f a) (xs.foldlM f' a') := by
  induction xs generalizing a a' with
  | nil => exact .pure ha
  | cons x xs ih =>
    rw [List.foldlM_cons, List.foldlM_cons]
    exact (h x a a' ha).bind fun _ _ hb => ih hb

end Agree

/-! ## Mappings -/

section Mappings

variable {R : α → α' → Prop}

lemma Attempt.run_outcome {result : Except ModelError α} {model model' : ClassModel} {a : α}
    (h : Attempt.run (Mapping.outcome result) model = (.ok a, model')) :
    result = .ok a ∧ model' = model := by
  cases h
  exact ⟨rfl, rfl⟩

/-- Results that are handed on are related, if there are results. -/
lemma Agree.outcome {S : ClassModel → ClassModel → Prop} {result : Except ModelError α}
    {result' : Except ModelError α'}
    (h : ∀ a a', result = .ok a → result' = .ok a' → R a a') :
    Agree S R (Mapping.outcome result) (Mapping.outcome result') := by
  intro model model' after after' a a' hs hm hm'
  obtain ⟨ha, rfl⟩ := Attempt.run_outcome hm
  obtain ⟨ha', rfl⟩ := Attempt.run_outcome hm'
  exact ⟨hs, h a a' ha ha'⟩

end Mappings

end JavaUml
