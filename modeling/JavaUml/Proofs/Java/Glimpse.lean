/-
# Matching with a known beginning

Sometimes the first tokens of a source are enough to know what a phrase does with it.  A glimpse
matches a phrase with these tokens, and stops where it depends on what follows
(`Phrase.glimpse`); what it finds holds of all sources with this beginning
(`Phrase.matches_glimpse`).  In contrast to the match itself, a glimpse is computed by recursion on
the number of steps alone, so that it can be evaluated.
-/
import JavaUml.Java.Phrase
import Mathlib.Tactic.Common

namespace JavaUml.Java

/-! ## Glimpses -/

/-- What is known of a match if only the beginning of a source is known. -/
inductive Glimpse
  | unknown
  | fails
  | leaves (rest : List Token)
deriving DecidableEq

/-- What is known of a match if another one follows. -/
def Glimpse.andThen (g : Glimpse) (next : List Token → Glimpse) : Glimpse :=
  match g with
  | .leaves rest => next rest
  | outcome => outcome

/-- What is known of a match if there is another one that is tried after it. -/
def Glimpse.orElse (g other : Glimpse) : Glimpse :=
  match g with
  | .fails => other
  | outcome => outcome

namespace Phrase

variable {ρ : Type}

/-- Matches a phrase at the beginning of a source, as far as it is known, in at most some steps. -/
def glimpse (body : ρ → Phrase ρ) : ℕ → Phrase ρ → List Token → Glimpse
  | 0, _, _ => .unknown
  | _ + 1, .empty, known => .leaves known
  | _ + 1, .token _, [] => .unknown
  | _ + 1, .token test, t :: ts => if test.accepts t then .leaves ts else .fails
  | _ + 1, .unless _, [] => .unknown
  | _ + 1, .unless words, t :: ts =>
    if t.kind == .word && words.contains t.text then .fails else .leaves (t :: ts)
  | steps + 1, .rule r, known => (body r).glimpse body steps known
  | steps + 1, .append p q, known =>
    (p.glimpse body steps known).andThen fun rest => q.glimpse body steps rest
  | steps + 1, .orElse p q, known =>
    (p.glimpse body steps known).orElse (q.glimpse body steps known)
  | steps + 1, .many p, known =>
    match p.glimpse body steps known with
    | .leaves rest =>
      if rest.length < known.length then (Phrase.many p).glimpse body steps rest
      else .leaves known
    | .fails => .leaves known
    | .unknown => .unknown

/-- What is known holds of the matches of a phrase in all sources with the same beginning. -/
def Matches (body : ρ → Phrase ρ) (levels : ℕ) (p : Phrase ρ) (known : List Token) :
    Glimpse → Prop
  | .unknown => True
  | .fails => ∀ ts, p.match? body levels (known ++ ts) = none
  | .leaves rest => ∀ ts, ∃ trees, p.match? body levels (known ++ ts) = some (trees, rest ++ ts)

section

variable {body : ρ → Phrase ρ} {levels : ℕ} {p q : Phrase ρ} {known : List Token} {g : Glimpse}

lemma Matches.append {next : List Token → Glimpse} (hp : Matches body levels p known g)
    (hq : ∀ rest, Matches body levels q rest (next rest)) :
    Matches body levels (.append p q) known (g.andThen next) := by
  cases g with
  | unknown => trivial
  | fails => exact fun ts => by rw [match?, hp ts]
  | leaves rest =>
    have hrest := hq rest
    rw [Glimpse.andThen]
    cases hg : next rest with
    | unknown => trivial
    | fails =>
      rw [hg] at hrest
      intro ts
      obtain ⟨trees, ht⟩ := hp ts
      rw [match?, ht]
      simp only [hrest ts]
    | leaves final =>
      rw [hg] at hrest
      intro ts
      obtain ⟨front, hf⟩ := hp ts
      obtain ⟨back, hb⟩ := hrest ts
      refine ⟨front ++ back, ?_⟩
      rw [match?, hf]
      simp only [hb]

lemma Matches.orElse {other : Glimpse} (hp : Matches body levels p known g)
    (hq : Matches body levels q known other) :
    Matches body levels (.orElse p q) known (g.orElse other) := by
  cases g with
  | unknown => trivial
  | fails =>
    have hsame : ∀ ts, (Phrase.orElse p q).match? body levels (known ++ ts) =
        q.match? body levels (known ++ ts) := by
      intro ts
      rw [match?, hp ts]
    cases other with
    | unknown => trivial
    | fails => exact fun ts => (hsame ts).trans (hq ts)
    | leaves rest => exact fun ts => (hq ts).imp fun trees ht => (hsame ts).trans ht
  | leaves rest =>
    intro ts
    obtain ⟨trees, ht⟩ := hp ts
    exact ⟨trees, by rw [match?, ht]⟩

/-- A repetition ends where the phrase does not fit. -/
lemma Matches.many_of_fails (hp : Matches body levels p known .fails) :
    Matches body levels (.many p) known (.leaves known) :=
  fun ts => ⟨[], by rw [match?, hp ts]⟩

/-- A repetition ends where there is no progress. -/
lemma Matches.many_of_stays {rest : List Token} (hp : Matches body levels p known (.leaves rest))
    (hlt : ¬rest.length < known.length) : Matches body levels (.many p) known (.leaves known) := by
  intro ts
  obtain ⟨trees, ht⟩ := hp ts
  refine ⟨[], ?_⟩
  rw [match?, ht]
  simp only [List.length_append, Nat.add_lt_add_iff_right, hlt, if_false]

/-- A repetition goes on where there is progress. -/
lemma Matches.many_of_goes {rest : List Token} (hp : Matches body levels p known (.leaves rest))
    (hlt : rest.length < known.length) (hrest : Matches body levels (.many p) rest g) :
    Matches body levels (.many p) known g := by
  have hstep : ∀ ts, ∃ front, (Phrase.many p).match? body levels (known ++ ts) =
      ((Phrase.many p).match? body levels (rest ++ ts)).map
        fun result => (front ++ result.1, result.2) := by
    intro ts
    obtain ⟨front, hf⟩ := hp ts
    refine ⟨front, ?_⟩
    rw [match?, hf]
    simp only [List.length_append, Nat.add_lt_add_iff_right, hlt, if_true]
    cases (Phrase.many p).match? body levels (rest ++ ts) <;> rfl
  cases g with
  | unknown => trivial
  | fails =>
    intro ts
    obtain ⟨front, hf⟩ := hstep ts
    rw [hf, hrest ts, Option.map_none]
  | leaves final =>
    intro ts
    obtain ⟨front, hf⟩ := hstep ts
    obtain ⟨back, hb⟩ := hrest ts
    exact ⟨front ++ back, by rw [hf, hb, Option.map_some]⟩

/-- A rule matches what its phrase matches with a level less. -/
lemma Matches.rule {r : ρ} (h : Matches body levels (body r) known g) :
    Matches body (levels + 1) (.rule r) known g := by
  cases g with
  | unknown => trivial
  | fails => exact fun ts => by rw [match?, h ts]
  | leaves rest =>
    intro ts
    obtain ⟨trees, ht⟩ := h ts
    exact ⟨[.node r trees], by rw [match?, ht]⟩

end

/-- What is found at the beginning holds of the whole source, if there are enough levels. -/
lemma matches_glimpse (body : ρ → Phrase ρ) (steps : ℕ) (p : Phrase ρ) (known : List Token)
    {levels : ℕ} (h : steps ≤ levels) :
    Matches body levels p known (p.glimpse body steps known) := by
  induction steps generalizing p known levels with
  | zero => exact trivial
  | succ steps ih =>
    have hsame := fun (p : Phrase ρ) known => ih p known (Nat.le_of_succ_le h)
    cases p with
    | empty => exact fun ts => ⟨[], by rw [match?]⟩
    | token test =>
      cases known with
      | nil => exact trivial
      | cons t known =>
        rw [glimpse]
        split
        · next ht => exact fun ts => ⟨[.leaf t], by rw [List.cons_append, match?, if_pos ht]⟩
        · next ht => exact fun ts => by rw [List.cons_append, match?, if_neg ht]
    | «unless» words =>
      cases known with
      | nil => exact trivial
      | cons t known =>
        rw [glimpse]
        split
        · next ht => exact fun ts => by rw [List.cons_append, match?, if_pos ht]
        · next ht => exact fun ts => ⟨[], by rw [List.cons_append, match?, if_neg ht]⟩
    | rule r =>
      obtain ⟨levels, rfl⟩ := Nat.exists_eq_add_of_le' (Nat.le_trans (Nat.le_add_left 1 steps) h)
      exact (ih (body r) known (Nat.le_of_succ_le_succ h)).rule
    | append p q => exact (hsame p known).append fun rest => hsame q rest
    | orElse p q => exact (hsame p known).orElse (hsame q known)
    | many p =>
      have hp := hsame p known
      rw [glimpse]
      cases hg : p.glimpse body steps known with
      | unknown => exact trivial
      | fails =>
        rw [hg] at hp
        exact hp.many_of_fails
      | leaves rest =>
        rw [hg] at hp
        simp only
        split
        · next hlt => exact hp.many_of_goes hlt (hsame (.many p) rest)
        · next hlt => exact hp.many_of_stays hlt

end Phrase

end JavaUml.Java
