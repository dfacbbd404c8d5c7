/-
# What a computation makes

A computation that draws is described by the nodes it adds to the outline of the document, by the
error it ends with, if any, and by what is true of its result.  The list of nodes is known before
the computation is run: identifiers are given out one after the other, so that the number of the
next node tells all of them.

There may be too few identifiers for the nodes of the list.  Then the computation ends for want of
identifiers, and this is also the case if it would have ended with another error later
(`Makes.full`).  The rules of this file say how the parts of a computation add up.
-/
import JavaUml.Proofs.Document.Changes
import JavaUml.Proofs.Drawing.Run
import Mathlib.Algebra.Ring.Nat

namespace JavaUml

/-- A state of which a document is a part. -/
class Canvas (σ : Type) where
  /-- The document. -/
  document : σ → Document

instance : Canvas Document := ⟨id⟩

instance : Canvas ClassModel := ⟨ClassModel.document⟩

@[simp] lemma Canvas.document_eq (doc : Document) : Canvas.document doc = doc := rfl

@[simp] lemma Canvas.document_model (model : ClassModel) :
    Canvas.document model = model.document := rfl

open Canvas (document)

variable {σ α β : Type} [Canvas σ]

/-- A computation adds nodes and then has a result, with a property that also speaks about the state
afterwards, or an error.  If there are too few identifiers for the nodes, they are used up. -/
inductive Makes (m : ExceptT ModelError (StateM σ) α) (s : σ) (nodes : List Node) :
    Option ModelError → (α → σ → Prop) → Prop
  | done {P : α → σ → Prop} {a : α} {s' : σ} :
      Attempt.run m s = (.ok a, s') → (document s).Grows (document s') nodes → P a s' →
      Makes m s nodes none P
  | failed {P : α → σ → Prop} {e : ModelError} {s' : σ} :
      (document s).next + nodes.length ≤ UInt64.size → Attempt.run m s = (.error e, s') →
      Makes m s nodes (some e) P
  | full {P : α → σ → Prop} {e : Option ModelError} {s' : σ} :
      UInt64.size < (document s).next + nodes.length →
      Attempt.run m s = (.error (.idsExhausted (document s).ids.seed), s') →
      Makes m s nodes e P

namespace Makes

variable {m : ExceptT ModelError (StateM σ) α} {f : α → ExceptT ModelError (StateM σ) β}
variable {s : σ} {nodes more : List Node} {e : Option ModelError}
variable {P : α → σ → Prop} {Q : β → σ → Prop}

/-- Only of a result something is to be shown, and not if there is an error. -/
lemma imp {P' : α → σ → Prop} (hm : Makes m s nodes e P)
    (h : e = none → ∀ a s', (document s).Grows (document s') nodes → P a s' → P' a s') :
    Makes m s nodes e P' := by
  cases hm with
  | done hrun hg hp => exact .done hrun hg (h rfl _ _ hg hp)
  | failed hroom hrun => exact .failed hroom hrun
  | full hroom hrun => exact .full hroom hrun

/-- What is true of a run with a result. -/
lemma of_run (hm : Makes m s nodes e P) {a : α} {s' : σ} (hrun : Attempt.run m s = (.ok a, s')) :
    (document s).Grows (document s') nodes ∧ P a s' := by
  cases hm with
  | done hdone hg hp =>
    rw [hrun] at hdone
    cases hdone
    exact ⟨hg, hp⟩
  | failed _ hfailed =>
    rw [hrun] at hfailed
    cases hfailed
  | full _ hfull =>
    rw [hrun] at hfull
    cases hfull

lemma pure (hs : (document s).Sound) {a : α} (h : P a s) : Makes (pure a) s [] none P :=
  .done (Attempt.run_pure a s) (.refl hs) h

/-- One computation after another makes first the nodes of the one and then those of the other. -/
lemma bind (hm : Makes m s nodes none P)
    (hf : ∀ a s', (document s).Grows (document s') nodes → P a s' → Makes (f a) s' more e Q) :
    Makes (m >>= f) s (nodes ++ more) e Q := by
  cases hm with
  | done hrun hg hp =>
    have hnext := hg.next
    -- the second computation begins where the first one has ended, with its next number
    cases hf _ _ hg hp with
    | done hrun' hg' hq =>
      exact .done ((Attempt.run_bind_of_ok hrun f).trans hrun') (hg.trans hg') hq
    | failed hroom hrun' =>
      refine .failed ?_ ((Attempt.run_bind_of_ok hrun f).trans hrun')
      rw [List.length_append]
      omega
    | full hroom hrun' =>
      rw [hg.seed] at hrun'
      refine .full ?_ ((Attempt.run_bind_of_ok hrun f).trans hrun')
      rw [List.length_append]
      omega
  | full hroom hrun =>
    -- what would have come after it does not matter any more
    refine .full ?_ (Attempt.run_bind_of_error hrun f)
    rw [List.length_append]
    omega

lemma bind_nil (hm : Makes m s nodes none P)
    (hf : ∀ a s', (document s).Grows (document s') nodes → P a s' → Makes (f a) s' [] e Q) :
    Makes (m >>= f) s nodes e Q := by
  rw [← List.append_nil nodes]
  exact hm.bind hf

/-- Nothing is made after an error. -/
lemma bind_failed {err : ModelError} (hm : Makes m s nodes (some err) P) :
    Makes (m >>= f) s nodes (some err) Q := by
  cases hm with
  | failed hroom hrun => exact .failed hroom (Attempt.run_bind_of_error hrun f)
  | full hroom hrun => exact .full hroom (Attempt.run_bind_of_error hrun f)

/-- A result that is changed at the end. -/
lemma bind_pure {r : α → β} (hm : Makes m s nodes e P)
    (h : e = none → ∀ a s', (document s).Grows (document s') nodes → P a s' → Q (r a) s') :
    Makes (m >>= fun a => Pure.pure (r a)) s nodes e Q := by
  cases e with
  | some err => exact hm.bind_failed
  | none => exact hm.bind_nil fun a s' hg hp => pure hg.sound (h rfl a s' hg hp)

/-! ## The steps of a drawing -/

section Steps

variable {doc : Document} {model : ClassModel}

lemma attach (hs : doc.Sound) {parent : NodeId} (hp : doc.Has parent) (slot : Slot)
    (draft : NodeDraft) (hd : draft.slots.Nodup) :
    Makes (Drawing.attach parent slot draft) doc [draft.node ⟨doc.next⟩ parent slot] none
      (fun id _ => id = ⟨doc.next⟩) := by
  rcases Nat.lt_or_ge doc.next UInt64.size with hr | hf
  · obtain ⟨doc', he, hg⟩ := hs.attach_of_room hp hr slot draft hd
    exact .done (Attempt.run_step_of_ok he) hg rfl
  · refine .full ?_ (Attempt.run_step_of_error (hs.attach_of_full hp hf slot draft))
    exact Nat.lt_succ_of_le hf

lemma declareSlot (hs : doc.Sound) {id : NodeId} (hid : doc.Has id) (slot : Slot) :
    Makes (Drawing.declareSlot id slot) doc [] none (fun _ _ => True) := by
  obtain ⟨doc', he, hg⟩ := hs.grows_declareSlot hid slot
  have hstep : (doc.declareSlot id slot).map ((), ·) = .ok ((), doc') := by
    rw [he]
    rfl
  exact .done (Attempt.run_step_of_ok hstep) hg trivial

lemma root (hs : doc.Sound) :
    Makes Drawing.root doc [] none (fun id doc' => id = doc.root ∧ doc' = doc) :=
  .done (Attempt.run_step_of_ok rfl) (.refl hs) ⟨rfl, rfl⟩

/-- A drawing in the document of a class model makes the same nodes there, and leaves the classes as
they are. -/
lemma draw {drawing : Drawing α} {P : α → Document → Prop}
    (h : Makes drawing model.document nodes e P) :
    Makes (Mapping.draw drawing) model nodes e
      (fun a model' => P a model'.document ∧ model'.classes = model.classes) := by
  have hrun : Attempt.run (Mapping.draw drawing) model =
      ((Attempt.run drawing model.document).1,
        { model with document := (Attempt.run drawing model.document).2 }) := rfl
  cases h with
  | done hrun' hg hp =>
    rw [hrun'] at hrun
    exact .done hrun hg ⟨hp, rfl⟩
  | failed hroom hrun' =>
    rw [hrun'] at hrun
    exact .failed hroom hrun
  | full hroom hrun' =>
    rw [hrun'] at hrun
    exact .full hroom hrun

lemma store (hs : model.document.Sound) (change : ClassStore → ClassStore) :
    Makes (Mapping.store change) model [] none
      (fun _ model' => model' = { model with classes := change model.classes }) :=
  .done rfl (.refl hs) rfl

lemma outcome_ok (hs : model.document.Sound) (a : α) :
    Makes (Mapping.outcome (.ok a)) model [] none (fun b model' => b = a ∧ model' = model) :=
  .done rfl (.refl hs) ⟨rfl, rfl⟩

lemma outcome_error (hs : model.document.Sound) (err : ModelError) {P : α → ClassModel → Prop} :
    Makes (Mapping.outcome (.error err)) model [] (some err) P :=
  .failed hs.bounded rfl

end Steps

end Makes

/-! ## Loops -/

section Loops

variable {ε ι : Type}

/-- The nodes for the items of a list one after the other, beginning with a number. -/
def chain (g : ℕ → ι → List Node) : ℕ → List ι → List Node
  | _, [] => []
  | n, x :: xs => g n x ++ chain g (n + (g n x).length) xs

/-- The items of a list up to the first one with a fault. -/
def upTo (fault? : ι → Option ε) : List ι → List ι
  | [] => []
  | x :: xs => if (fault? x).isSome then [x] else x :: upTo fault? xs

lemma upTo_of_findSome?_eq_none {fault? : ι → Option ε} {xs : List ι}
    (h : xs.findSome? fault? = none) : upTo fault? xs = xs := by
  induction xs with
  | nil => rfl
  | cons x xs ih =>
    rw [List.findSome?_eq_none_iff] at h ih
    have hx : fault? x = none := h x List.mem_cons_self
    rw [upTo, hx, ih fun y hy => h y (List.mem_cons_of_mem x hy)]
    rfl

variable {g : ℕ → ι → List Node} {f : ι → ExceptT ModelError (StateM σ) β}

lemma chain_append (g : ℕ → ι → List Node) (n : ℕ) (xs ys : List ι) :
    chain g n (xs ++ ys) = chain g n xs ++ chain g (n + (chain g n xs).length) ys := by
  induction xs generalizing n with
  | nil => rfl
  | cons x xs ih =>
    simp only [List.cons_append, chain, ih, List.append_assoc, List.length_append, Nat.add_assoc]

/-- A node of a chain is one of those for an item, which are all in the chain. -/
lemma exists_of_mem_chain {n : ℕ} {xs : List ι} {node : Node} (h : node ∈ chain g n xs) :
    ∃ x ∈ xs, ∃ k, n ≤ k ∧ node ∈ g k x ∧ g k x ⊆ chain g n xs := by
  induction xs generalizing n with
  | nil => cases h
  | cons x xs ih =>
    rcases List.mem_append.mp h with h | h
    · exact ⟨x, List.mem_cons_self, n, Nat.le_refl n, h, List.subset_append_left _ _⟩
    · obtain ⟨y, hy, k, hle, hk, hsub⟩ := ih h
      exact ⟨y, List.mem_cons_of_mem x hy, k, Nat.le_trans (Nat.le_add_right _ _) hle, hk,
        List.subset_append_of_subset_right _ hsub⟩

/-- If the number of nodes of an item does not depend on their numbers, it can be counted. -/
lemma length_chain {size : ι → ℕ} {xs : List ι} (hg : ∀ x ∈ xs, ∀ n, (g n x).length = size x)
    (n : ℕ) : (chain g n xs).length = (xs.map size).sum := by
  induction xs generalizing n with
  | nil => rfl
  | cons x xs ih =>
    rw [chain, List.length_append, hg x List.mem_cons_self,
      ih fun y hy => hg y (List.mem_cons_of_mem x hy), List.map_cons, List.sum_cons]

namespace Makes

/-- A loop makes the nodes of its items, up to the first item with an error.  Of the results that
part is described which a function gives.  What is true before each item may depend on the items
that are left. -/
lemma mapM {γ : Type} {fault? : ι → Option ModelError} (view : β → γ) (r : ι → γ)
    (I : List ι → σ → Prop)
    (step : ∀ x xs s, (document s).Sound → I (x :: xs) s →
      Makes (f x) s (g (document s).next x) (fault? x) (fun b s' => view b = r x ∧ I xs s')) :
    ∀ xs s, (document s).Sound → I xs s →
      Makes (xs.mapM f) s (chain g (document s).next (upTo fault? xs)) (xs.findSome? fault?)
        (fun bs s' => bs.map view = xs.map r ∧ I [] s') := by
  intro xs
  induction xs with
  | nil =>
    intro s hs hI
    rw [List.mapM_nil]
    exact pure hs ⟨rfl, hI⟩
  | cons x xs ih =>
    intro s hs hI
    have hx := step x xs s hs hI
    rw [List.mapM_cons, upTo]
    cases hfault : fault? x with
    | some err =>
      -- the first fault ends the loop after the nodes of its item
      rw [hfault] at hx
      rw [List.findSome?_cons_of_isSome (by simp [hfault]), hfault]
      simp only [Option.isSome_some, if_true, chain, List.append_nil]
      exact hx.bind_failed
    | none =>
      rw [hfault] at hx
      rw [List.findSome?_cons_of_isNone (by simp [hfault])]
      refine hx.bind fun b s' hg hb => ?_
      have hrest := ih s' hg.sound hb.2
      rw [hg.next] at hrest
      refine hrest.bind_pure fun _ bs s'' _ hbs => ⟨?_, hbs.2⟩
      rw [List.map_cons, List.map_cons, hb.1, hbs.1]

/-- A loop without results and errors. -/
lemma forM {f : ι → ExceptT ModelError (StateM σ) PUnit} (I : σ → Prop)
    (step : ∀ x s, (document s).Sound → I s →
      Makes (f x) s (g (document s).next x) none (fun _ s' => I s')) :
    ∀ xs s, (document s).Sound → I s →
      Makes (xs.forM f) s (chain g (document s).next xs) none (fun _ s' => I s') := by
  intro xs
  induction xs with
  | nil =>
    intro s hs hI
    exact pure hs hI
  | cons x xs ih =>
    intro s hs hI
    rw [List.forM_eq_forM, List.forM_cons]
    refine (step x s hs hI).bind fun _ s' hg hI' => ?_
    have hrest := ih s' hg.sound hI'
    rw [hg.next] at hrest
    exact hrest

/-- A loop that hands a value on and makes no errors.  What a view of the value shows is gathered
from the items. -/
lemma foldlM {γ : Type} {f : β → ι → ExceptT ModelError (StateM σ) β} (view : β → List γ)
    (out : ι → List γ) (I : σ → Prop)
    (step : ∀ x b s, (document s).Sound → I s →
      Makes (f b x) s (g (document s).next x) none
        (fun b' s' => view b' = view b ++ out x ∧ I s')) :
    ∀ xs b s, (document s).Sound → I s →
      Makes (xs.foldlM f b) s (chain g (document s).next xs) none
        (fun b' s' => view b' = view b ++ xs.flatMap out ∧ I s') := by
  intro xs
  induction xs with
  | nil =>
    intro b s hs hI
    exact pure hs ⟨(List.append_nil _).symm, hI⟩
  | cons x xs ih =>
    intro b s hs hI
    rw [List.foldlM_cons]
    refine (step x b s hs hI).bind fun b' s' hg h' => ?_
    have hrest := ih b' s' hg.sound h'.2
    rw [hg.next] at hrest
    refine hrest.imp fun _ b'' s'' _ h'' => ⟨?_, h''.2⟩
    rw [h''.1, h'.1, List.flatMap_cons, List.append_assoc]

end Makes

end Loops

end JavaUml
