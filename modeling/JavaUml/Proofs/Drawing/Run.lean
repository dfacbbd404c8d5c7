/-
# Running a computation that may fail

Drawings and mappings are computations with a state and an error.  A run gives the result and the
state where the computation ended, be it with a value or with an error: what was done before an
error stays done.
-/
import JavaUml.ClassModel.Mapping
import Mathlib.Tactic.Lemma

namespace JavaUml.Attempt

variable {σ α β : Type}

/-- The result of a computation and the state where it ends. -/
def run (m : ExceptT ModelError (StateM σ) α) (s : σ) : Except ModelError α × σ :=
  StateT.run (ExceptT.run m) s

lemma run_drawing (d : Drawing α) (doc : Document) : Drawing.run d doc = run d doc := rfl

lemma run_mapping (m : Mapping α) (model : ClassModel) : Mapping.run m model = run m model := rfl

@[simp] lemma run_pure (a : α) (s : σ) :
    run (pure a : ExceptT ModelError (StateM σ) α) s = (.ok a, s) := rfl

/-- A computation goes on in the state where the one before it has ended. -/
lemma run_bind_of_ok {m : ExceptT ModelError (StateM σ) α} {s s' : σ} {a : α}
    (h : run m s = (.ok a, s')) (f : α → ExceptT ModelError (StateM σ) β) :
    run (m >>= f) s = run (f a) s' := by
  have hm : m s = (.ok a, s') := h
  simp [run, bind, ExceptT.bind, ExceptT.mk, ExceptT.bindCont, StateT.bind, ExceptT.run,
    StateT.run, hm]

/-- An error ends a computation where it occurs. -/
lemma run_bind_of_error {m : ExceptT ModelError (StateM σ) α} {s s' : σ} {e : ModelError}
    (h : run m s = (.error e, s')) (f : α → ExceptT ModelError (StateM σ) β) :
    run (m >>= f) s = (.error e, s') := by
  have hm : m s = (.error e, s') := h
  simp [run, bind, ExceptT.bind, ExceptT.mk, ExceptT.bindCont, StateT.bind, ExceptT.run,
    StateT.run, hm]
  rfl

/-- If two computations one after the other have a result, then both have one. -/
lemma exists_of_run_bind {m : ExceptT ModelError (StateM σ) α}
    {f : α → ExceptT ModelError (StateM σ) β} {s t : σ} {b : β}
    (h : run (m >>= f) s = (.ok b, t)) :
    ∃ a s', run m s = (.ok a, s') ∧ run (f a) s' = (.ok b, t) := by
  cases hm : run m s with
  | mk outcome s' =>
    cases outcome with
    | ok a =>
      rw [run_bind_of_ok hm] at h
      exact ⟨a, s', rfl, h⟩
    | error e =>
      rw [run_bind_of_error hm] at h
      cases h

lemma run_step_of_ok {f : Document → Except ModelError (α × Document)} {doc doc' : Document}
    {a : α} (h : f doc = .ok (a, doc')) : run (Drawing.step f) doc = (.ok a, doc') := by
  simp [run, Drawing.step, ExceptT.mk, ExceptT.run, StateT.run, h]

lemma run_step_of_error {f : Document → Except ModelError (α × Document)} {doc : Document}
    {e : ModelError} (h : f doc = .error e) : run (Drawing.step f) doc = (.error e, doc) := by
  simp [run, Drawing.step, ExceptT.mk, ExceptT.run, StateT.run, h]

lemma eq_ok_of_run_step {f : Document → Except ModelError (α × Document)} {doc doc' : Document}
    {a : α} (h : run (Drawing.step f) doc = (.ok a, doc')) : f doc = .ok (a, doc') := by
  cases hf : f doc with
  | ok result =>
    rw [run_step_of_ok hf] at h
    cases h
    rfl
  | error e =>
    rw [run_step_of_error hf] at h
    cases h

lemma eq_ok_of_run_declareSlot {id : NodeId} {slot : Slot} {doc doc' : Document} {u : Unit}
    (h : run (Drawing.declareSlot id slot) doc = (.ok u, doc')) :
    doc.declareSlot id slot = .ok doc' := by
  have hstep := eq_ok_of_run_step h
  cases hd : doc.declareSlot id slot with
  | ok after =>
    rw [hd] at hstep
    cases hstep
    rfl
  | error e =>
    rw [hd] at hstep
    cases hstep

/-- What is drawn in a class model is drawn in its document. -/
lemma run_draw {drawing : Drawing α} {model model' : ClassModel} {a : α}
    (h : run (Mapping.draw drawing) model = (.ok a, model')) :
    run drawing model.document = (.ok a, model'.document) ∧ model'.classes = model.classes := by
  cases hrun : run drawing model.document with
  | mk outcome doc =>
    have hdraw : run (Mapping.draw drawing) model = (outcome, { model with document := doc }) := by
      show ((run drawing model.document).1,
        { model with document := (run drawing model.document).2 }) = _
      rw [hrun]
    rw [hdraw] at h
    cases h
    exact ⟨rfl, rfl⟩

end JavaUml.Attempt
