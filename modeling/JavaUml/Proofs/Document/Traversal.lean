/-
# The walk as a loop

The walk through a tree is a loop over a stack.  Each round takes the last identifier off the stack;
if it is one of the document, it is visited, and the children of its node are put on the stack in
reverse order, so that the first child is the next to be taken.  The loop ends when the stack is
empty (`Round.EndsIn`).

What is still to be visited at any time are the preorders of the identifiers on the stack, the last
one first.  A round visits the first of these and leaves the others (`Sound.exists_next?`).  As they
are finitely many, because children have larger identifiers than their parents, the loop ends, and
it has visited the preorder (`Sound.endsIn`).
-/
import JavaUml.Proofs.Document.Reachable

namespace JavaUml.Document

/-- The state of the loop between two rounds: the stack, with its top at the end, and what was
visited so far. -/
structure Round where
  stack : List NodeId
  order : List NodeId := []
deriving DecidableEq, Repr

namespace Round

/-- The state after a round, unless the stack is empty. -/
def next? (doc : Document) (r : Round) : Option Round :=
  r.stack.getLast?.map fun id =>
    match doc.get? id with
    | some node => ⟨r.stack.dropLast ++ node.children.reverse, r.order ++ [id]⟩
    | none => ⟨r.stack.dropLast, r.order⟩

/-- The loop ends from a state on and has visited identifiers in order. -/
inductive EndsIn (doc : Document) : Round → List NodeId → Prop
  | stop {r : Round} : r.next? doc = none → EndsIn doc r r.order
  | round {r after : Round} {order : List NodeId} : r.next? doc = some after →
      EndsIn doc after order → EndsIn doc r order

/-- What is still to be visited. -/
def rest (doc : Document) (r : Round) : List NodeId := r.stack.reverse.flatMap doc.preorder

variable {doc : Document} {r : Round} {order : List NodeId}

/-- The loop ends in one way only. -/
lemma EndsIn.unique (h : r.EndsIn doc order) {other : List NodeId} (h' : r.EndsIn doc other) :
    order = other := by
  induction h with
  | stop hstop =>
    cases h' with
    | stop _ => rfl
    | round hround _ =>
      rw [hstop] at hround
      cases hround
  | round hround _ ih =>
    cases h' with
    | stop hstop =>
      rw [hround] at hstop
      cases hstop
    | round hround' hrest =>
      obtain rfl := Option.some.inj (hround.symm.trans hround')
      exact ih hrest

end Round

open Round (EndsIn)

variable {doc : Document}

namespace Sound

/-! ## Rounds -/

/-- A round visits the first of what is still to be visited. -/
lemma exists_next? (h : doc.Sound) {r : Round} (hr : ∀ id ∈ r.stack, doc.Has id)
    (hne : r.stack ≠ []) :
    ∃ id after, r.next? doc = some after ∧ (∀ other ∈ after.stack, doc.Has other) ∧
      after.order = r.order ++ [id] ∧ r.rest doc = id :: after.rest doc := by
  obtain ⟨stack, id, hstack⟩ := (List.eq_nil_or_concat r.stack).resolve_left hne
  obtain ⟨node, hn, rfl⟩ := h.exists_of_has (hr id (by simp [hstack]))
  refine ⟨node.id, ⟨stack ++ node.children.reverse, r.order ++ [node.id]⟩, ?_, ?_, rfl, ?_⟩
  · simp [Round.next?, hstack, h.get?_of_mem hn]
  · intro other ho
    rcases List.mem_append.mp ho with ho | ho
    · exact hr other (by simp [hstack, ho])
    · obtain ⟨child, hc, -, rfl⟩ := (h.mem_children_iff hn).mp (List.mem_reverse.mp ho)
      exact h.has_of_mem hc
  · simp [Round.rest, hstack, h.preorder_eq hn]

/-- The loop ends and visits what is to be visited. -/
lemma endsIn (h : doc.Sound) {r : Round} (hr : ∀ id ∈ r.stack, doc.Has id) :
    r.EndsIn doc (r.order ++ r.rest doc) := by
  induction hrest : r.rest doc generalizing r with
  | nil =>
    -- every identifier of the document has a preorder that begins with it
    have hempty : r.stack = [] := by
      by_contra hne
      obtain ⟨id, after, -, -, -, hcons⟩ := h.exists_next? hr hne
      rw [hrest] at hcons
      cases hcons
    rw [List.append_nil]
    exact .stop (by simp [Round.next?, hempty])
  | cons first others ih =>
    have hne : r.stack ≠ [] := by
      intro hempty
      rw [Round.rest, hempty] at hrest
      cases hrest
    obtain ⟨id, after, hnext, hafter, horder, hcons⟩ := h.exists_next? hr hne
    rw [hrest] at hcons
    obtain ⟨rfl, hothers⟩ := List.cons.inj hcons
    have hends := ih hafter hothers.symm
    rw [horder, List.append_assoc] at hends
    exact .round hnext hends

/-- The loop that begins with one identifier visits its preorder. -/
lemma endsIn_singleton (h : doc.Sound) (id : NodeId) :
    EndsIn doc ⟨[id], []⟩ (doc.preorder id) := by
  by_cases hid : doc.Has id
  · have hends := h.endsIn (r := ⟨[id], []⟩) (by simpa using hid)
    simpa [Round.rest] using hends
  · -- an identifier that is not in the document is passed over
    have hg : doc.get? id = none := h.get?_eq_none_iff.mpr hid
    rw [preorder_of_get?_eq_none hg]
    have hnext : Round.next? doc ⟨[id], []⟩ = some ⟨[], []⟩ := by
      simp [Round.next?, hg]
    exact .round hnext (.stop rfl)

/-- The children of a node are listed in the order in which they were made. -/
lemma children_eq (h : doc.Sound) {node : Node} (hn : node ∈ doc.nodes.toList) :
    node.children =
      (doc.nodes.toList.filter fun child => child.parent = some node.id).map Node.id := by
  rw [h.listed node hn, offspring_outline]

end Sound

/-! ## The walk from a node -/

/-- The loop that begins with an identifier ends, in one way, and visits the recursive preorder:
nothing if the identifier is not in the document, else the identifier and then, child by child in
the order in which they were made, what the walks from the children visit.  It visits the identifier
and everything below it once, and nothing else. -/
theorem Reachable.subtree_preorder (h : doc.Reachable) (id : NodeId) :
    (∀ order, EndsIn doc ⟨[id], []⟩ order ↔ order = doc.subtree id) ∧
    (doc.get? id = none → doc.subtree id = []) ∧
    (∀ node, doc.get? id = some node →
      doc.subtree id = id :: node.children.flatMap doc.subtree ∧
      node.children =
        (doc.nodes.toList.filter fun child => child.parent = some id).map Node.id) ∧
    (doc.subtree id).Nodup ∧
    ∀ other, other ∈ doc.subtree id ↔ doc.get? id ≠ none ∧ doc.Below id other := by
  have hs := h.sound
  have hwalk : doc.subtree = doc.preorder := funext hs.subtree_eq
  refine ⟨fun order => ⟨fun hends => ?_, ?_⟩, fun hg => ?_, fun node hg => ?_,
    hs.nodup_subtree id, fun other => ?_⟩
  · rw [hwalk]
    exact hends.unique (hs.endsIn_singleton id)
  · rintro rfl
    rw [hwalk]
    exact hs.endsIn_singleton id
  · rw [hwalk, Sound.preorder_of_get?_eq_none hg]
  · obtain ⟨hn, rfl⟩ := hs.get?_eq_some_iff.mp hg
    rw [hwalk]
    exact ⟨hs.preorder_eq hn, hs.children_eq hn⟩
  · cases hg : doc.get? id with
    | none => simp [hwalk, Sound.preorder_of_get?_eq_none hg]
    | some node =>
      obtain ⟨hn, rfl⟩ := hs.get?_eq_some_iff.mp hg
      simp [hs.mem_subtree_iff hn]

/-- A child that was made last is visited before its uncle, and an identifier that is not in the
document leads nowhere. -/
theorem subtree_preorder_of_grandchild :
    ∃ doc : Document, doc.Reachable ∧ EndsIn doc ⟨[⟨10⟩], []⟩ [⟨10⟩, ⟨11⟩, ⟨13⟩, ⟨12⟩] ∧
      doc.subtree ⟨10⟩ = [⟨10⟩, ⟨11⟩, ⟨13⟩, ⟨12⟩] ∧ doc.subtree ⟨14⟩ = [] ∧
      EndsIn doc ⟨[⟨14⟩], []⟩ [] := by
  have h₀ : Reachable _ := .new (show Document.new (.new 10) .project "p" = .ok _ from rfl)
  have h₁ := h₀.call (.addChild ⟨10⟩ .ownedElements .model (some "m"))
  have h₂ := h₁.call (.addChild ⟨10⟩ .ownedElements .stateMachine (some "s"))
  have h₃ := h₂.call (.addChild ⟨11⟩ .ownedElements .classNode (some "A"))
  obtain ⟨hends, -⟩ := h₃.subtree_preorder ⟨10⟩
  obtain ⟨hends', hnone, -⟩ := h₃.subtree_preorder ⟨14⟩
  exact ⟨_, h₃, (hends _).mpr rfl, rfl, hnone rfl, (hends' _).mpr rfl⟩

end JavaUml.Document
