/-
# Documents that calls lead to

A document is made with its root and then changed by calls: adding a child, declaring a collection,
setting a field, replacing names.  A call is carried out on the stored document step by step, as a
drawing, and an error leaves the document as the steps before it have left it.  So it has to be
shown that a call which fails has changed nothing (`perform_eq_of_error`); for adding a child this
is the case since the parent is looked up before an identifier is taken.

The invariant `Document.Sound` holds of a new document and is kept by each call.  From it follows
what is true of every document that calls lead to (`Reachable.integrity`).
-/
import JavaUml.Document.Check
import JavaUml.Proofs.Document.Sweep
import JavaUml.Proofs.Drawing.Run
import Mathlib.Algebra.Ring.Nat

namespace JavaUml.Document

/-! ## Calls -/

/-- Finds where a node is kept. -/
def locate (id : NodeId) : Drawing ℕ :=
  Drawing.step fun doc =>
    match doc.index? id with
    | some i => .ok (i, doc)
    | none => .error (.unknownNode id)

/-- Takes the next identifier. -/
def takeId : Drawing NodeId :=
  Drawing.step fun doc =>
    match doc.ids.next? with
    | some (id, ids) => .ok (id, { doc with ids })
    | none => .error (.idsExhausted doc.ids.seed)

/-- Puts a node at the end. -/
def put (node : Node) : Drawing Unit :=
  Drawing.step fun doc => .ok ((), doc.push doc.ids node)

/-- Changes the node that is kept at an index. -/
def change (i : ℕ) (f : Node → Node) : Drawing Unit :=
  Drawing.step fun doc => .ok ((), doc.modifyAt i f)

/-- A call of an operation that changes documents. -/
inductive Call
  | addChild (parent : NodeId) (slot : Slot) (kind : NodeKind) (name : Option String)
  | declareSlot (id : NodeId) (slot : Slot)
  | setField (id : NodeId) (key : String) (value : Value)
  | resolveSymbols (top : NodeId) (table : NameTable)

/-- What a call gives back. -/
inductive Answer
  | done
  | made (id : NodeId)
  | resolved (count : ℕ)
deriving DecidableEq, Repr

/-- The steps of a call. -/
def Call.steps : Call → Drawing Answer
  | .addChild parent slot kind name => do
    let _ ← locate parent
    let id ← takeId
    put { id, kind, name, parent := some parent, slot := some slot }
    let i ← locate parent
    change i (Node.adopt slot id)
    return .made id
  | .declareSlot id slot => do
    let i ← locate id
    change i (Node.declareSlot slot)
    return .done
  | .setField id key value => do
    let i ← locate id
    change i (Node.setField key value)
    return .done
  | .resolveSymbols top table =>
    Drawing.step fun doc =>
      .ok (.resolved (doc.resolveSymbols top table).2, (doc.resolveSymbols top table).1)

/-- The answer to a call, or its error, and the document after it. -/
def perform (doc : Document) (call : Call) : Except ModelError Answer × Document :=
  call.steps.run doc

/-- The documents that calls lead to from a new document, whether they succeed or fail. -/
inductive Reachable : Document → Prop
  | new {ids : IdAllocator} {kind : NodeKind} {name : String} {doc : Document} :
      Document.new ids kind name = .ok doc → Reachable doc
  | call {doc : Document} (c : Call) : Reachable doc → Reachable (doc.perform c).2

variable {doc doc' : Document}

/-! ## What the calls do -/

lemma run_locate {id : NodeId} {i : ℕ} (hi : doc.index? id = some i) :
    Attempt.run (locate id) doc = (.ok i, doc) :=
  Attempt.run_step_of_ok (by rw [hi])

lemma run_locate_of_none {id : NodeId} (hi : doc.index? id = none) :
    Attempt.run (locate id) doc = (.error (.unknownNode id), doc) :=
  Attempt.run_step_of_error (by rw [hi])

lemma run_put (node : Node) (doc : Document) :
    Attempt.run (put node) doc = (.ok (), doc.push doc.ids node) :=
  Attempt.run_step_of_ok rfl

lemma run_change (i : ℕ) (f : Node → Node) (doc : Document) :
    Attempt.run (change i f) doc = (.ok (), doc.modifyAt i f) :=
  Attempt.run_step_of_ok rfl

/-- A node that was there is found at the same index after another was put at the end. -/
lemma index?_push {id : NodeId} {i : ℕ} (hi : doc.index? id = some i) (ids : IdAllocator)
    (node : Node) : (doc.push ids node).index? id = some i := by
  have hout : (doc.push ids node).outline = doc.outline ++ [node.bare] := by
    simp [outline, push]
  have hroot := root_eq_of_outline hout
  obtain ⟨⟨h₁, h₂⟩, rfl⟩ := index?_eq_some_iff.mp hi
  refine index?_eq_some_iff.mpr ⟨⟨by rwa [hroot], ?_⟩, by rw [hroot]⟩
  rw [next, hroot, ← length_outline, hout, List.length_append, length_outline]
  exact Nat.lt_of_lt_of_le h₂ (Nat.add_le_add_left (Nat.le_add_right _ _) _)

/-- Step by step, adding a child gives what `Document.addChild` gives at once.  In particular the
parent is found again after the new node was put at the end. -/
lemma perform_addChild (doc : Document) (parent : NodeId) (slot : Slot) (kind : NodeKind)
    (name : Option String) :
    doc.perform (.addChild parent slot kind name) =
      match doc.addChild parent slot kind name with
      | .ok (id, doc') => (.ok (.made id), doc')
      | .error e => (.error e, doc) := by
  rw [perform, Attempt.run_drawing, addChild, attach]
  simp only [Call.steps]
  cases hi : doc.index? parent with
  | none => exact Attempt.run_bind_of_error (run_locate_of_none hi) _
  | some i =>
    rw [Attempt.run_bind_of_ok (run_locate hi)]
    cases hids : doc.ids.next? with
    | none =>
      refine Attempt.run_bind_of_error (Attempt.run_step_of_error ?_) _
      rw [hids]
    | some issued =>
      obtain ⟨id, ids⟩ := issued
      have htake : Attempt.run takeId doc = (.ok id, { doc with ids }) :=
        Attempt.run_step_of_ok (by rw [hids])
      have hput : ∀ node, Attempt.run (put node) { doc with ids } = (.ok (), doc.push ids node) :=
        fun node => run_put node _
      rw [Attempt.run_bind_of_ok htake, Attempt.run_bind_of_ok (hput _),
        Attempt.run_bind_of_ok (run_locate (index?_push hi _ _)),
        Attempt.run_bind_of_ok (run_change _ _ _), Attempt.run_pure]

/-- A call that changes one node gives what `Document.modify` gives at once. -/
lemma run_locate_change (doc : Document) (id : NodeId) (f : Node → Node) :
    Attempt.run (do let i ← locate id; change i f; return Answer.done) doc =
      match doc.modify id f with
      | .ok doc' => (.ok .done, doc')
      | .error e => (.error e, doc) := by
  rw [modify]
  cases hi : doc.index? id with
  | none => exact Attempt.run_bind_of_error (run_locate_of_none hi) _
  | some i =>
    rw [Attempt.run_bind_of_ok (run_locate hi), Attempt.run_bind_of_ok (run_change _ _ _),
      Attempt.run_pure]

lemma perform_declareSlot (doc : Document) (id : NodeId) (slot : Slot) :
    doc.perform (.declareSlot id slot) =
      match doc.declareSlot id slot with
      | .ok doc' => (.ok .done, doc')
      | .error e => (.error e, doc) :=
  doc.run_locate_change id (Node.declareSlot slot)

lemma perform_setField (doc : Document) (id : NodeId) (key : String) (value : Value) :
    doc.perform (.setField id key value) =
      match doc.setField id key value with
      | .ok doc' => (.ok .done, doc')
      | .error e => (.error e, doc) :=
  doc.run_locate_change id (Node.setField key value)

lemma perform_resolveSymbols (doc : Document) (top : NodeId) (table : NameTable) :
    doc.perform (.resolveSymbols top table) =
      (.ok (.resolved (doc.resolveSymbols top table).2), (doc.resolveSymbols top table).1) := by
  rw [perform, Attempt.run_drawing, Call.steps, Attempt.run_step_of_ok rfl]

/-! ## Calls that fail -/

/-- The node that a call is about. -/
def Call.target : Call → NodeId
  | .addChild parent _ _ _ => parent
  | .declareSlot id _ => id
  | .setField id _ _ => id
  | .resolveSymbols top _ => top

/-- A call fails because of a node that is not there, or for want of an identifier, and it leaves
the document as it was. -/
lemma perform_eq_of_error {call : Call} {e : ModelError}
    (h : doc.perform call = (.error e, doc')) :
    doc' = doc ∧ ((e = .unknownNode call.target ∧ doc.get? call.target = none) ∨
      (e = .idsExhausted doc.ids.seed ∧ doc.ids.next? = none)) := by
  -- two of the calls change one node and can only miss it
  have hmodify : ∀ id f, (match doc.modify id f with
      | .ok doc' => (Except.ok Answer.done, doc')
      | .error e => (.error e, doc)) = (.error e, doc') →
      doc' = doc ∧ e = .unknownNode id ∧ doc.get? id = none := by
    intro id f he
    rw [modify] at he
    cases hi : doc.index? id with
    | none =>
      rw [hi] at he
      cases he
      exact ⟨rfl, rfl, by rw [get?, hi]; rfl⟩
    | some i =>
      rw [hi] at he
      cases he
  cases call with
  | addChild parent slot kind name =>
    rw [perform_addChild, addChild, attach] at h
    cases hi : doc.index? parent with
    | none =>
      rw [hi] at h
      cases h
      exact ⟨rfl, .inl ⟨rfl, by rw [get?, Call.target, hi]; rfl⟩⟩
    | some i =>
      cases hids : doc.ids.next? with
      | none =>
        simp only [hi, hids] at h
        cases h
        exact ⟨rfl, .inr ⟨rfl, rfl⟩⟩
      | some issued =>
        simp only [hi, hids] at h
        cases h
  | declareSlot id slot =>
    obtain ⟨h₁, h₂⟩ := hmodify id _ (perform_declareSlot doc id slot ▸ h)
    exact ⟨h₁, .inl h₂⟩
  | setField id key value =>
    obtain ⟨h₁, h₂⟩ := hmodify id _ (perform_setField doc id key value ▸ h)
    exact ⟨h₁, .inl h₂⟩
  | resolveSymbols top table =>
    rw [perform_resolveSymbols] at h
    cases h

/-! ## The invariant -/

namespace Sound

lemma modify (h : doc.Sound) {id : NodeId} {f : Node → Node}
    (hf : ∀ node : Node, node.Keeps (f node)) (he : doc.modify id f = .ok doc') : doc'.Sound := by
  rcases doc.modify_eq id f with ⟨-, hfail⟩ | ⟨-, i, hi, hok⟩
  · rw [hfail] at he
    cases he
  · rw [hok] at he
    cases he
    exact h.modifyAt hi hf

lemma addChild (h : doc.Sound) {parent id : NodeId} {slot : Slot} {kind : NodeKind}
    {name : Option String} (he : doc.addChild parent slot kind name = .ok (id, doc')) :
    doc'.Sound := by
  rw [Document.addChild] at he
  by_cases hp : doc.Has parent
  · rcases Nat.lt_or_ge doc.next UInt64.size with hr | hf
    · obtain ⟨after, hafter, g⟩ := h.attach_of_room hp hr slot { kind, name } .nil
      rw [hafter] at he
      cases he
      exact g.sound
    · rw [h.attach_of_full hp hf] at he
      cases he
  · rw [attach_of_not_has hp] at he
    cases he

/-- A call keeps a document sound. -/
lemma perform (h : doc.Sound) (call : Call) : (doc.perform call).2.Sound := by
  cases call with
  | addChild parent slot kind name =>
    rw [perform_addChild]
    split
    · next id doc' he => exact h.addChild he
    · exact h
  | declareSlot id slot =>
    rw [perform_declareSlot]
    split
    · next doc' he => exact h.modify (fun node => node.keeps_declareSlot slot) he
    · exact h
  | setField id key value =>
    rw [perform_setField]
    split
    · next doc' he => exact h.modify (Node.keeps_setField key value) he
    · exact h
  | resolveSymbols top table =>
    rw [perform_resolveSymbols]
    exact h.resolveSymbols top table

end Sound

/-! ## The check -/

namespace Sound

lemma expect_eq (h : doc.Sound) {node : Node} (hn : node ∈ doc.nodes.toList) :
    doc.expect node.id = .ok node := by
  rw [expect, h.get?_of_mem hn]

/-- A node is listed once by its parent. -/
lemma count_children (h : doc.Sound) {owner node : Node} (ho : owner ∈ doc.nodes.toList)
    (hn : node ∈ doc.nodes.toList) (hp : node.parent = some owner.id) :
    owner.children.count node.id = 1 :=
  List.count_eq_one_of_mem (h.nodup_children ho)
    ((h.mem_children_iff ho).mpr ⟨node, hn, hp, rfl⟩)

lemma checkParent_eq (h : doc.Sound) {before : Option Node} {node : Node}
    (hn : node ∈ doc.nodes.toList) (hb : node.id = doc.root → before = none) :
    doc.checkParent before node = .ok () := by
  unfold checkParent
  rcases h.placed_of_mem hn with ⟨hroot, hp⟩ | ⟨parent, slot, hp, -, -, -⟩
  · rw [hp, hb hroot]
    rfl
  · obtain ⟨owner, ho, rfl⟩ := h.exists_of_has (h.has_parent hn hp)
    rw [hp]
    simp [h.expect_eq ho, h.count_children ho hn hp, require, bind, Except.bind]

lemma checkChildren_eq (h : doc.Sound) {node : Node} (hn : node ∈ doc.nodes.toList) :
    ∀ children : List NodeId, children ⊆ node.children →
      children.forM (doc.checkChild node) = .ok () := by
  intro children hsub
  induction children with
  | nil => rfl
  | cons child children ih =>
    obtain ⟨c, hc, hp, rfl⟩ := (h.mem_children_iff hn).mp (hsub List.mem_cons_self)
    have hcheck : doc.checkChild node c.id = .ok () := by
      simp [checkChild, h.expect_eq hc, hp, require, bind, Except.bind]
    rw [List.forM_eq_forM, List.forM_cons, hcheck]
    exact ih fun c hc => hsub (List.mem_cons_of_mem _ hc)

lemma id_eq_of_append (h : doc.Sound) {pre rest : List Node} {node : Node}
    (hlist : doc.nodes.toList = pre ++ node :: rest) :
    node.id = ⟨doc.root.value + pre.length⟩ := by
  have hlt : pre.length < doc.nodes.size := by
    rw [← Array.length_toList, hlist]
    simp
  have he : doc.nodes[pre.length] = node := by
    rw [← Array.getElem_toList, List.getElem_of_eq hlist]
    simp
  rw [← he, h.id_getElem hlt]

/-- The check of the nodes from one on succeeds. -/
lemma checkNodes_eq (h : doc.Sound) (rest : List Node) {pre : List Node}
    (hlist : doc.nodes.toList = pre ++ rest) : doc.checkNodes pre.getLast? rest = .ok () := by
  induction rest generalizing pre with
  | nil => rfl
  | cons node rest ih =>
    have hn : node ∈ doc.nodes.toList := by simp [hlist]
    have hid := h.id_eq_of_append hlist
    -- the node before this one has the number before
    have horder : checkOrder pre.getLast? node = .ok () := by
      cases hlast : pre.getLast? with
      | none => rfl
      | some previous =>
        obtain ⟨before, rfl⟩ := List.getLast?_eq_some_iff.mp hlast
        have hsplit : doc.nodes.toList = before ++ previous :: node :: rest := by
          simpa using hlist
        have hprevious := h.id_eq_of_append hsplit
        have hlt : previous.id.value < node.id.value := by
          rw [hid, hprevious]
          simp
        simp [checkOrder, require, hlt]
    have hparent : doc.checkParent pre.getLast? node = .ok () := by
      refine h.checkParent_eq hn fun hroot => ?_
      have hlength : pre.length = 0 := by
        have hvalue := congrArg NodeId.value (hid.symm.trans hroot)
        simpa using hvalue
      rw [List.length_eq_zero_iff.mp hlength]
      rfl
    have hnode : doc.checkNode pre.getLast? node = .ok () := by
      simp only [checkNode, horder, hparent, bind, Except.bind]
      exact h.checkChildren_eq hn _ (List.Subset.refl _)
    have hsplit : doc.nodes.toList = (pre ++ [node]) ++ rest := by simpa using hlist
    have hrest := ih hsplit
    rw [List.getLast?_concat] at hrest
    simp only [checkNodes, hnode, hrest, bind, Except.bind]

lemma check_eq (h : doc.Sound) : doc.check = .ok () :=
  h.checkNodes_eq doc.nodes.toList (show doc.nodes.toList = [] ++ doc.nodes.toList from rfl)

end Sound

namespace Sound

/-- A node but the root is listed once by a parent before it, which declares its collection once. -/
lemma exists_owner (h : doc.Sound) {node : Node} (hn : node ∈ doc.nodes.toList)
    (hroot : node.id ≠ doc.root) :
    ∃ owner slot, node.parent = some owner.id ∧ node.slot = some slot ∧
      doc.get? owner.id = some owner ∧ owner.id.value < node.id.value ∧
      owner.children.count node.id = 1 ∧ owner.slots.count slot = 1 := by
  rcases h.placed_of_mem hn with ⟨hid, -⟩ | ⟨parent, slot, hp, hslot, -, hlt⟩
  · exact absurd hid hroot
  · obtain ⟨owner, ho, rfl⟩ := h.exists_of_has (h.has_parent hn hp)
    obtain ⟨declared, hmem, hd⟩ := h.declared owner ho node.bare (List.mem_map_of_mem hn) hp
    obtain rfl : slot = declared := by simpa [hslot] using hd
    exact ⟨owner, slot, hp, hslot, h.get?_of_mem ho, hlt, h.count_children ho hn hp,
      List.count_eq_one_of_mem (h.nodup_slots owner ho) hmem⟩

lemma next?_eq_none_iff (h : doc.Sound) :
    doc.ids.next? = none ↔ doc.root.value + doc.nodes.size = 2 ^ 64 := by
  have hsize : UInt64.size = 2 ^ 64 := rfl
  have hb := h.bounded
  change _ ↔ doc.next = 2 ^ 64
  rw [← hsize]
  rcases Nat.lt_or_ge doc.next UInt64.size with hr | hf
  · rw [h.next?_of_room hr]
    simpa using Nat.ne_of_lt hr
  · simpa [h.next?_of_full hf] using Nat.le_antisymm hb hf

lemma perform_addChild_ok_iff (h : doc.Sound) (parent : NodeId) (slot : Slot) (kind : NodeKind)
    (name : Option String) :
    (∃ id after, doc.perform (.addChild parent slot kind name) = (.ok (.made id), after)) ↔
      doc.get? parent ≠ none ∧ doc.ids.next? ≠ none := by
  rw [perform_addChild, Document.addChild, ne_eq, ne_eq, h.get?_eq_none_iff, not_not]
  -- the outcome of `attach` is known in each of the three cases
  by_cases hp : doc.Has parent
  · rcases Nat.lt_or_ge doc.next UInt64.size with hr | hf
    · obtain ⟨after, hafter, -⟩ := h.attach_of_room hp hr slot { kind, name } .nil
      rw [hafter, h.next?_of_room hr]
      exact ⟨fun _ => ⟨hp, by simp⟩, fun _ => ⟨_, _, rfl⟩⟩
    · rw [h.attach_of_full hp hf, h.next?_of_full hf]
      simp
  · rw [attach_of_not_has hp]
    simp [hp]

end Sound

lemma Reachable.sound (h : doc.Reachable) : doc.Sound := by
  induction h with
  | new hnew => exact sound_new hnew
  | call c _ ih => exact ih.perform c

/-! ## What is true of every document -/

/-- Whatever calls have led to a document: its nodes are numbered from the root on and found by
their numbers; every node but the root is listed once by a parent before it, which declares its
collection once; no node lists the child of another; the check succeeds; and the walk from the root
meets every node once.  A call that fails leaves the document and its identifiers as they were, and
adding a child fails only if the parent is unknown or the last identifier has been issued. -/
theorem Reachable.integrity (h : doc.Reachable) :
    (∀ i (hi : i < doc.nodes.size), doc.nodes[i].id = ⟨doc.root.value + i⟩) ∧
    (∀ id node, doc.get? id = some node ↔ node ∈ doc.nodes ∧ node.id = id) ∧
    (∀ node ∈ doc.nodes, node.id ≠ doc.root →
      ∃ owner slot, node.parent = some owner.id ∧ node.slot = some slot ∧
        doc.get? owner.id = some owner ∧ owner.id.value < node.id.value ∧
        owner.children.count node.id = 1 ∧ owner.slots.count slot = 1) ∧
    (∀ owner ∈ doc.nodes, ∀ child ∈ owner.children,
      ∃ node, doc.get? child = some node ∧ node.parent = some owner.id) ∧
    doc.check = .ok () ∧
    ((doc.subtree doc.root).Nodup ∧
      ∀ id, id ∈ doc.subtree doc.root ↔ ∃ node ∈ doc.nodes, node.id = id) ∧
    (∀ call e after, doc.perform call = (.error e, after) → after = doc ∧
      ((e = .unknownNode call.target ∧ doc.get? call.target = none) ∨
        (e = .idsExhausted doc.ids.seed ∧ doc.ids.next? = none))) ∧
    (∀ parent slot kind name,
      (∃ id after, doc.perform (.addChild parent slot kind name) = (.ok (.made id), after)) ↔
        doc.get? parent ≠ none ∧ doc.ids.next? ≠ none) ∧
    (doc.ids.next? = none ↔ doc.root.value + doc.nodes.size = 2 ^ 64) := by
  have hs := h.sound
  refine ⟨fun i hi => hs.id_getElem hi, fun id node => by simpa using hs.get?_eq_some_iff,
    fun node hn hroot => hs.exists_owner (by simpa using hn) hroot, fun owner ho child hc => ?_,
    hs.check_eq, ⟨hs.nodup_subtree _, fun id => ?_⟩, fun call e after he => perform_eq_of_error he,
    hs.perform_addChild_ok_iff, hs.next?_eq_none_iff⟩
  · obtain ⟨node, hn, hp, rfl⟩ := (hs.mem_children_iff (by simpa using ho)).mp hc
    exact ⟨node, hs.get?_of_mem hn, hp⟩
  · simp [hs.subtree_root_perm.mem_iff]

/-- A document with the last two identifiers, after a call that succeeded and two that failed. -/
theorem integrity_at_the_last_identifiers :
    ∃ doc : Document, doc.Reachable ∧ doc.size = 2 ∧ doc.check = .ok () ∧
      (doc.subtree doc.root).Nodup ∧ doc.ids.next? = none := by
  have h₀ : Reachable _ :=
    .new (show Document.new (.new 0xFFFFFFFFFFFFFFFE) .project "p" = .ok _ from rfl)
  have h₁ := h₀.call (.addChild ⟨0xFFFFFFFFFFFFFFFE⟩ .ownedElements .model (some "m"))
  have h₂ := h₁.call (.addChild ⟨0xFFFFFFFFFFFFFFFF⟩ .ownedElements .classNode (some "A"))
  have h₃ := h₂.call (.declareSlot ⟨7⟩ .attributes)
  obtain ⟨-, -, -, -, hcheck, ⟨hwalk, -⟩, -, -, hfull⟩ := h₃.integrity
  exact ⟨_, h₃, rfl, hcheck, hwalk, hfull.mpr rfl⟩

end JavaUml.Document
