/-
# The contents of a registry

A registry keeps its table of kinds and the list of its names apart.  Every call keeps them in step:
both hold the names that were added since the registry was last cleared, each once, and the list has
them in the order in which they first occur (`Lists`, `lists_ofCalls`).  So the entries of a
registry, their number and what looking up a name finds are all told by the calls (`Reflects`).

Both ends of an edge are among the names.  This is why a diagram never meets a name that is not
registered, in whatever document it is drawn.
-/
import JavaUml.Proofs.Drawing.Within
import JavaUml.Proofs.Registry.Calls
import Mathlib.Data.Finset.Card

namespace JavaUml.Registry

variable {κ : Type} {kindOf : String → κ}

/-- The names that were added since everything was removed, with the kinds for them, in the order of
the calls. -/
def entriesSince (kindOf : String → κ) (calls : List (Call κ)) : List (String × κ) :=
  (sinceClear calls).flatMap (Call.entries kindOf)

/-- The names that were added since everything was removed, as often as they were added. -/
def namesSince (kindOf : String → κ) (calls : List (Call κ)) : List String :=
  (entriesSince kindOf calls).map Prod.fst

/-! ## The table and the list -/

/-- The list of a registry has the names of another list, each of them once and in the order in
which they first occur there, and its table has the same names. -/
structure Lists (r : Registry κ) (names : List String) : Prop where
  names : r.names = names.eraseDups
  keys : (r.kinds.map Prod.fst).Perm r.names

namespace Lists

variable {r : Registry κ} {names : List String}

lemma isSome_kind?_iff (h : r.Lists names) {name : String} :
    (r.kind? name).isSome = true ↔ name ∈ names := by
  rw [← List.mem_eraseDups, ← h.names, ← h.keys.mem_iff, kind?, List.lookup_isSome_iff]
  simp only [beq_iff_eq, List.mem_map, eq_comm (a := name)]

/-- A name that is registered comes to the end of both, unless it is in both. -/
lemma register (h : r.Lists names) (name : String) (kind : κ) :
    (r.register name kind).Lists (names ++ [name]) := by
  unfold Registry.register
  by_cases hkind : (r.kind? name).isSome = true
  · rw [if_pos hkind]
    refine ⟨?_, h.keys⟩
    rw [eraseDups_concat, if_pos (h.isSome_kind?_iff.mp hkind), h.names]
  · rw [if_neg hkind]
    have hnew : name ∉ names := fun hmem => hkind (h.isSome_kind?_iff.mpr hmem)
    have hnone : r.kinds.lookup name = none := Option.not_isSome_iff_eq_none.mp hkind
    refine ⟨?_, ?_⟩
    · rw [eraseDups_concat, if_neg hnew, h.names]
    · rw [Entries.set_eq_append hnone, List.map_append]
      exact h.keys.append_right [name]

lemma perform (h : r.Lists names) {call : Call κ} (hc : call.isClear = false) :
    (r.perform kindOf call).Lists (names ++ (call.entries kindOf).map Prod.fst) := by
  cases call with
  | add name kind => exact h.register name kind
  | ensure name => exact h.register name (kindOf name)
  | connect e =>
    have hends := (h.register e.source (kindOf e.source)).register e.target (kindOf e.target)
    rw [List.append_assoc] at hends
    exact ⟨hends.names, hends.keys⟩
  | clear => cases hc

/-- Every name of the list is found in the table, so that none is left out of the entries. -/
lemma map_fst_entries (h : r.Lists names) : r.entries.map Prod.fst = names.eraseDups := by
  have hfound : ∀ name ∈ r.names, ((r.kind? name).map (name, ·)).map Prod.fst = some name := by
    intro name hname
    rw [h.names, List.mem_eraseDups] at hname
    obtain ⟨kind, hkind⟩ := Option.isSome_iff_exists.mp (h.isSome_kind?_iff.mpr hname)
    rw [hkind]
    rfl
  rw [entries, List.map_filterMap, List.filterMap_congr hfound, List.filterMap_some, h.names]

lemma size_eq (h : r.Lists names) : r.size = names.toFinset.card := by
  have hset : names.eraseDups.toFinset = names.toFinset := by
    ext name
    simp [List.mem_eraseDups]
  rw [size, ← List.length_map (f := Prod.fst), h.keys.length_eq, h.names, ← hset,
    List.toFinset_card_of_nodup (nodup_eraseDups names)]

end Lists

lemma kind?_of_mem_entries {r : Registry κ} {entry : String × κ} (h : entry ∈ r.entries) :
    r.kind? entry.1 = some entry.2 := by
  obtain ⟨name, -, hentry⟩ := List.mem_filterMap.mp h
  obtain ⟨kind, hkind, rfl⟩ := Option.map_eq_some_iff.mp hentry
  exact hkind

/-- Whatever was called, the table and the list hold the names that were added since everything was
removed. -/
lemma lists_ofCalls (calls : List (Call κ)) :
    (ofCalls kindOf calls).Lists (namesSince kindOf calls) := by
  induction calls using List.reverseRecOn with
  | nil => exact ⟨rfl, .nil⟩
  | append_singleton calls call ih =>
    rw [ofCalls_concat]
    cases hc : call.isClear with
    | true =>
      obtain rfl := Call.eq_clear hc
      rw [namesSince, entriesSince, sinceClear_concat_clear]
      exact ⟨rfl, .nil⟩
    | false =>
      rw [namesSince, entriesSince, sinceClear_concat hc, List.flatMap_append,
        List.flatMap_singleton, List.map_append]
      exact ih.perform hc

/-! ## What the calls tell -/

/-- A registry holds what was added by calls since it was last cleared. -/
structure Reflects (kindOf : String → κ) (calls : List (Call κ)) (r : Registry κ) : Prop where
  /-- Each name has one entry, in the order in which the names were first added. -/
  names : r.entries.map Prod.fst = (namesSince kindOf calls).eraseDups
  /-- The entry of a name is the first one that was added for it. -/
  first : ∀ entry ∈ r.entries, (entriesSince kindOf calls).lookup entry.1 = some entry.2
  size : r.size = (namesSince kindOf calls).toFinset.card
  /-- Looking up a name finds its entry, if it was added, and nothing else. -/
  found : ∀ name kind, r.kind? name = some kind ↔ (name, kind) ∈ r.entries
  known : ∀ name, (r.kind? name).isSome = true ↔ name ∈ namesSince kindOf calls
  /-- The edges are in the order in which they were added, and none is left out. -/
  edges : r.edges = edgesSince calls
  ends : ∀ e ∈ r.edges, (r.kind? e.source).isSome = true ∧ (r.kind? e.target).isSome = true

lemma isSome_kind?_of_mem_ends {calls : List (Call κ)} {name : String}
    (h : name ∈ (ofCalls kindOf calls).edges.flatMap Edge.ends) :
    ((ofCalls kindOf calls).kind? name).isSome = true := by
  rw [edges_ofCalls] at h
  rw [kind?_ofCalls]
  exact isSome_firstKind? h

lemma reflects_ofCalls (kindOf : String → κ) (calls : List (Call κ)) :
    Reflects kindOf calls (ofCalls kindOf calls) := by
  have hlists : (ofCalls kindOf calls).Lists (namesSince kindOf calls) := lists_ofCalls calls
  refine ⟨hlists.map_fst_entries, fun entry hentry => ?_, hlists.size_eq,
    fun name kind => ⟨fun hkind => ?_, kind?_of_mem_entries⟩, fun name => hlists.isSome_kind?_iff,
    edges_ofCalls calls, fun e he => ?_⟩
  · exact (kind?_ofCalls calls entry.1).symm.trans (kind?_of_mem_entries hentry)
  · have hmem : name ∈ (ofCalls kindOf calls).names := by
      rw [hlists.names, List.mem_eraseDups]
      exact hlists.isSome_kind?_iff.mp (Option.isSome_of_mem hkind)
    exact List.mem_filterMap.mpr ⟨name, hmem, by rw [hkind]; rfl⟩
  · have hends : ∀ name ∈ e.ends, name ∈ (ofCalls kindOf calls).edges.flatMap Edge.ends :=
      fun name hname => List.mem_flatMap.mpr ⟨e, he, hname⟩
    exact ⟨isSome_kind?_of_mem_ends (hends e.source (by simp [Edge.ends])),
      isSome_kind?_of_mem_ends (hends e.target (by simp [Edge.ends]))⟩

end JavaUml.Registry

namespace JavaUml

/-! ## Drawing from a registry -/

instance : IsPreorder Document fun _ _ => True where
  refl _ := trivial
  trans _ _ _ _ _ := trivial

/-- Attaching nodes and declaring collections breaks no rule: these fail only if a node is not there
or no identifier is left. -/
lemma permits_no_violation :
    Permits (fun _ _ => True) fun e => ∀ v, e ≠ .integrity v where
  attach parent slot draft _ := by
    refine .step (fun _ _ _ _ => trivial) fun doc e he v => ?_
    unfold Document.attach at he
    split at he
    · cases he
      exact nofun
    · split at he
      · cases he
        exact nofun
      · cases he
  declareSlot id slot := by
    refine .step (fun _ _ _ _ => trivial) fun doc e he v => ?_
    unfold Document.declareSlot Document.modify at he
    split at he
    · cases he
    · cases he
      exact nofun

/-- What is called on the stores of states and of participants can be read off them, and no diagram
that is drawn from them fails because of a name that is not registered, whatever the document. -/
theorem registries_reflect_calls (stateCalls : List (Registry.Call VertexKind))
    (participantCalls : List (Registry.Call Unit)) :
    Registry.Reflects VertexKind.ofName stateCalls (.ofCalls VertexKind.ofName stateCalls) ∧
    Registry.Reflects (fun _ => ()) participantCalls (.ofCalls (fun _ => ()) participantCalls) ∧
    (∀ name doc v, ((StateMachine.draw name (.ofCalls VertexKind.ofName stateCalls)).run doc).1 ≠
      .error (.integrity v)) ∧
    ∀ names doc v, ((Interaction.draw names (.ofCalls (fun _ => ()) participantCalls)).run doc).1 ≠
      .error (.integrity v) := by
  refine ⟨Registry.reflects_ofCalls _ _, Registry.reflects_ofCalls _ _, fun name doc v he => ?_,
    fun names doc v he => ?_⟩
  · have hdraw : Within (fun _ _ => True) (fun e => ∀ v, e ≠ .integrity v)
        (StateMachine.draw name (.ofCalls VertexKind.ofName stateCalls)) :=
      StateMachine.within_draw permits_no_violation name fun vertex hv hnone =>
        absurd (Registry.isSome_kind?_of_mem_ends hv) (by simp [hnone])
    exact (hdraw doc).2 _ he v rfl
  · have hdraw : Within (fun _ _ => True) (fun e => ∀ v, e ≠ .integrity v)
        (Interaction.draw names (.ofCalls (fun _ => ()) participantCalls)) :=
      Interaction.within_draw permits_no_violation names fun lifeline hl hnone =>
        absurd (Registry.isSome_kind?_of_mem_ends hl) (by simp [hnone])
    exact (hdraw doc).2 _ he v rfl

end JavaUml
