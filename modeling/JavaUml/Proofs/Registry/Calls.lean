/-
# Registries that calls lead to

A registry is filled by calls: a name is added with a kind, a name is added with the kind that is
told by it, an edge is added, or everything is removed.  What a registry holds in the end can be
read off the list of calls (`edges_ofCalls`, `kind?_ofCalls`): the edges that were added since it
was last cleared, and for each name the kind of the first entry that was made for it since then.
-/
import JavaUml.Proofs.Drawing.Edges
import Mathlib.Data.List.Induction

namespace JavaUml.Registry

variable {κ : Type} (kindOf : String → κ)

/-- A call of an operation that changes a registry. -/
inductive Call (κ : Type)
  | add (name : String) (kind : κ)
  | ensure (name : String)
  | connect (e : Edge)
  | clear
deriving DecidableEq, Repr

/-- The registry after a call. -/
def perform (r : Registry κ) : Call κ → Registry κ
  | .add name kind => r.register name kind
  | .ensure name => r.register name (kindOf name)
  | .connect e => r.connect kindOf e
  | .clear => .empty

/-- The registry that calls lead to. -/
def ofCalls (calls : List (Call κ)) : Registry κ := calls.foldl (perform kindOf) .empty

namespace Call

/-- Whether a call removes everything. -/
def isClear : Call κ → Bool
  | clear => true
  | _ => false

lemma eq_clear {call : Call κ} (h : call.isClear = true) : call = clear := by
  cases call with
  | clear => rfl
  | _ => cases h

/-- The edge that a call adds. -/
def edge? : Call κ → Option Edge
  | connect e => some e
  | _ => none

/-- The names that a call mentions, with the kinds that it gives them if they are new. -/
def entries : Call κ → List (String × κ)
  | add name kind => [(name, kind)]
  | ensure name => [(name, kindOf name)]
  | connect e => [(e.source, kindOf e.source), (e.target, kindOf e.target)]
  | clear => []

end Call

/-! ## What was called since everything was removed -/

/-- The calls since the last one that removes everything. -/
def sinceClear (calls : List (Call κ)) : List (Call κ) :=
  (calls.reverse.takeWhile fun call => !call.isClear).reverse

/-- The edges that were added since then, in order. -/
def edgesSince (calls : List (Call κ)) : List Edge := (sinceClear calls).filterMap Call.edge?

/-- The kind of the first entry that was made for a name since then. -/
def firstKind? (calls : List (Call κ)) (name : String) : Option κ :=
  ((sinceClear calls).flatMap (Call.entries kindOf)).lookup name

lemma sinceClear_concat_clear (calls : List (Call κ)) : sinceClear (calls ++ [.clear]) = [] := by
  simp [sinceClear, Call.isClear]

lemma sinceClear_concat {call : Call κ} (h : call.isClear = false) (calls : List (Call κ)) :
    sinceClear (calls ++ [call]) = sinceClear calls ++ [call] := by
  simp [sinceClear, h]

variable {kindOf}

/-! ## What one call does -/

lemma edges_register (r : Registry κ) (name : String) (kind : κ) :
    (r.register name kind).edges = r.edges := by
  unfold register
  split <;> rfl

lemma edges_perform {call : Call κ} (h : call.isClear = false) (r : Registry κ) :
    (r.perform kindOf call).edges = r.edges ++ call.edge?.toList := by
  cases call with
  | add name kind => simp [perform, Call.edge?, edges_register]
  | ensure name => simp [perform, Call.edge?, edges_register]
  | connect e => simp [perform, Call.edge?, connect, edges_register]
  | clear => cases h

/-- A call gives a kind to the names that it mentions, unless they have one. -/
lemma kind?_perform {call : Call κ} (h : call.isClear = false) (r : Registry κ) (name : String) :
    (r.perform kindOf call).kind? name = (r.kind? name).or ((call.entries kindOf).lookup name) := by
  have hregister (r : Registry κ) (other : String) (kind : κ) :
      (r.register other kind).kind? name = (r.kind? name).or ([(other, kind)].lookup name) := by
    rw [kind?_register, List.lookup_cons, List.lookup_nil]
    by_cases hn : name = other
    · simp [hn]
    · simp [hn, beq_false_of_ne hn]
  cases call with
  | add other kind => exact hregister r other kind
  | ensure other => exact hregister r other _
  | connect e =>
    have hconnect : (r.perform kindOf (.connect e)).kind? name =
        ((r.register e.source (kindOf e.source)).register e.target (kindOf e.target)).kind? name :=
      rfl
    rw [hconnect, hregister, hregister, Option.or_assoc, ← List.lookup_append]
    rfl
  | clear => cases h

/-! ## What all calls do -/

lemma ofCalls_concat (calls : List (Call κ)) (call : Call κ) :
    ofCalls kindOf (calls ++ [call]) = (ofCalls kindOf calls).perform kindOf call := by
  rw [ofCalls, List.foldl_concat]
  rfl

/-- A registry has the edges that were added since it was last cleared. -/
lemma edges_ofCalls (calls : List (Call κ)) : (ofCalls kindOf calls).edges = edgesSince calls := by
  induction calls using List.reverseRecOn with
  | nil => rfl
  | append_singleton calls call ih =>
    rw [ofCalls_concat]
    cases hc : call.isClear with
    | true =>
      obtain rfl := Call.eq_clear hc
      rw [edgesSince, sinceClear_concat_clear]
      rfl
    | false =>
      rw [edges_perform hc, ih, edgesSince, edgesSince, sinceClear_concat hc, List.filterMap_append]
      cases call <;> rfl

/-- A name has the kind of the first entry that was made for it since the registry was last
cleared. -/
lemma kind?_ofCalls (calls : List (Call κ)) (name : String) :
    (ofCalls kindOf calls).kind? name = firstKind? kindOf calls name := by
  induction calls using List.reverseRecOn with
  | nil => rfl
  | append_singleton calls call ih =>
    rw [ofCalls_concat]
    cases hc : call.isClear with
    | true =>
      obtain rfl := Call.eq_clear hc
      rw [firstKind?, sinceClear_concat_clear]
      rfl
    | false =>
      rw [kind?_perform hc, ih, firstKind?, firstKind?, sinceClear_concat hc, List.flatMap_append,
        List.lookup_append, List.flatMap_singleton]

/-- Every name at an end of an edge has a kind. -/
lemma isSome_firstKind? {calls : List (Call κ)} {name : String}
    (h : name ∈ (edgesSince calls).flatMap Edge.ends) :
    (firstKind? kindOf calls name).isSome = true := by
  obtain ⟨e, he, hname⟩ := List.mem_flatMap.mp h
  obtain ⟨call, hcall, hedge⟩ := List.mem_filterMap.mp he
  obtain rfl : call = .connect e := by
    cases call <;> simp_all [Call.edge?]
  rw [firstKind?, List.lookup_isSome_iff]
  refine ⟨(name, kindOf name), List.mem_flatMap.mpr ⟨_, hcall, ?_⟩, by simp⟩
  rcases List.mem_pair.mp hname with rfl | rfl <;> simp [Call.entries]

/-- A name that no call has added with a kind has the kind that is told by it. -/
lemma firstKind?_of_not_added {calls : List (Call κ)} {name : String}
    (h : ∀ kind, .add name kind ∉ sinceClear calls) {kind : κ}
    (hkind : firstKind? kindOf calls name = some kind) : kind = kindOf name := by
  obtain ⟨before, after, hsplit, -⟩ := List.lookup_eq_some_iff.mp hkind
  have hmem : (name, kind) ∈ (sinceClear calls).flatMap (Call.entries kindOf) := by
    rw [hsplit]
    simp
  obtain ⟨call, hcall, hentry⟩ := List.mem_flatMap.mp hmem
  cases call with
  | add other k =>
    obtain ⟨rfl, rfl⟩ := Prod.mk.inj (List.mem_singleton.mp hentry)
    exact absurd hcall (h kind)
  | ensure other =>
    obtain ⟨rfl, rfl⟩ := Prod.mk.inj (List.mem_singleton.mp hentry)
    rfl
  | connect e =>
    rcases List.mem_pair.mp hentry with he | he <;> obtain ⟨rfl, rfl⟩ := Prod.mk.inj he <;> rfl
  | clear => cases hentry

end JavaUml.Registry
