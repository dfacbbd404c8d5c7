/-
# Items and their numbers

A drawing makes its nodes item by item, and the nodes of an item begin with a number.  If the items
of two drawings are the same in different orders, then a map of identifiers leads from the nodes of
each item to its nodes in the other drawing (`exists_carries`).  The map is made from the
identifiers alone, before it is asked what they stand for.
-/
import JavaUml.Proofs.Document.Relabel
import JavaUml.Proofs.Drawing.Makes
import JavaUml.Proofs.Loops
import Mathlib.Data.List.Perm.Basic
import Mathlib.Logic.Function.Basic

namespace JavaUml

variable {ι : Type}

/-! ## Numbers -/

/-- The items of a list with the numbers at which their nodes begin. -/
def numbers (g : ℕ → ι → List Node) : ℕ → List ι → List (ℕ × ι)
  | _, [] => []
  | n, x :: xs => (n, x) :: numbers g (n + (g n x).length) xs

lemma map_snd_numbers (g : ℕ → ι → List Node) (n : ℕ) (xs : List ι) :
    (numbers g n xs).map Prod.snd = xs := by
  induction xs generalizing n with
  | nil => rfl
  | cons x xs ih => rw [numbers, List.map_cons, ih]

lemma map_snd_map_numbers {κ : Type} (c : ι → κ) (g : ℕ → ι → List Node) (n : ℕ) (xs : List ι) :
    ((numbers g n xs).map (Prod.map id c)).map Prod.snd = xs.map c := by
  conv_rhs => rw [← map_snd_numbers g n xs]
  rw [List.map_map, List.map_map]
  rfl

lemma chain_eq_flatMap (g : ℕ → ι → List Node) (n : ℕ) (xs : List ι) :
    chain g n xs = (numbers g n xs).flatMap fun item => g item.1 item.2 := by
  induction xs generalizing n with
  | nil => rfl
  | cons x xs ih => rw [chain, numbers, List.flatMap_cons, ih]

/-! ## Lists item by item -/

lemma flatMap_eq_map_of_forall₂ {κ α β : Type} {g : ι → List α} {g' : κ → List β} {h : α → β}
    {xs : List ι} {ys : List κ} (hxs : List.Forall₂ (fun x y => g' y = (g x).map h) xs ys) :
    ys.flatMap g' = (xs.flatMap g).map h := by
  induction hxs with
  | nil => rfl
  | cons hxy _ ih => rw [List.flatMap_cons, List.flatMap_cons, List.map_append, hxy, ih]

/-! ## Maps of identifiers -/

/-- A map leads from the identifiers of some nodes to those of others in order. -/
def Carries (f : NodeId → NodeId) (nodes nodes' : List Node) : Prop :=
  nodes'.map Node.id = nodes.map fun node => f node.id

namespace Carries

variable {f : NodeId → NodeId} {nodes nodes' more more' : List Node} {node node' : Node}

lemma cons_iff : Carries f (node :: nodes) (node' :: nodes') ↔
    node'.id = f node.id ∧ Carries f nodes nodes' := List.cons_eq_cons

lemma append_iff (h : nodes.length = nodes'.length) :
    Carries f (nodes ++ more) (nodes' ++ more') ↔
      Carries f nodes nodes' ∧ Carries f more more' := by
  have hlength : (nodes'.map Node.id).length = (nodes.map fun node => f node.id).length := by
    rw [List.length_map, List.length_map, h]
  rw [Carries, List.map_append, List.map_append]
  constructor
  · intro he
    exact List.append_inj he hlength
  · rintro ⟨hfirst, hsecond⟩
    rw [hfirst, hsecond]

/-- What is made for many items is carried item by item. -/
lemma forall₂_of_flatMap {κ : Type} {R : ι → κ → Prop} {g : ι → List Node} {g' : κ → List Node}
    {xs : List ι} {ys : List κ} (hxs : List.Forall₂ R xs ys)
    (hl : ∀ x y, R x y → (g x).length = (g' y).length)
    (h : Carries f (xs.flatMap g) (ys.flatMap g')) :
    List.Forall₂ (fun x y => R x y ∧ Carries f (g x) (g' y)) xs ys := by
  induction hxs with
  | nil => exact .nil
  | cons hxy _ ih =>
    rw [List.flatMap_cons, List.flatMap_cons, append_iff (hl _ _ hxy)] at h
    exact .cons ⟨hxy, h.1⟩ (ih h.2)

end Carries

/-- If the nodes of every item that are carried are the same nodes under other identifiers, then so
are the nodes of a list of items. -/
lemma Carries.chain_eq {f : NodeId → NodeId} {g g' : ℕ → ι → List Node} {n n' : ℕ} {xs : List ι}
    (h : Carries f (chain g n xs) (chain g' n' xs))
    (hl : ∀ x n n', (g n x).length = (g' n' x).length)
    (hg : ∀ x n n', Carries f (g n x) (g' n' x) → g' n' x = (g n x).map (Node.relabel f)) :
    chain g' n' xs = (chain g n xs).map (Node.relabel f) := by
  induction xs generalizing n n' with
  | nil => rfl
  | cons x xs ih =>
    rw [chain, chain, append_iff (hl x n n')] at h
    rw [chain, chain, List.map_append, ← hg x n n' h.1, ih h.2]

/-- Different identifiers can be mapped to any others. -/
lemma exists_map_eq {ids ids' : List NodeId} (hn : ids.Nodup) (hl : ids.length = ids'.length) :
    ∃ f : NodeId → NodeId, ids' = ids.map f := by
  induction ids generalizing ids' with
  | nil => exact ⟨id, List.eq_nil_of_length_eq_zero hl.symm⟩
  | cons i ids ih =>
    cases ids' with
    | nil => cases hl
    | cons i' ids' =>
      rw [List.nodup_cons] at hn
      obtain ⟨f, rfl⟩ := ih hn.2 (Nat.succ.inj hl)
      refine ⟨Function.update f i i', ?_⟩
      -- the first identifier does not come again, so that changing its image changes no other one
      have hrest : ids.map (Function.update f i i') = ids.map f := by
        refine List.map_congr_left fun j hj => Function.update_of_ne ?_ i' f
        rintro rfl
        exact hn.1 hj
      rw [List.map_cons, Function.update_self, hrest]

/-- If two drawings have the same items, then a map carries the nodes of each item in the one to its
nodes in the other. -/
lemma exists_carries (g g' : ℕ → ι → List Node) {items items' : List (ℕ × ι)}
    (hp : (items.map Prod.snd).Perm (items'.map Prod.snd))
    (hl : ∀ x n n', (g n x).length = (g' n' x).length)
    (hn : ((items.flatMap fun item => g item.1 item.2).map Node.id).Nodup) :
    ∃ (f : NodeId → NodeId) (twins : List (ℕ × ι)), twins.Perm items' ∧
      List.Forall₂ (fun item twin => item.2 = twin.2 ∧
        Carries f (g item.1 item.2) (g' twin.1 twin.2)) items twins := by
  have hown : List.Forall₂ (fun x item => x = item.2) (items'.map Prod.snd) items' := by
    rw [List.forall₂_map_left_iff, List.forall₂_same]
    intro item _
    rfl
  obtain ⟨twins, hitems, htwins⟩ := List.perm_comp_forall₂ hp hown
  rw [List.forall₂_map_left_iff] at hitems
  have hsizes : items.map (fun item => (g item.1 item.2).length) =
      twins.map fun twin => (g' twin.1 twin.2).length := by
    rw [← List.forall₂_eq_eq_eq, List.forall₂_map_left_iff, List.forall₂_map_right_iff]
    exact hitems.imp fun item twin he => by rw [he, hl]
  have hlength : ((items.flatMap fun item => g item.1 item.2).map Node.id).length =
      ((twins.flatMap fun twin => g' twin.1 twin.2).map Node.id).length := by
    rw [List.length_map, List.length_map, List.length_flatMap, List.length_flatMap, hsizes]
  obtain ⟨f, hf⟩ := exists_map_eq hn hlength
  rw [List.map_map] at hf
  refine ⟨f, twins, htwins, Carries.forall₂_of_flatMap hitems ?_ hf⟩
  intro item twin he
  rw [he, hl]

end JavaUml
