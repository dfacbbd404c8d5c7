/-
# Isomorphic documents

Two documents are isomorphic if a map leads from the nodes of the one to those of the other, such
that a node and its counterpart differ only in the identifiers that they mention and in the order of
their children.  As the outline of a document fixes its children, it is enough to compare the
outlines, and their order does not matter (`Isomorphism.of_outline`).
-/
import JavaUml.Proofs.Document.Relabel
import Mathlib.Data.List.Perm.Basic
import Mathlib.Data.Set.Function

namespace JavaUml

/-- A node mirrors another one if it says the same under other identifiers, with its children in any
order. -/
structure Node.Mirrors (f : NodeId → NodeId) (node mirrored : Node) : Prop where
  id : node.id = f mirrored.id
  kind : node.kind = mirrored.kind
  name : node.name = mirrored.name
  slot : node.slot = mirrored.slot
  parent : node.parent = mirrored.parent.map f
  fields : node.fields = mirrored.fields.relabel f
  children : node.children.Perm (mirrored.children.map f)

/-- The children of a node by the parents of the others, if these are told apart under the other
identifiers. -/
lemma offspring_map_relabel {f : NodeId → NodeId} {nodes : List Node} {id : NodeId}
    (h : ∀ node ∈ nodes, node.parent.map f = some (f id) ↔ node.parent = some id) :
    offspring (nodes.map (Node.relabel f)) (f id) = (offspring nodes id).map f := by
  rw [offspring, offspring, List.filter_map, List.map_map, List.map_map]
  refine congrArg (List.map _) (List.filter_congr fun node hn => ?_)
  show decide (node.parent.map f = some (f id)) = decide (node.parent = some id)
  rw [decide_eq_decide]
  exact h node hn

namespace Document

/-- The identifiers of the nodes of a document. -/
def identifiers (doc : Document) : Set NodeId := {id | ∃ node ∈ doc.nodes.toList, node.id = id}

/-- A map of identifiers makes a document into another one. -/
structure Isomorphism (f : NodeId → NodeId) (doc doc' : Document) : Prop where
  bijective : Set.BijOn f doc.identifiers doc'.identifiers
  mirrored : ∀ node ∈ doc.nodes.toList, ∃ node' ∈ doc'.nodes.toList, node'.Mirrors f node

namespace Isomorphism

variable {f : NodeId → NodeId} {doc doc' : Document}

/-- Two documents are isomorphic if the outline of the one is that of the other one in some order,
with other identifiers. -/
lemma of_outline (h : doc.Sound) (h' : doc'.Sound)
    (hout : doc'.outline.Perm (doc.outline.map (Node.relabel f))) : Isomorphism f doc doc' := by
  have hids : (doc'.outline.map Node.id).Perm ((doc.outline.map Node.id).map f) := by
    have hmap := hout.map Node.id
    rwa [List.map_map, show Node.id ∘ Node.relabel f = f ∘ Node.id from rfl, ← List.map_map] at hmap
  have hmem : ∀ (d : Document) (id : NodeId), id ∈ d.identifiers ↔ id ∈ d.outline.map Node.id := by
    intro d id
    simp [identifiers, outline]
  -- as no identifier occurs twice in the second outline, the map joins none of the first one
  have hinj : Set.InjOn f doc.identifiers := by
    have hnodup : ((doc.outline.map Node.id).map f).Nodup := hids.nodup_iff.mp h'.nodup_ids
    intro id hid other hother he
    exact List.inj_on_of_nodup_map hnodup ((hmem doc id).mp hid) ((hmem doc other).mp hother) he
  refine ⟨⟨?_, hinj, ?_⟩, ?_⟩
  · intro id hid
    rw [hmem, hids.mem_iff]
    exact List.mem_map_of_mem ((hmem doc id).mp hid)
  · intro id hid
    rw [hmem, hids.mem_iff] at hid
    obtain ⟨source, hsource, rfl⟩ := List.mem_map.mp hid
    exact ⟨source, (hmem doc source).mpr hsource, rfl⟩
  · intro node hn
    have hbare : node.bare.relabel f ∈ doc'.outline :=
      hout.mem_iff.mpr (List.mem_map_of_mem (List.mem_map_of_mem hn))
    obtain ⟨node', hn', he⟩ := List.mem_map.mp hbare
    have hid : node'.id = f node.id := (congrArg Node.id he :)
    refine ⟨node', hn', hid, (congrArg Node.kind he :), (congrArg Node.name he :),
      (congrArg Node.slot he :), (congrArg Node.parent he :), (congrArg Node.fields he :), ?_⟩
    rw [h'.listed node' hn', h.listed node hn, hid]
    have hparent : ∀ child ∈ doc.outline,
        child.parent.map f = some (f node.id) ↔ child.parent = some node.id := by
      intro child hchild
      obtain ⟨kept, hkept, rfl⟩ := List.mem_map.mp hchild
      rw [Node.bare_parent]
      constructor
      · intro hp
        obtain ⟨parent, hparent, hf⟩ := Option.map_eq_some_iff.mp hp
        rw [hparent, hinj (h.exists_of_has (h.has_parent hkept hparent)) ⟨node, hn, rfl⟩ hf]
      · intro hp
        rw [hp, Option.map_some]
    rw [← offspring_map_relabel hparent]
    exact (hout.filter _).map _

end Isomorphism

end Document

end JavaUml
