/-
# Declarations without a channel

The annotations of a channel can be left out of declarations (`Declaration.without`).  Then there
are no edges on this channel, and those on the other channel are the same
(`Declaration.onChannel_links_without`).  Nothing else changes.
-/
import JavaUml.Assembly
import JavaUml.Proofs.Annotation.Plain
import Mathlib.Data.List.Basic

namespace JavaUml

/-- A method without its annotations of a channel. -/
def Method.without (channel : Channel) (m : Method) : Method :=
  { m with annotations := m.annotations.filter fun a => a.channel ≠ channel }

/-- A member without its annotations of a channel. -/
def Member.without (channel : Channel) : Member → Member
  | .method m => .method (m.without channel)
  | member => member

/-- A declaration without the annotations of a channel. -/
def Declaration.without (channel : Channel) (d : Declaration) : Declaration :=
  { d with members := d.members.map (Member.without channel) }

variable (channel other : Channel)

/-! ## Edges -/

lemma RoutedEdge.onChannel_flatMap {ι : Type} (f : ι → List RoutedEdge) (xs : List ι) :
    onChannel channel (xs.flatMap f) = xs.flatMap fun x => onChannel channel (f x) :=
  List.filterMap_flatMap

/-- Without a channel there are no edges on it, and the same edges on the other one. -/
lemma Method.onChannel_links_without (m : Method) :
    RoutedEdge.onChannel other (m.without channel).links =
      if other = channel then [] else RoutedEdge.onChannel other m.links := by
  rw [links, links, Annotation.onChannel_links, Annotation.onChannel_links, without,
    List.filter_filter]
  split
  · next heq =>
    subst heq
    have hnone : m.annotations.filter
        (fun a => decide (a.channel = other) && decide (a.channel ≠ other)) = [] := by
      rw [List.filter_eq_nil_iff]
      simp +contextual
    rw [hnone]
    rfl
  · next hne =>
    congr 1
    refine List.filter_congr fun a _ => ?_
    by_cases ha : a.channel = other
    · simp [ha, hne]
    · simp [ha]

/-- Without a channel there are no edges on it, and the same edges on the other one. -/
lemma Declaration.onChannel_links_without (d : Declaration) :
    RoutedEdge.onChannel other (d.without channel).links =
      if other = channel then [] else RoutedEdge.onChannel other d.links := by
  have hmember : ∀ member : Member, RoutedEdge.onChannel other (member.without channel).links =
      if other = channel then [] else RoutedEdge.onChannel other member.links := by
    intro member
    cases member with
    | method m => exact m.onChannel_links_without channel other
    | field f => exact (ite_self []).symm
    | other => exact (ite_self []).symm
  rw [links, links, without, RoutedEdge.onChannel_flatMap, RoutedEdge.onChannel_flatMap,
    List.flatMap_map]
  simp only [hmember]
  split
  · exact List.flatMap_eq_nil_iff.mpr fun _ _ => rfl
  · rfl

/-! ## What remains -/

variable {channel}

lemma Method.hasBlank_of_without {m : Method} (h : (m.without channel).HasBlank) : m.HasBlank := by
  obtain ⟨a, ha, hblank⟩ := h
  exact ⟨a, (List.mem_filter.mp ha).1, hblank⟩

/-- If no name of a declaration is blank, then none is without a channel. -/
lemma Declaration.fault?_without {d : Declaration} (h : d.fault? = none) :
    (d.without channel).fault? = none := by
  rw [fault?_eq_none_iff] at h ⊢
  rintro ⟨member, hmember, m, hm, hblank⟩
  obtain ⟨old, hold, rfl⟩ := List.mem_map.mp hmember
  cases old with
  | method m' =>
    obtain rfl := Option.some.inj hm
    exact h ⟨.method m', hold, m', rfl, Method.hasBlank_of_without hblank⟩
  | field f => cases hm
  | other => cases hm

lemma Declaration.fields_without (d : Declaration) : (d.without channel).fields = d.fields := by
  rw [fields, fields, without, List.filterMap_map]
  refine List.filterMap_congr fun member _ => ?_
  cases member <;> rfl

lemma Declaration.methods_without (d : Declaration) :
    (d.without channel).methods = d.methods.map (Method.without channel) := by
  rw [methods, methods, without, List.filterMap_map, List.map_filterMap]
  refine List.filterMap_congr fun member _ => ?_
  cases member <;> rfl

end JavaUml
