/-
# Plain declarations

Several ways to write annotations mean the same.  A declaration is plain if it is written in the
simplest of them: without members that have no content, without groups and lists of targets, and
with the trigger annotations of a method before its message annotations (`Declaration.plain`).

A plain declaration has the same edges on each channel (`Declaration.onChannel_links_plain`).  Only
the order between the channels may be another, and nothing sees this order.
-/
import JavaUml.Assembly
import JavaUml.Proofs.Annotation.Blanks

namespace JavaUml

lemma RoutedEdge.onChannel_append (channel : Channel) (es more : List RoutedEdge) :
    onChannel channel (es ++ more) = onChannel channel es ++ onChannel channel more :=
  List.filterMap_append

/-- Edges that are all on one channel. -/
lemma RoutedEdge.onChannel_map (channel own : Channel) (es : List Edge) :
    onChannel channel (es.map (RoutedEdge.mk own)) = if own = channel then es else [] := by
  rw [onChannel, List.filterMap_map]
  by_cases h : own = channel
  · have hsome : (fun e : RoutedEdge => if e.channel = channel then some e.edge else none) ∘
        RoutedEdge.mk own = some := funext fun _ => if_pos h
    rw [if_pos h, hsome, List.filterMap_some]
  · rw [if_neg h]
    exact List.filterMap_eq_nil_iff.mpr fun e _ => if_neg h

/-! ## Ways to write annotations -/

namespace Annotation

/-- An annotation for each entry of a group. -/
def ungrouped : Annotation → List Annotation
  | .single channel entry => [.single channel entry]
  | .group channel entries => entries.map (.single channel)

/-- An annotation with one target for each name in a list of targets.  Without names there is
none. -/
def spread : Annotation → List Annotation
  | .single channel ⟨source, .many names⟩ =>
    names.map fun name => .single channel ⟨source, .one name⟩
  | a => [a]

/-- The trigger annotations of a list before its message annotations. -/
def triggersFirst (as : List Annotation) : List Annotation :=
  as.filter (fun a => a.channel = .trigger) ++ as.filter fun a => a.channel = .message

lemma links_ungrouped (method : String) (a : Annotation) :
    a.ungrouped.flatMap (links method) = a.links method := by
  cases a with
  | single channel entry => simp [ungrouped]
  | group channel group =>
    have hentry : ∀ entry, links method (.single channel entry) =
        (entry.links (label method)).map (⟨channel, ·⟩) := by
      intro entry
      simp [links, entries, Annotation.channel]
    rw [ungrouped, List.flatMap_map]
    simp only [hentry, ← List.map_flatMap]
    rfl

lemma links_spread (method : String) (a : Annotation) :
    a.spread.flatMap (links method) = a.links method := by
  match a with
  | .single channel ⟨source, .many names⟩ =>
    have hname : ∀ name, links method (.single channel ⟨source, .one name⟩) =
        [⟨channel, ⟨source, name, label method⟩⟩] := fun _ => rfl
    rw [spread, List.flatMap_map]
    simp only [hname]
    rw [← List.map_eq_flatMap]
    simp [links, entries, Endpoints.links, Targets.names, Annotation.channel]
  | .single channel ⟨source, .one name⟩ => simp [spread]
  | .group channel entries => simp [spread]

/-- The edges on a channel come from the annotations with this channel. -/
lemma onChannel_links (channel : Channel) (method : String) (as : List Annotation) :
    RoutedEdge.onChannel channel (as.flatMap (links method)) =
      (as.filter fun a => a.channel = channel).flatMap fun a =>
        a.entries.flatMap (Endpoints.links (label method)) := by
  induction as with
  | nil => rfl
  | cons a as ih =>
    rw [List.flatMap_cons, RoutedEdge.onChannel_append, ih, links, RoutedEdge.onChannel_map]
    by_cases h : a.channel = channel
    · simp [h]
    · simp [h]

/-- Which family comes first does not matter for the edges on a channel. -/
lemma onChannel_links_triggersFirst (channel : Channel) (method : String) (as : List Annotation) :
    RoutedEdge.onChannel channel ((triggersFirst as).flatMap (links method)) =
      RoutedEdge.onChannel channel (as.flatMap (links method)) := by
  rw [onChannel_links, onChannel_links, triggersFirst, List.filter_append, List.filter_filter,
    List.filter_filter]
  have hother : ∀ wrong, wrong ≠ channel → as.filter
      (fun a => decide (a.channel = channel) && decide (a.channel = wrong)) = [] := by
    intro wrong hne
    rw [List.filter_eq_nil_iff]
    intro a _ ha
    rw [Bool.and_eq_true, decide_eq_true_iff, decide_eq_true_iff] at ha
    exact hne (ha.2.symm.trans ha.1)
  cases channel with
  | trigger => rw [hother .message (by decide)]; simp
  | message => rw [hother .trigger (by decide)]; simp

/-! ### Blank names -/

lemma hasBlank_of_mem_ungrouped {a single : Annotation} (h : single ∈ a.ungrouped)
    (hblank : single.HasBlank) : a.HasBlank := by
  cases a with
  | single channel entry =>
    obtain rfl := List.mem_singleton.mp h
    exact hblank
  | group channel group =>
    obtain ⟨entry, hentry, rfl⟩ := List.mem_map.mp h
    obtain ⟨e, he, hb⟩ := hblank
    obtain rfl := List.mem_singleton.mp he
    exact ⟨e, hentry, hb⟩

/-- Nothing that is blank comes from an entry without blank names.  The source of an entry without
targets goes with it, be it blank or not. -/
lemma hasBlank_of_mem_spread {a single : Annotation} (h : single ∈ a.spread)
    (hblank : single.HasBlank) : a.HasBlank := by
  match a with
  | .single channel ⟨source, .many names⟩ =>
    obtain ⟨name, hname, rfl⟩ := List.mem_map.mp h
    obtain ⟨e, he, hb⟩ := hblank
    obtain rfl := List.mem_singleton.mp he
    refine ⟨⟨source, .many names⟩, List.mem_cons_self, ?_⟩
    rcases hb with hsource | ⟨target, htarget, hb⟩
    · exact .inl hsource
    · obtain rfl := List.mem_singleton.mp htarget
      exact .inr ⟨target, hname, hb⟩
  | .single channel ⟨source, .one name⟩ =>
    obtain rfl := List.mem_singleton.mp h
    exact hblank
  | .group channel entries =>
    obtain rfl := List.mem_singleton.mp h
    exact hblank

end Annotation

/-! ## Plain declarations -/

/-- A method with plain annotations. -/
def Method.plain (m : Method) : Method :=
  { m with
    annotations := Annotation.triggersFirst
      ((m.annotations.flatMap Annotation.ungrouped).flatMap Annotation.spread) }

/-- A member that has content, with plain annotations if it is a method. -/
def Member.plain? : Member → Option Member
  | .field f => some (.field f)
  | .method m => some (.method m.plain)
  | .other => none

/-- A declaration with plain annotations and without members that have no content. -/
def Declaration.plain (d : Declaration) : Declaration :=
  { d with members := d.members.filterMap Member.plain? }

/-- A plain method has the same edges on each channel. -/
lemma Method.onChannel_links_plain (channel : Channel) (m : Method) :
    RoutedEdge.onChannel channel m.plain.links = RoutedEdge.onChannel channel m.links := by
  have hfirst := Annotation.onChannel_links_triggersFirst channel m.name
    ((m.annotations.flatMap Annotation.ungrouped).flatMap Annotation.spread)
  have hspread := Annotation.links_spread m.name
  have hungrouped := Annotation.links_ungrouped m.name
  rw [links, plain, hfirst, List.flatMap_assoc, List.flatMap_assoc]
  simp only [hspread, hungrouped, links]

/-- A plain declaration has the same edges on each channel. -/
lemma Declaration.onChannel_links_plain (channel : Channel) (d : Declaration) :
    RoutedEdge.onChannel channel d.plain.links = RoutedEdge.onChannel channel d.links := by
  rw [links, links, plain]
  dsimp only
  induction d.members with
  | nil => rfl
  | cons member members ih =>
    have hmethod : ∀ m : Method, RoutedEdge.onChannel channel (Member.method m.plain).links =
        RoutedEdge.onChannel channel (Member.method m).links :=
      fun m => m.onChannel_links_plain channel
    cases member <;>
      simp only [List.filterMap_cons, Member.plain?, List.flatMap_cons, RoutedEdge.onChannel_append,
        hmethod, ih]
    rfl

lemma Method.hasBlank_of_plain {m : Method} (h : m.plain.HasBlank) : m.HasBlank := by
  obtain ⟨a, ha, hblank⟩ := h
  have hmem : a ∈ (m.annotations.flatMap Annotation.ungrouped).flatMap Annotation.spread := by
    rcases List.mem_append.mp ha with ha | ha <;> exact (List.mem_filter.mp ha).1
  obtain ⟨single, hsingle, ha⟩ := List.mem_flatMap.mp hmem
  obtain ⟨whole, hwhole, hsingle⟩ := List.mem_flatMap.mp hsingle
  have hb : single.HasBlank := Annotation.hasBlank_of_mem_spread ha hblank
  exact ⟨whole, hwhole, Annotation.hasBlank_of_mem_ungrouped hsingle hb⟩

/-- If no name of a declaration is blank, then none of its plain form is. -/
lemma Declaration.fault?_plain {d : Declaration} (h : d.fault? = none) : d.plain.fault? = none := by
  rw [fault?_eq_none_iff] at h ⊢
  rintro ⟨member, hmember, m, hm, hblank⟩
  obtain ⟨old, hold, hplain⟩ := List.mem_filterMap.mp hmember
  cases old with
  | field f =>
    obtain rfl := Option.some.inj hplain
    cases hm
  | method m' =>
    obtain rfl := Option.some.inj hplain
    obtain rfl := Option.some.inj hm
    exact h ⟨.method m', hold, m', rfl, Method.hasBlank_of_plain hblank⟩
  | other => cases hplain

/-! ## What else is in a plain declaration -/

namespace Declaration

lemma fields_plain (d : Declaration) : d.plain.fields = d.fields := by
  rw [fields, fields, plain]
  dsimp only
  induction d.members with
  | nil => rfl
  | cons member members ih =>
    cases member <;> simp only [List.filterMap_cons, Member.plain?, Member.field?, ih]

lemma methods_plain (d : Declaration) : d.plain.methods = d.methods.map Method.plain := by
  rw [methods, methods, plain]
  dsimp only
  induction d.members with
  | nil => rfl
  | cons member members ih =>
    cases member <;>
      simp only [List.filterMap_cons, Member.plain?, Member.method?, ih, List.map_cons]

end Declaration

end JavaUml
