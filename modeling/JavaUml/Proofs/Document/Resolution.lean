/-
# Laws of replacing names

A sweep changes the fields that hold a bound name, on the nodes below the one where it begins, and
nothing else (`Node.Swept`).  As it leaves identifiers and children alone, the next sweep walks
through the same nodes (`Sound.subtree_resolveSymbols`), and the laws about several sweeps follow
from laws about one node: replacing twice is replacing once, and replacing by one table and then by
another is replacing by the two put together (`NameTable.Over`).

The count of a sweep is a sum over the nodes (`Sound.count_resolveSymbols_eq_sum`), so that counts
are compared node by node as well.
-/
import JavaUml.Proofs.Document.Reachable

namespace JavaUml

/-! ## One node -/

/-- What a sweep makes of a value: inside the part that is swept, a bound name becomes a reference;
every other value stays. -/
inductive Value.Swept (table : NameTable) (inside : Prop) : Value → Value → Prop
  | replaced {name : String} {id : NodeId} : inside → table.resolve name = some id →
      Swept table inside (.symbol name) (.reference id)
  | kept {value : Value} :
      (inside → ∀ name, value = .symbol name → table.resolve name = none) →
      Swept table inside value value

/-- What a sweep makes of a node: its fields keep their keys and their order, and everything else
stays. -/
structure Node.Swept (table : NameTable) (inside : Prop) (node after : Node) : Prop where
  frame : after = { node with fields := after.fields }
  fields : List.Forall₂
    (fun field field' => field'.1 = field.1 ∧ field.2.Swept table inside field'.2)
    node.fields after.fields

/-- The number of fields in a list whose values are different in another one. -/
def FieldList.changes (fields fields' : FieldList) : ℕ :=
  (fields.zip fields').countP fun pair => pair.1.2 ≠ pair.2.2

/-- A table uses one table where that binds a name, and a second one elsewhere. -/
def NameTable.Over (first second table : NameTable) : Prop :=
  ∀ name, table.resolve name = (first.resolve name).or (second.resolve name)

/-- Two tables can be put together. -/
lemma NameTable.over_append (first second : NameTable) :
    first.Over second ⟨first.entries ++ second.entries⟩ := fun name => by
  rw [resolve, resolve, resolve, List.lookup_append]

section Values

variable (table : NameTable) (value : Value)

lemma Value.swept_resolve {inside : Prop} (h : inside) :
    value.Swept table inside (value.resolve table) := by
  cases value with
  | symbol name =>
    cases hname : table.resolve name with
    | none =>
      have hkept : (Value.symbol name).resolve table = .symbol name := by simp [resolve, hname]
      rw [hkept]
      refine .kept fun _ other he => ?_
      obtain rfl : name = other := by simpa using he
      exact hname
    | some id =>
      have hreplaced : (Value.symbol name).resolve table = .reference id := by
        simp [resolve, hname]
      rw [hreplaced]
      exact .replaced h hname
  | _ => exact .kept fun _ _ he => by cases he

lemma Value.swept_self {inside : Prop} (h : ¬inside) : value.Swept table inside value :=
  .kept fun hin => absurd hin h

lemma Value.resolve_ne_iff : value ≠ value.resolve table ↔ value.isResolvable table = true := by
  cases value with
  | symbol name =>
    cases hname : table.resolve name <;>
      simp [resolve, isResolvable, NameTable.contains, hname]
  | _ => simp [resolve, isResolvable]

variable {table value} {first second : NameTable}

lemma Value.resolve_over (h : first.Over second table) :
    (value.resolve first).resolve second = value.resolve table := by
  cases value with
  | symbol name =>
    have hname := h name
    cases hfirst : first.resolve name <;> simp_all [resolve]
  | _ => rfl

/-- A name is replaced by one of two tables, after the other, if it is by both put together. -/
lemma Value.isResolvable_over (h : first.Over second table) :
    (value.isResolvable first).toNat + ((value.resolve first).isResolvable second).toNat =
      (value.isResolvable table).toNat := by
  cases value with
  | symbol name =>
    have hname := h name
    cases hfirst : first.resolve name <;>
      simp_all [resolve, isResolvable, NameTable.contains]
  | _ => rfl

end Values

namespace Node

variable {table first second : NameTable} {node : Node}

lemma swept_resolve {inside : Prop} (h : inside) :
    node.Swept table inside (node.resolve table) := by
  refine ⟨rfl, ?_⟩
  rw [resolve, List.forall₂_map_right_iff, List.forall₂_same]
  exact fun field _ => ⟨rfl, field.2.swept_resolve table h⟩

lemma swept_self {inside : Prop} (h : ¬inside) : node.Swept table inside node := by
  refine ⟨rfl, List.forall₂_same.mpr fun field _ => ⟨rfl, field.2.swept_self table h⟩⟩

lemma changes_self (fields : FieldList) : fields.changes fields = 0 := by
  rw [FieldList.changes, List.countP_eq_zero]
  intro pair hpair
  obtain ⟨i, hi, rfl⟩ := List.getElem_of_mem hpair
  simp

/-- The fields that differ after names were replaced are those that hold a bound name. -/
lemma changes_resolve (node : Node) :
    node.fields.changes (node.resolve table).fields = node.resolvableCount table := by
  rw [resolvableCount, resolve, FieldList.changes]
  induction node.fields with
  | nil => rfl
  | cons field fields ih =>
    rw [List.map_cons, List.zip_cons_cons, List.countP_cons, List.countP_cons, ih]
    simp only [decide_eq_true_eq, field.2.resolve_ne_iff]

lemma resolve_over (h : first.Over second table) :
    (node.resolve first).resolve second = node.resolve table := by
  simp [resolve, Value.resolve_over h]

lemma resolvableCount_over (h : first.Over second table) :
    node.resolvableCount first + (node.resolve first).resolvableCount second =
      node.resolvableCount table := by
  simp only [resolvableCount, resolve]
  induction node.fields with
  | nil => rfl
  | cons field fields ih =>
    have hfield := @Value.isResolvable_over table field.2 first second h
    have hcount : ∀ b : Bool, (if b = true then 1 else 0) = b.toNat := by decide
    simp only [List.map_cons, List.countP_cons, hcount]
    omega

end Node

namespace Document

variable {doc : Document}

/-- The number of fields whose values are different in another document. -/
def changes (doc doc' : Document) : ℕ :=
  ((doc.nodes.toList.zip doc'.nodes.toList).map fun pair => pair.1.fields.changes pair.2.fields).sum

namespace Sound

/-! ## The part that is swept -/

lemma has_of_below (h : doc.Sound) {top id : NodeId} (hb : doc.Below top id) (hid : doc.Has id) :
    doc.Has top := by
  induction hb with
  | refl => exact hid
  | step hn hp _ ih => exact ih (h.has_parent hn hp)

/-- The walk from an identifier, known or not, lists the nodes below it. -/
lemma mem_subtree_iff_below (h : doc.Sound) (top : NodeId) {node : Node}
    (hn : node ∈ doc.nodes.toList) : node.id ∈ doc.subtree top ↔ doc.Below top node.id := by
  cases hg : doc.get? top with
  | some topNode =>
    obtain ⟨ht, rfl⟩ := h.get?_eq_some_iff.mp hg
    exact h.mem_subtree_iff ht
  | none =>
    rw [h.subtree_eq, preorder_of_get?_eq_none hg]
    have hnot : ¬doc.Below top node.id := fun hb =>
      h.get?_eq_none_iff.mp hg (h.has_of_below hb (h.has_of_mem hn))
    simp [hnot]

lemma ids_resolveSymbols (h : doc.Sound) (top : NodeId) (table : NameTable) :
    (doc.resolveSymbols top table).1.ids = doc.ids :=
  (h.foldl_resolveNode table (doc.subtree top) 0).2.1

lemma has_resolveSymbols_iff (h : doc.Sound) (top : NodeId) (table : NameTable) {id : NodeId} :
    (doc.resolveSymbols top table).1.Has id ↔ doc.Has id := by
  have h' := h.resolveSymbols top table
  have hlist := h.toList_resolveSymbols top table
  constructor
  · intro hid
    obtain ⟨node', hn', rfl⟩ := h'.exists_of_has hid
    rw [hlist] at hn'
    obtain ⟨node, hn, rfl⟩ := List.mem_map.mp hn'
    have hhas := h.has_of_mem hn
    split <;> exact hhas
  · intro hid
    obtain ⟨node, hn, rfl⟩ := h.exists_of_has hid
    have hmem := List.mem_map_of_mem
      (f := fun node => if node.id ∈ doc.subtree top then node.resolve table else node) hn
    rw [← hlist] at hmem
    have hhas := h'.has_of_mem hmem
    split at hhas <;> exact hhas

/-- A sweep leaves every walk as it is. -/
lemma subtree_resolveSymbols (h : doc.Sound) (top : NodeId) (table : NameTable) (id : NodeId) :
    (doc.resolveSymbols top table).1.subtree id = doc.subtree id := by
  have h' := h.resolveSymbols top table
  by_cases hid : doc.Has id
  · have hwalk := h.subtree_eq_map h' (f := fun id => id) (P := fun _ => True)
      (fun node hn _ => ?_) id hid trivial
    · simpa using hwalk.1
    · refine ⟨if node.id ∈ doc.subtree top then node.resolve table else node, ?_, ?_, ?_, ?_⟩
      · rw [h.toList_resolveSymbols]
        exact List.mem_map_of_mem hn
      · split <;> rfl
      · split <;> simp [Node.resolve]
      · simp
  · have hid' : ¬(doc.resolveSymbols top table).1.Has id := by rwa [h.has_resolveSymbols_iff]
    rw [h'.subtree_eq, h.subtree_eq, preorder_of_get?_eq_none (h'.get?_eq_none_iff.mpr hid'),
      preorder_of_get?_eq_none (h.get?_eq_none_iff.mpr hid)]

/-- The sweep makes of each node what it should. -/
lemma forall₂_swept (h : doc.Sound) (top : NodeId) (table : NameTable) :
    List.Forall₂ (fun node after => node.Swept table (doc.Below top node.id) after)
      doc.nodes.toList (doc.resolveSymbols top table).1.nodes.toList := by
  rw [h.toList_resolveSymbols, List.forall₂_map_right_iff, List.forall₂_same]
  intro node hn
  rw [← h.mem_subtree_iff_below top hn]
  split
  · next hmem => exact Node.swept_resolve hmem
  · next hmem => exact Node.swept_self hmem

/-! ## Counts -/

/-- A sweep counts the bound names on the nodes that it visits. -/
lemma count_resolveSymbols_eq_sum (h : doc.Sound) (top : NodeId) (table : NameTable) :
    (doc.resolveSymbols top table).2 = (doc.nodes.toList.map fun node =>
      if node.id ∈ doc.subtree top then node.resolvableCount table else 0).sum := by
  -- the sweep counts what it takes away, and leaves the names on the other nodes
  have htotal := @foldl_resolveNode_add_resolvableCount doc table (doc.subtree top) 0
  rw [← Document.resolveSymbols, resolvableCount, resolvableCount, h.toList_resolveSymbols,
    List.map_map] at htotal
  have hsplit : doc.nodes.toList.map (Node.resolvableCount table) =
      doc.nodes.toList.map fun node =>
        (if node.id ∈ doc.subtree top then node.resolvableCount table else 0) +
        (if node.id ∈ doc.subtree top then node.resolve table else node).resolvableCount table := by
    refine List.map_congr_left fun node _ => ?_
    split
    · rw [Node.resolvableCount_resolve, Nat.add_zero]
    · rw [Nat.zero_add]
  rw [hsplit, List.sum_map_add] at htotal
  simp only [Function.comp_def] at htotal
  omega

/-- The count of a sweep is the number of fields that it has changed. -/
lemma count_resolveSymbols_eq_changes (h : doc.Sound) (top : NodeId) (table : NameTable) :
    (doc.resolveSymbols top table).2 = doc.changes (doc.resolveSymbols top table).1 := by
  rw [h.count_resolveSymbols_eq_sum, changes, h.toList_resolveSymbols,
    ← List.map_prod_left_eq_zip, List.map_map]
  refine congrArg List.sum (List.map_congr_left fun node _ => ?_)
  rw [Function.comp_apply]
  split
  · exact node.changes_resolve.symm
  · exact (Node.changes_self node.fields).symm

/-! ## Several sweeps -/

section Twice

variable (h : doc.Sound) (a b : NodeId) (first second : NameTable)

include h

/-- A second sweep replaces names in what the first one has left. -/
lemma toList_resolveSymbols_twice :
    ((doc.resolveSymbols a first).1.resolveSymbols b second).1.nodes.toList =
      doc.nodes.toList.map fun node =>
        if node.id ∈ doc.subtree b then
          (if node.id ∈ doc.subtree a then node.resolve first else node).resolve second
        else if node.id ∈ doc.subtree a then node.resolve first else node := by
  rw [(h.resolveSymbols a first).toList_resolveSymbols, h.toList_resolveSymbols,
    h.subtree_resolveSymbols, List.map_map]
  refine List.map_congr_left fun node _ => ?_
  have hid : (if node.id ∈ doc.subtree a then node.resolve first else node).id = node.id := by
    split <;> rfl
  rw [Function.comp_apply, hid]

lemma count_resolveSymbols_twice :
    ((doc.resolveSymbols a first).1.resolveSymbols b second).2 =
      (doc.nodes.toList.map fun node =>
        if node.id ∈ doc.subtree b then
          (if node.id ∈ doc.subtree a then node.resolve first else node).resolvableCount second
        else 0).sum := by
  rw [(h.resolveSymbols a first).count_resolveSymbols_eq_sum, h.toList_resolveSymbols,
    h.subtree_resolveSymbols, List.map_map]
  refine congrArg List.sum (List.map_congr_left fun node _ => ?_)
  have hid : (if node.id ∈ doc.subtree a then node.resolve first else node).id = node.id := by
    split <;> rfl
  rw [Function.comp_apply, hid]

lemma ids_resolveSymbols_twice :
    ((doc.resolveSymbols a first).1.resolveSymbols b second).1.ids = doc.ids :=
  ((h.resolveSymbols a first).ids_resolveSymbols b second).trans (h.ids_resolveSymbols a first)

end Twice

/-- A second sweep by the same table finds nothing to replace. -/
lemma resolveSymbols_again (h : doc.Sound) (top : NodeId) (table : NameTable) :
    (doc.resolveSymbols top table).1.resolveSymbols top table =
      ((doc.resolveSymbols top table).1, 0) := by
  refine Prod.ext (eq_of_nodes ?_ (Array.toList_inj.mp ?_)) ?_
  · exact (h.resolveSymbols top table).ids_resolveSymbols top table
  · rw [h.toList_resolveSymbols_twice, h.toList_resolveSymbols]
    refine List.map_congr_left fun node _ => ?_
    split
    · exact node.resolve_resolve table
    · rfl
  · rw [h.count_resolveSymbols_twice]
    refine List.sum_eq_zero fun count hcount => ?_
    obtain ⟨node, -, rfl⟩ := List.mem_map.mp hcount
    split
    · exact node.resolvableCount_resolve table
    · rfl

/-- The order of two sweeps by the same table does not matter. -/
lemma resolveSymbols_comm (h : doc.Sound) (a b : NodeId) (table : NameTable) :
    ((doc.resolveSymbols a table).1.resolveSymbols b table).1 =
      ((doc.resolveSymbols b table).1.resolveSymbols a table).1 := by
  refine eq_of_nodes ?_ (Array.toList_inj.mp ?_)
  · rw [h.ids_resolveSymbols_twice, h.ids_resolveSymbols_twice]
  · rw [h.toList_resolveSymbols_twice, h.toList_resolveSymbols_twice]
    refine List.map_congr_left fun node _ => ?_
    by_cases ha : node.id ∈ doc.subtree a <;> by_cases hb : node.id ∈ doc.subtree b <;>
      simp only [ha, hb, if_true, if_false]

/-- Two sweeps by the same table replace the same number of names in either order. -/
lemma count_resolveSymbols_comm (h : doc.Sound) (a b : NodeId) (table : NameTable) :
    (doc.resolveSymbols a table).2 + ((doc.resolveSymbols a table).1.resolveSymbols b table).2 =
      (doc.resolveSymbols b table).2 +
        ((doc.resolveSymbols b table).1.resolveSymbols a table).2 := by
  rw [h.count_resolveSymbols_twice, h.count_resolveSymbols_twice, h.count_resolveSymbols_eq_sum,
    h.count_resolveSymbols_eq_sum, ← List.sum_map_add, ← List.sum_map_add]
  refine congrArg List.sum (List.map_congr_left fun node _ => ?_)
  -- a node in both parts is counted by the first of the two sweeps
  have hnone := node.resolvableCount_resolve table
  by_cases ha : node.id ∈ doc.subtree a <;> by_cases hb : node.id ∈ doc.subtree b <;>
    simp only [ha, hb, if_true, if_false, hnone, Nat.add_zero, Nat.zero_add]

section Over

variable {first second table : NameTable} (h : doc.Sound) (hover : first.Over second table)
  (top : NodeId)

include h hover

/-- Sweeping by one table and then by another is sweeping by both put together. -/
lemma resolveSymbols_over :
    ((doc.resolveSymbols top first).1.resolveSymbols top second).1 =
      (doc.resolveSymbols top table).1 := by
  refine eq_of_nodes ?_ (Array.toList_inj.mp ?_)
  · rw [h.ids_resolveSymbols_twice, h.ids_resolveSymbols]
  · rw [h.toList_resolveSymbols_twice, h.toList_resolveSymbols]
    refine List.map_congr_left fun node _ => ?_
    split
    · exact Node.resolve_over hover
    · rfl

lemma count_resolveSymbols_over :
    (doc.resolveSymbols top first).2 +
        ((doc.resolveSymbols top first).1.resolveSymbols top second).2 =
      (doc.resolveSymbols top table).2 := by
  rw [h.count_resolveSymbols_twice, h.count_resolveSymbols_eq_sum, h.count_resolveSymbols_eq_sum,
    ← List.sum_map_add]
  refine congrArg List.sum (List.map_congr_left fun node _ => ?_)
  split
  · exact Node.resolvableCount_over hover
  · rfl

end Over

end Sound

/-- Of every document that calls lead to: a sweep from any identifier by any table changes the
fields that hold a bound name on the nodes below, each to a reference to what the name is bound to,
and nothing else, and it counts the fields that it changes.  The next sweep by the same table
changes nothing and counts none; sweeps from two identifiers by the same table can be exchanged; and
a sweep by one table and then by another is one sweep by a table that uses the first where that
binds a name and the second elsewhere, which there always is, and the counts add up. -/
theorem Reachable.resolveSymbols_laws (h : doc.Reachable) :
    (∀ top table,
      (doc.resolveSymbols top table).1.ids = doc.ids ∧
      List.Forall₂ (fun node after => node.Swept table (doc.Below top node.id) after)
        doc.nodes.toList (doc.resolveSymbols top table).1.nodes.toList ∧
      (doc.resolveSymbols top table).2 = doc.changes (doc.resolveSymbols top table).1 ∧
      (doc.resolveSymbols top table).1.resolveSymbols top table =
        ((doc.resolveSymbols top table).1, 0)) ∧
    (∀ a b table,
      ((doc.resolveSymbols a table).1.resolveSymbols b table).1 =
        ((doc.resolveSymbols b table).1.resolveSymbols a table).1 ∧
      (doc.resolveSymbols a table).2 + ((doc.resolveSymbols a table).1.resolveSymbols b table).2 =
        (doc.resolveSymbols b table).2 +
          ((doc.resolveSymbols b table).1.resolveSymbols a table).2) ∧
    ∀ first second : NameTable, (∃ table, first.Over second table) ∧
      ∀ top table, first.Over second table →
        ((doc.resolveSymbols top first).1.resolveSymbols top second).1 =
          (doc.resolveSymbols top table).1 ∧
        (doc.resolveSymbols top first).2 +
            ((doc.resolveSymbols top first).1.resolveSymbols top second).2 =
          (doc.resolveSymbols top table).2 := by
  have hs := h.sound
  refine ⟨fun top table => ⟨hs.ids_resolveSymbols top table, hs.forall₂_swept top table,
    hs.count_resolveSymbols_eq_changes top table, hs.resolveSymbols_again top table⟩, ?_, ?_⟩
  · exact fun a b table =>
      ⟨hs.resolveSymbols_comm a b table, hs.count_resolveSymbols_comm a b table⟩
  · exact fun first second => ⟨⟨_, first.over_append second⟩, fun top table hover =>
      ⟨hs.resolveSymbols_over hover top, hs.count_resolveSymbols_over hover top⟩⟩

/-- A class in a class, with two names in its fields of which one is bound by both tables: the first
table wins, the text that looks like a name stays, and nothing is left for a second sweep. -/
theorem resolveSymbols_laws_of_nested_classes :
    ∃ (doc : Document) (first second table : NameTable), doc.Reachable ∧
      first.Over second table ∧
      ((doc.resolveSymbols ⟨11⟩ first).1.resolveSymbols ⟨11⟩ second).1 =
        (doc.resolveSymbols ⟨11⟩ table).1 ∧
      ((doc.resolveSymbols ⟨11⟩ table).1.get? ⟨12⟩).map Node.fields =
        some [("type", .reference ⟨11⟩), ("raw", .text "A"), ("of", .reference ⟨12⟩)] ∧
      (doc.resolveSymbols ⟨11⟩ first).2 = 1 ∧ (doc.resolveSymbols ⟨11⟩ table).2 = 2 ∧
      doc.changes (doc.resolveSymbols ⟨11⟩ table).1 = 2 ∧
      ((doc.resolveSymbols ⟨11⟩ table).1.resolveSymbols ⟨11⟩ table).2 = 0 := by
  let first : NameTable := ⟨[("A", ⟨11⟩)]⟩
  let second : NameTable := ⟨[("B", ⟨12⟩), ("A", ⟨12⟩)]⟩
  let table : NameTable := ⟨[("A", ⟨11⟩), ("B", ⟨12⟩)]⟩
  have h₀ : Reachable _ := .new (show Document.new (.new 10) .project "p" = .ok _ from rfl)
  have h₁ := h₀.call (.addChild ⟨10⟩ .ownedElements .classNode (some "A"))
  have h₂ := h₁.call (.addChild ⟨11⟩ .ownedElements .classNode (some "B"))
  have h₃ := h₂.call (.setField ⟨12⟩ "type" (.symbol "A"))
  have h₄ := h₃.call (.setField ⟨12⟩ "raw" (.text "A"))
  have h₅ := h₄.call (.setField ⟨12⟩ "of" (.symbol "B"))
  have hover : first.Over second table := by
    intro name
    by_cases hA : name = "A"
    · subst hA
      rfl
    · simp [first, second, table, NameTable.resolve, List.lookup_cons, beq_false_of_ne hA]
  obtain ⟨hsweep, -, htwice⟩ := h₅.resolveSymbols_laws
  obtain ⟨-, -, hcount, hagain⟩ := hsweep ⟨11⟩ table
  exact ⟨_, first, second, table, h₅, hover, ((htwice first second).2 ⟨11⟩ table hover).1, rfl, rfl,
    rfl, hcount.symm, congrArg Prod.snd hagain⟩

end Document

end JavaUml
