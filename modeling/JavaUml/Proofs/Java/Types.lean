/-
# Types as a source writes them

The text of a type in a source may hold white space at the ends of its tokens, and is collapsed
before it is parsed.  What comes of it depends on the tokens alone, except that a text with white
space beside a point or in front of type arguments is not parsed at all, and becomes a name as it is
(`typeOfText_spelling`).
-/
import JavaUml.Java.Scanner
import JavaUml.Proofs.TypeRef.Spelling
import JavaUml.Proofs.TypeRef.Text

namespace JavaUml.Java

open TypeRef JavaUml.Text

section Spellings

variable {s s' accepted : String} {t u : TypeRef}

lemma parse?_eq_some_iff : TypeRef.parse? s = some t ↔ IsType s.toList t := by
  rw [← parse_eq_ok_iff, TypeRef.parse]
  cases TypeRef.parse? s <;> simp

/-- Of the spellings of a type, those are parsed in which white space is nowhere out of place. -/
lemma parse?_collapse_iff (h : IsType accepted.toList t) (hpoints : WithoutEllipsis accepted.toList)
    (htokens : tokens s.toList = tokens accepted.toList) :
    TypeRef.parse? (collapse s) = some u ↔ u = t ∧ IsTight s.toList := by
  have hcollapsed : tokens (collapse s).toList = tokens accepted.toList :=
    (tokens_collapse s).trans htokens
  have hspelled : IsTight s.toList → IsType (collapse s).toList t := fun htight =>
    h.respace (isChain_collapse htight) hcollapsed
  rw [parse?_eq_some_iff]
  constructor
  · intro hu
    have hchain := (hu.detached (hpoints.of_tokens hcollapsed)).isChain
    have htight : IsTight s.toList := by
      have htight := isTight_of_isChain hchain
      rwa [IsTight, words_collapse] at htight
    exact ⟨(parse_iff_isType (collapse s)).2.2 u t hu (hspelled htight), htight⟩
  · rintro ⟨rfl, htight⟩
    exact hspelled htight

/-- Text with white space out of place has a space in it when it is collapsed. -/
lemma space_mem_collapse (h : ¬ IsTight s.toList) : ' ' ∈ (collapse s).toList := by
  rw [toList_collapse]
  rw [IsTight] at h
  rcases hwords : words s.toList with _ | ⟨w, _ | ⟨w', ws⟩⟩
  · exact absurd (hwords ▸ List.isChain_nil) h
  · exact absurd (hwords ▸ List.isChain_singleton w) h
  · simp [List.intercalate_cons_cons]

lemma not_blank_of_isType {cs : List Char} (h : IsType cs t) :
    ∀ c ∈ t.name.toList, isWhiteSpace c = false := by
  cases h.wellFormed with
  | named hname _ => exact hname.not_blank
  | any =>
    intro c hc
    obtain rfl : c = '?' := by simpa using hc
    decide

/-- What is parsed is never the name that a text becomes otherwise. -/
lemma ne_named_collapse {cs : List Char} (h : IsType cs t) (htight : ¬ IsTight s.toList) :
    t ≠ named (collapse s) := by
  rintro rfl
  exact absurd (not_blank_of_isType h ' ' (space_mem_collapse htight)) (by decide)

lemma isTight_congr (h : collapse s = collapse s') : IsTight s.toList ↔ IsTight s'.toList := by
  rw [IsTight, IsTight, ← words_collapse s, h, words_collapse]

lemma typeOfText_eq (s : String) (n : ℕ) : typeOfText s n =
    ((TypeRef.parse? (collapse s)).getD (named (collapse s))).addDimensions n := rfl

lemma typeOfText_of_parse? {n : ℕ} (h : TypeRef.parse? (collapse s) = some t) :
    typeOfText s n = t.addDimensions n := by
  rw [typeOfText_eq, h, Option.getD_some]

lemma typeOfText_of_tokens (h : IsType accepted.toList t)
    (hpoints : WithoutEllipsis accepted.toList)
    (htokens : tokens s.toList = tokens accepted.toList) (n : ℕ) :
    typeOfText s n = (if IsTight s.toList then t else named (collapse s)).addDimensions n := by
  by_cases htight : IsTight s.toList
  · rw [typeOfText_of_parse? ((parse?_collapse_iff h hpoints htokens).mpr ⟨rfl, htight⟩),
      if_pos htight]
  · have hnone : TypeRef.parse? (collapse s) = none := by
      rw [Option.eq_none_iff_forall_ne_some]
      exact fun u hu => htight ((parse?_collapse_iff h hpoints htokens).mp hu).2
    rw [typeOfText_eq, hnone, Option.getD_none, if_neg htight]

lemma addDimensions_inj {n : ℕ} : t.addDimensions n = u.addDimensions n ↔ t = u := by
  obtain ⟨name, arguments, dimensions, wildcard⟩ := t
  obtain ⟨name', arguments', dimensions', wildcard'⟩ := u
  simp [TypeRef.addDimensions]

/-- A type that is accepted in some spelling comes from every other spelling of it in which white
space is nowhere out of place.  Any other spelling becomes a name, so that two spellings give the
same if and only if both are good ones or they have the same words. -/
theorem typeOfText_spelling (h : TypeRef.parse? accepted = some t)
    (hpoints : WithoutEllipsis accepted.toList) :
    (∀ s n, tokens s.toList = tokens accepted.toList →
      typeOfText s n =
        (if IsTight s.toList then t else named (collapse s)).addDimensions n) ∧
      ∀ s s' n, tokens s.toList = tokens accepted.toList →
        tokens s'.toList = tokens accepted.toList →
        (typeOfText s n = typeOfText s' n ↔
          IsTight s.toList ∧ IsTight s'.toList ∨ collapse s = collapse s') := by
  rw [parse?_eq_some_iff] at h
  refine ⟨fun s n htokens => typeOfText_of_tokens h hpoints htokens n, fun s s' n hs hs' => ?_⟩
  rw [typeOfText_of_tokens h hpoints hs, typeOfText_of_tokens h hpoints hs', addDimensions_inj]
  by_cases htight : IsTight s.toList <;> by_cases htight' : IsTight s'.toList
  · simp [htight, htight']
  · simp only [htight, htight', if_true, if_false, and_false, false_or]
    exact iff_of_false (ne_named_collapse h htight')
      fun heq => htight' ((isTight_congr heq).mp htight)
  · simp only [htight, htight', if_true, if_false, false_and, false_or]
    exact iff_of_false (ne_named_collapse h htight).symm
      fun heq => htight ((isTight_congr heq).mpr htight')
  · simp only [htight, htight', if_false, false_and, false_or]
    exact ⟨fun heq => congrArg TypeRef.name heq, fun heq => congrArg named heq⟩

/-- White space at the ends of tokens where it does no harm, and in front of type arguments. -/
theorem typeOfText_spelling_of_map :
    TypeRef.parse? "Map<K,? extends a.V[]>" =
        some ⟨"Map", [named "K", ⟨"a.V", [], 1, some .upper⟩], 0, none⟩ ∧
      typeOfText " Map< K ,?  extends a.V [ ]\n> " 1 =
        ⟨"Map", [named "K", ⟨"a.V", [], 1, some .upper⟩], 1, none⟩ ∧
      typeOfText "Map\n<K,? extends a.V[]>" 1 = ⟨"Map <K,? extends a.V[]>", [], 1, none⟩ := by
  have hparse : TypeRef.parse? "Map<K,? extends a.V[]>" =
      some ⟨"Map", [named "K", ⟨"a.V", [], 1, some .upper⟩], 0, none⟩ := by decide +kernel
  obtain ⟨hread, -⟩ := typeOfText_spelling hparse (by decide +kernel)
  refine ⟨hparse, (hread _ 1 (by decide +kernel)).trans ?_,
    (hread _ 1 (by decide +kernel)).trans ?_⟩
  · rw [if_pos (by decide +kernel)]
    rfl
  · rw [if_neg (by decide +kernel)]
    decide +kernel

/-- The spellings differ in white space alone, and yet in what they stand for. -/
theorem typeOfText_of_space :
    TypeRef.parse? "a.Map<A>" = some ⟨"a.Map", [named "A"], 0, none⟩ ∧
      typeOfText "a.Map<A>" 0 = ⟨"a.Map", [named "A"], 0, none⟩ ∧
      (tokens "a.Map <A>".toList = tokens "a.Map<A>".toList ∧
        typeOfText "a.Map <A>" 0 = named "a.Map <A>" ∧
        typeOfText "a.Map <A>" 0 ≠ typeOfText "a.Map<A>" 0) ∧
      tokens "a . Map<A>".toList = tokens "a.Map<A>".toList ∧
        typeOfText "a . Map<A>" 0 = named "a . Map<A>" ∧
        typeOfText "a . Map<A>" 0 ≠ typeOfText "a.Map<A>" 0 := by
  decide +kernel

end Spellings

end JavaUml.Java
