/-
# The canonical text of a type

The text that a type is written as is a derivation of the grammar, with one space behind each comma
and around the keyword of a bound (`WellFormed.isType_chars`).  So it is read back as the type, and
it is canonical: of all texts that denote a type, one is its own.

This holds of the types that a text can denote at all, which are characterized on the way: the name
is a name of the grammar, or it is the `?` of a wildcard, which has no arguments and no dimensions.
-/
import JavaUml.Proofs.TypeRef.Reading

namespace JavaUml.TypeRef

open JavaUml.Text

/-- A type with a name of the grammar, and arguments of this kind; or the type that any class stands
for, with or without a bound. -/
inductive WellFormed : TypeRef → Prop
  | named {name : String} {arguments : List TypeRef} {dimensions : ℕ}
      {wildcard : Option WildcardBound} : IsName name.toList → (∀ t ∈ arguments, WellFormed t) →
      WellFormed ⟨name, arguments, dimensions, wildcard⟩
  | any {wildcard : Option WildcardBound} : WellFormed ⟨"?", [], 0, wildcard⟩

/-! ## Types that a text denotes -/

lemma WellFormed.setWildcard {t : TypeRef} (h : t.WellFormed) (wildcard : Option WildcardBound) :
    { t with wildcard }.WellFormed := by
  cases h with
  | named hname harguments => exact .named hname harguments
  | any => exact .any

mutual

/-- A type that a text denotes is well formed. -/
theorem IsType.wellFormed {cs : List Char} {t : TypeRef} (h : IsType cs t) : t.WellFormed := by
  cases h with
  | unbounded => exact .any
  | bounded _ _ _ _ htype _ => exact htype.wellFormed.setWildcard _
  | plain _ hname harguments _ _ _ =>
    refine .named ?_ harguments.wellFormed
    rwa [String.toList_ofList]
termination_by 2 * cs.length + 1
decreasing_by all_goals simp only [List.length_append, List.length_cons]; omega

theorem IsArguments.wellFormed {cs : List Char} {ts : List TypeRef} (h : IsArguments cs ts) :
    ∀ t ∈ ts, t.WellFormed := by
  cases h with
  | none => exact nofun
  | some htype hmore => exact List.forall_mem_cons.mpr ⟨htype.wellFormed, hmore.wellFormed⟩
termination_by 2 * cs.length
decreasing_by all_goals simp only [List.length_append, List.length_cons]; omega

theorem AreMore.wellFormed {cs : List Char} {ts : List TypeRef} (h : AreMore cs ts) :
    ∀ t ∈ ts, t.WellFormed := by
  cases h with
  | none => exact nofun
  | cons htype hmore => exact List.forall_mem_cons.mpr ⟨htype.wellFormed, hmore.wellFormed⟩
termination_by 2 * cs.length
decreasing_by all_goals simp only [List.length_append, List.length_cons]; omega

end

/-! ## The text of a type is derived -/

lemma isBlanks_space : IsBlanks [' '] := by simp [IsBlanks, isWhiteSpace]

lemma IsBlanks.append {a b : List Char} (ha : IsBlanks a) (hb : IsBlanks b) : IsBlanks (a ++ b) :=
  List.forall_mem_append.mpr ⟨ha, hb⟩

/-- Blanks can be put in front of a type. -/
lemma IsType.blanks_append {blanks cs : List Char} {t : TypeRef} (h : IsType cs t)
    (hblanks : IsBlanks blanks) : IsType (blanks ++ cs) t := by
  cases h with
  | unbounded ha hb =>
    rw [← List.append_assoc]
    exact .unbounded (hblanks.append ha) hb
  | bounded ha hb hends hc htype hd =>
    rw [← List.append_assoc]
    exact .bounded (hblanks.append ha) hb hends hc htype hd
  | plain ha hname harguments hbrackets hellipsis hb =>
    rw [← List.append_assoc]
    exact .plain (hblanks.append ha) hname harguments hbrackets hellipsis hb

lemma isBrackets_bracketChars (n : ℕ) : IsBrackets (bracketChars n) n := by
  induction n with
  | zero => exact .none
  | succ n ih => exact .pair isBlanks_nil isBlanks_nil isBlanks_nil ih

lemma exists_moreArgumentChars {ts : List TypeRef} (h : ∀ t ∈ ts, IsType t.chars t) :
    ∃ more, moreArgumentChars ts = more ++ ['>'] ∧ AreMore more ts := by
  induction ts with
  | nil => exact ⟨[], rfl, .none⟩
  | cons t ts ih =>
    rw [List.forall_mem_cons] at h
    obtain ⟨more, hchars, hmore⟩ := ih h.2
    refine ⟨_, ?_, .cons (h.1.blanks_append isBlanks_space) hmore⟩
    simp [moreArgumentChars, hchars]

lemma isArguments_argumentChars {ts : List TypeRef} (h : ∀ t ∈ ts, IsType t.chars t) :
    IsArguments (argumentChars ts) ts := by
  cases ts with
  | nil => exact .none
  | cons t ts =>
    rw [List.forall_mem_cons] at h
    obtain ⟨more, hchars, hmore⟩ := exists_moreArgumentChars h.2
    rw [argumentChars, hchars]
    exact .some h.1 hmore

/-- A bound is written in front of the type without it. -/
lemma isType_boundChars_append {cs : List Char} {t : TypeRef} (h : IsType cs t)
    (hwildcard : t.wildcard = none) (wildcard : Option WildcardBound) :
    IsType (boundChars wildcard ++ cs) { t with wildcard } := by
  cases wildcard with
  | none =>
    obtain ⟨name, arguments, dimensions, _⟩ := t
    obtain rfl : _ = none := hwildcard
    exact h
  | some bound =>
    have hends : EndsKeyword ([' '] ++ cs) := by
      rintro c ⟨⟩
      decide
    have hbounded : IsType ([] ++ '?' :: ([' '] ++ (bound.keyword.toList ++ ([' '] ++ (cs ++ [])))))
        { t with wildcard := some bound } :=
      .bounded isBlanks_nil isBlanks_space hends isBlanks_space h isBlanks_nil
    simpa [boundChars] using hbounded

/-- A well-formed type is denoted by its text. -/
theorem WellFormed.isType_chars {t : TypeRef} (h : t.WellFormed) : IsType t.chars t := by
  induction h with
  | @named name arguments dimensions wildcard hname _ ih =>
    have hplain : IsType (name.toList ++ (argumentChars arguments ++ bracketChars dimensions))
        ⟨name, arguments, dimensions, none⟩ := by
      have htype := IsType.plain isBlanks_nil hname (isArguments_argumentChars ih)
        (isBrackets_bracketChars dimensions) .none isBlanks_nil
      simpa using htype
    have htype := isType_boundChars_append hplain rfl wildcard
    simpa [chars] using htype
  | @any wildcard =>
    have hany : IsType ['?'] (TypeRef.named "?") := .unbounded isBlanks_nil isBlanks_nil
    have htype := isType_boundChars_append hany rfl wildcard
    simpa [chars, argumentChars, bracketChars, TypeRef.named] using htype

/-! ## Writing and reading -/

lemma WellFormed.parse_text {t : TypeRef} (h : t.WellFormed) : parse t.text = .ok t := by
  rw [parse_eq_ok_iff, text, String.toList_ofList]
  exact h.isType_chars

/-- The types that are read are the well-formed ones, and these are read back from their texts.
Hence two texts denote the same type if and only if they are rewritten to the same text. -/
theorem parse_text_canonical :
    (∀ s t, parse s = .ok t → t.WellFormed) ∧
      (∀ t, t.WellFormed → parse t.text = .ok t) ∧
      ∀ s s' t t', parse s = .ok t → parse s' = .ok t' → (t = t' ↔ t.text = t'.text) := by
  have hwellFormed : ∀ s t, parse s = .ok t → t.WellFormed := fun s t h =>
    (parse_eq_ok_iff.mp h).wellFormed
  refine ⟨hwellFormed, fun t h => h.parse_text, fun s s' t t' h h' => ⟨congrArg text, ?_⟩⟩
  intro htext
  have ht := (hwellFormed s t h).parse_text
  rw [htext, (hwellFormed s' t' h').parse_text] at ht
  exact (Except.ok.inj ht).symm

/-- A bounded wildcard over an array, beside the wildcard without a bound. -/
theorem parse_text_of_bounded_array :
    parse "? super a.Map<?, ? extends T[]>[]" =
        .ok ⟨"a.Map", [named "?", ⟨"T", [], 1, some .upper⟩], 1, some .lower⟩ ∧
      (⟨"a.Map", [named "?", ⟨"T", [], 1, some .upper⟩], 1, some .lower⟩ : TypeRef).WellFormed ∧
      ((⟨"a.Map", [named "?", ⟨"T", [], 1, some .upper⟩], 1, some .lower⟩ : TypeRef) = named "?" ↔
        "? super a.Map<?, ? extends T[]>[]" = "?") := by
  have hmap : IsName "a.Map".toList :=
    .qualified (isWord_singleton (by decide)) (.word (@isWord_of_all ['M', 'a', 'p'] (by simp) rfl))
  have hvariable : (⟨"T", [], 1, some .upper⟩ : TypeRef).WellFormed :=
    .named (.word (isWord_singleton (by decide))) nofun
  have htype : (⟨"a.Map", [named "?", ⟨"T", [], 1, some .upper⟩], 1, some .lower⟩ :
      TypeRef).WellFormed := .named hmap (by simpa using ⟨.any, hvariable⟩)
  obtain ⟨hwellFormed, hparse, hcanonical⟩ := parse_text_canonical
  have hread := hparse _ htype
  exact ⟨hread, hwellFormed _ _ hread, hcanonical _ _ _ _ hread (hparse (named "?") .any)⟩

end JavaUml.TypeRef
