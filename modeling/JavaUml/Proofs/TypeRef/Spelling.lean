/-
# Spellings of a type

A text that denotes a type does so whatever white space is put between its tokens, or taken away, as
long as none is out of place afterwards (`IsType.respace`).

The parts of the type are found again in the other spelling from the front: each part takes as much
white space with it as its rule allows, and leaves a text that has the tokens of what follows it.
-/
import JavaUml.Proofs.TypeRef.Layout
import JavaUml.Proofs.TypeRef.Reading

namespace JavaUml.TypeRef

open JavaUml.Text

/-- A text that no white space begins. -/
def StartsSolid (cs : List Char) : Prop := ∀ c ∈ cs.head?, isWhiteSpace c = false

section Parts

variable {c : Char} {cs ds rest : List Char}

/-- The white space at the front can be split off. -/
lemma exists_startsSolid (cs : List Char) :
    ∃ blanks back, IsBlanks blanks ∧ cs = blanks ++ back ∧ StartsSolid back ∧
      tokens back = tokens cs := by
  obtain ⟨blanks, hblanks, hcs⟩ := exists_blanks_append cs
  refine ⟨blanks, skipBlank cs, hblanks, hcs, fun c hc => ?_, ?_⟩
  · cases hskip : skipBlank cs with
    | nil =>
      rw [hskip] at hc
      cases hc
    | cons d back =>
      rw [hskip] at hc
      obtain rfl : d = c := by simpa using hc
      exact isWhiteSpace_of_skipBlank hskip
  · conv_rhs => rw [hcs, tokens_blanks_append hblanks]

lemma exists_cons_of_startsSolid (hc : isWhiteSpace c = false) (hds : StartsSolid ds)
    (h : tokens ds = tokens (c :: cs)) : ∃ back, ds = c :: back ∧ tokens back = tokens cs := by
  obtain ⟨blanks, back, hblanks, rfl, htokens, -⟩ := exists_cons_of_tokens hc h
  cases blanks with
  | nil => exact ⟨back, rfl, htokens⟩
  | cons b blanks =>
    have hb := hds b rfl
    rw [hblanks b List.mem_cons_self] at hb
    cases hb

/-- In front of a point and of a bracket no white space can be. -/
lemma exists_cons_of_isChain (hc : c = '.' ∨ c = '<') (hds : ds.IsChain Abuts)
    (h : tokens ds = tokens (c :: cs)) : ∃ back, ds = c :: back ∧ tokens back = tokens cs := by
  have hsolid : isWhiteSpace c = false := by rcases hc with rfl | rfl <;> decide
  obtain ⟨blanks, back, hblanks, rfl, htokens, -⟩ := exists_cons_of_tokens hsolid h
  obtain rfl | hne := eq_or_ne blanks []
  · exact ⟨back, rfl, htokens⟩
  · have hlast := List.getLast?_eq_some_getLast hne
    have hout := ((List.isChain_append.mp hds).2.2 _ hlast c rfl).1
      (hblanks _ (List.getLast_mem hne))
    exact absurd hc (by simp [hout])

lemma IsName.respace {name : List Char} (h : IsName name) (hds : ds.IsChain Abuts)
    (htokens : tokens ds = tokens (name ++ cs)) :
    ∃ blanks back, IsBlanks blanks ∧ ds = blanks ++ (name ++ back) ∧ tokens back = tokens cs := by
  induction h generalizing ds with
  | word h =>
    obtain ⟨blanks, back, hblanks, hback, hrest, -⟩ := exists_word_of_tokens h.1 h.2 htokens
    exact ⟨blanks, back, hblanks, hback, hrest⟩
  | @qualified word name hword hname ih =>
    rw [List.append_assoc] at htokens
    obtain ⟨blanks, back, hblanks, rfl, hback, -⟩ := exists_word_of_tokens hword.1 hword.2 htokens
    have hchain := hds.right_of_append.right_of_append
    obtain ⟨behind, rfl, hbehind⟩ := exists_cons_of_isChain (.inl rfl) hchain hback
    obtain ⟨between, back, hbetween, rfl, hafter⟩ := ih hchain.tail hbehind
    -- the next word follows the point at once
    obtain rfl : between = [] := by
      cases between with
      | nil => rfl
      | cons b between =>
        have habuts : Abuts '.' b := (List.isChain_cons_cons.mp hchain).1
        have hb := habuts.2 rfl
        rw [hbetween b List.mem_cons_self] at hb
        cases hb
    exact ⟨blanks, back, hblanks, by simp, hafter⟩

lemma IsBrackets.respace {brackets : List Char} {n : ℕ} (h : IsBrackets brackets n)
    (htokens : tokens ds = tokens (brackets ++ cs)) :
    ∃ brackets' back,
      IsBrackets brackets' n ∧ ds = brackets' ++ back ∧ tokens back = tokens cs := by
  induction h generalizing ds with
  | none => exact ⟨[], ds, .none, rfl, htokens⟩
  | @pair a b c brackets n ha hb hc _ ih =>
    simp only [List.append_assoc, List.cons_append] at htokens
    rw [tokens_blanks_append ha] at htokens
    obtain ⟨a', inner, ha', rfl, hinner, -⟩ := exists_cons_of_tokens (by decide) htokens
    rw [tokens_blanks_append hb] at hinner
    obtain ⟨b', back, hb', rfl, hback, -⟩ := exists_cons_of_tokens (by decide) hinner
    rw [tokens_blanks_append hc] at hback
    obtain ⟨brackets', back, hbrackets', rfl, hafter⟩ := ih hback
    exact ⟨_, back, .pair ha' hb' isBlanks_nil hbrackets', by simp, hafter⟩

lemma IsEllipsis.respace {ellipsis : List Char} {n : ℕ} (h : IsEllipsis ellipsis n)
    (hds : ds.IsChain Abuts) (htokens : tokens ds = tokens (ellipsis ++ cs)) :
    ∃ ellipsis' back, IsEllipsis ellipsis' n ∧ ds = ellipsis' ++ back ∧
      tokens back = tokens cs := by
  cases h with
  | none => exact ⟨[], ds, .none, rfl, htokens⟩
  | @points a b ha hb =>
    simp only [List.append_assoc, List.cons_append] at htokens
    rw [tokens_blanks_append ha] at htokens
    obtain ⟨d₁, rfl, h₁⟩ := exists_cons_of_isChain (.inl rfl) hds htokens
    obtain ⟨d₂, rfl, h₂⟩ := exists_cons_of_isChain (.inl rfl) hds.tail h₁
    obtain ⟨d₃, rfl, h₃⟩ := exists_cons_of_isChain (.inl rfl) hds.tail.tail h₂
    rw [tokens_blanks_append hb] at h₃
    exact ⟨_, d₃, .points isBlanks_nil isBlanks_nil, rfl, h₃⟩

end Parts

/-! ## Keywords -/

lemma isIdentifierContinue_of_isWhiteSpace {c : Char} (h : isWhiteSpace c = true) :
    isIdentifierContinue c = false := eq_false_of_isWhiteSpace (by decide +kernel) h

lemma IsType.head {cs : List Char} {t : TypeRef} (h : IsType cs t) :
    ∀ c ∈ cs.head?, isWhiteSpace c = true ∨ c = '?' ∨ isNameChar c = true := by
  have hblank : ∀ {blanks back : List Char} {c d : Char}, IsBlanks blanks →
      c ∈ (blanks ++ d :: back).head? → isWhiteSpace c = true ∨ c = d := by
    intro blanks back c d hblanks hc
    cases blanks with
    | nil => exact .inr (by simpa using hc.symm)
    | cons b blanks =>
      obtain rfl : b = c := by simpa using hc
      exact .inl (hblanks b List.mem_cons_self)
  intro c hc
  cases h with
  | unbounded ha _ => exact (hblank ha hc).imp_right .inl
  | bounded ha _ _ _ _ _ => exact (hblank ha hc).imp_right .inl
  | plain ha hname _ _ _ _ =>
    obtain ⟨d, rest, rfl, hd⟩ := hname.exists_cons
    refine (hblank ha hc).imp_right fun heq => .inr ?_
    rwa [heq]

/-- Behind a keyword a type can be spelled otherwise, as long as a word begins there in both
spellings or in none. -/
lemma EndsKeyword.respace {c inner inner' rest back : List Char} {t t' : TypeRef}
    (h : EndsKeyword (c ++ inner)) (hc : IsBlanks c) (htype : IsType inner t)
    (htype' : IsType inner' t') (htokens : tokens (inner' ++ back) = tokens (c ++ (inner ++ rest)))
    (hstarts : StartsWord (inner' ++ back) ↔ StartsWord (c ++ (inner ++ rest))) :
    EndsKeyword inner' := by
  intro d hd
  obtain ⟨inner', rfl⟩ : ∃ tail, inner' = d :: tail := by
    cases inner' with
    | nil => cases hd
    | cons e inner' => exact ⟨inner', by simpa using hd⟩
  rcases htype'.head d rfl with hblank | rfl | hname
  · exact isIdentifierContinue_of_isWhiteSpace hblank
  · decide
  · -- the word begins right behind the keyword in the first spelling as well
    have hword := hstarts.mp (startsWord_cons.mpr hname)
    obtain ⟨e, inner, rfl⟩ := List.exists_cons_of_ne_nil htype.ne_nil
    cases c with
    | cons b c =>
      have hb := hc b List.mem_cons_self
      rw [List.cons_append, startsWord_cons] at hword
      rw [isWhiteSpace_of_isNameChar hword] at hb
      cases hb
    | nil =>
      rw [List.nil_append, List.cons_append, startsWord_cons] at hword
      obtain ⟨token, ts, hts⟩ :=
        exists_tokens_cons (isWhiteSpace_of_isNameChar hname) (inner' ++ back)
      obtain ⟨token', ts', hts'⟩ :=
        exists_tokens_cons (isWhiteSpace_of_isNameChar hword) (inner ++ rest)
      simp only [List.cons_append, List.nil_append] at htokens
      rw [hts, hts'] at htokens
      cases htokens
      exact h d rfl

/-! ## Types -/

mutual

theorem IsType.respace_append {cs ds rest : List Char} {t : TypeRef} (h : IsType cs t) :
    ds.IsChain Abuts → tokens ds = tokens (cs ++ rest) →
      ∃ front back, IsType front t ∧ ds = front ++ back ∧ StartsSolid back ∧
        tokens back = tokens rest := by
  intro hds htokens
  cases h with
  | @unbounded a b ha hb =>
    simp only [List.append_assoc, List.cons_append] at htokens
    rw [tokens_blanks_append ha] at htokens
    obtain ⟨a', ds, ha', rfl, hrest, -⟩ := exists_cons_of_tokens (by decide) htokens
    rw [tokens_blanks_append hb] at hrest
    obtain ⟨b', back, hb', rfl, hsolid, hback⟩ := exists_startsSolid ds
    exact ⟨_, back, .unbounded ha' hb', by simp, hsolid, hback.trans hrest⟩
  | @bounded a b c d inner bound t ha hb hends hc htype hd =>
    simp only [List.append_assoc, List.cons_append] at htokens
    rw [tokens_blanks_append ha] at htokens
    obtain ⟨a', ds, ha', rfl, hds₁, -⟩ := exists_cons_of_tokens (by decide) htokens
    rw [tokens_blanks_append hb] at hds₁
    have hkeyword := keyword_isWord bound
    obtain ⟨b', ds, hb', rfl, hds₂, hstarts⟩ :=
      exists_word_of_tokens hkeyword.1 hkeyword.2 hds₁
    have hchain : ds.IsChain Abuts := hds.right_of_append.tail.right_of_append.right_of_append
    have hinner := hds₂
    rw [tokens_blanks_append hc] at hinner
    obtain ⟨inner', back, htype', rfl, hsolid, hback⟩ := htype.respace_append hchain hinner
    rw [tokens_blanks_append hd] at hback
    refine ⟨_, back, .bounded ha' hb' (c := []) ?_ isBlanks_nil htype' isBlanks_nil, ?_, hsolid,
      hback⟩
    · exact hends.respace hc htype htype' hds₂ hstarts
    · simp
  | @plain a name arguments brackets ellipsis b ts m n ha hname harguments hbrackets hellipsis hb =>
    simp only [List.append_assoc] at htokens
    rw [tokens_blanks_append ha] at htokens
    obtain ⟨a', ds, ha', rfl, hds₁⟩ := hname.respace hds htokens
    have hchain₁ := hds.right_of_append.right_of_append
    obtain ⟨arguments', ds, harguments', rfl, hds₂⟩ := harguments.respace_append hchain₁ hds₁
    have hchain₂ := hchain₁.right_of_append
    obtain ⟨brackets', ds, hbrackets', rfl, hds₃⟩ := hbrackets.respace hds₂
    obtain ⟨ellipsis', ds, hellipsis', rfl, hds₄⟩ :=
      hellipsis.respace hchain₂.right_of_append hds₃
    rw [tokens_blanks_append hb] at hds₄
    obtain ⟨b', back, hb', rfl, hsolid, hback⟩ := exists_startsSolid ds
    exact ⟨_, back, .plain ha' hname harguments' hbrackets' hellipsis' hb', by simp, hsolid,
      hback.trans hds₄⟩
termination_by 2 * cs.length + 1
decreasing_by all_goals subst_vars; simp only [List.length_append, List.length_cons]; omega

theorem IsArguments.respace_append {cs ds rest : List Char} {ts : List TypeRef}
    (h : IsArguments cs ts) :
    ds.IsChain Abuts → tokens ds = tokens (cs ++ rest) →
      ∃ front back, IsArguments front ts ∧ ds = front ++ back ∧ tokens back = tokens rest := by
  intro hds htokens
  cases h with
  | none => exact ⟨[], ds, .none, rfl, htokens⟩
  | @some first more t ts htype hmore =>
    simp only [List.append_assoc, List.cons_append] at htokens
    obtain ⟨ds, rfl, hds₁⟩ := exists_cons_of_isChain (.inr rfl) hds htokens
    obtain ⟨first', ds, htype', rfl, hsolid, hds₂⟩ := htype.respace_append hds.tail hds₁
    obtain ⟨more', ds, hmore', rfl, hsolid', hds₃⟩ :=
      hmore.respace_append hds.tail.right_of_append hsolid hds₂
    obtain ⟨back, rfl, hback⟩ := exists_cons_of_startsSolid (by decide) hsolid' hds₃
    exact ⟨_, back, .some htype' hmore', by simp, hback⟩
termination_by 2 * cs.length
decreasing_by all_goals subst_vars; simp only [List.length_append, List.length_cons]; omega

theorem AreMore.respace_append {cs ds rest : List Char} {ts : List TypeRef} (h : AreMore cs ts) :
    ds.IsChain Abuts → StartsSolid ds → tokens ds = tokens (cs ++ rest) →
      ∃ front back, AreMore front ts ∧ ds = front ++ back ∧ StartsSolid back ∧
        tokens back = tokens rest := by
  intro hds hstarts htokens
  cases h with
  | none => exact ⟨[], ds, .none, rfl, hstarts, htokens⟩
  | @cons next more t ts htype hmore =>
    simp only [List.append_assoc, List.cons_append] at htokens
    obtain ⟨ds, rfl, hds₁⟩ := exists_cons_of_startsSolid (by decide) hstarts htokens
    obtain ⟨next', ds, htype', rfl, hsolid, hds₂⟩ := htype.respace_append hds.tail hds₁
    obtain ⟨more', back, hmore', rfl, hsolid', hback⟩ :=
      hmore.respace_append hds.tail.right_of_append hsolid hds₂
    exact ⟨_, back, .cons htype' hmore', by simp, hsolid', hback⟩
termination_by 2 * cs.length
decreasing_by all_goals subst_vars; simp only [List.length_append, List.length_cons]; omega

end

/-- A text with the tokens of a type denotes the type, if no white space is out of place in it. -/
theorem IsType.respace {cs ds : List Char} {t : TypeRef} (h : IsType cs t)
    (hds : ds.IsChain Abuts) (htokens : tokens ds = tokens cs) : IsType ds t := by
  rw [← List.append_nil cs] at htokens
  obtain ⟨front, back, hfront, rfl, hsolid, hback⟩ := h.respace_append hds htokens
  have hblanks : IsBlanks back := isBlanks_of_tokens_eq_nil hback
  cases back with
  | nil => rwa [List.append_nil]
  | cons c back =>
    have hc := hsolid c rfl
    rw [hblanks c List.mem_cons_self] at hc
    cases hc

end JavaUml.TypeRef
