/-
# The reader follows the grammar

A text is read as a type exactly if the grammar derives it, and then the type is the one that the
derivation denotes (`isType_iff`), so that all derivations of a text denote the same type.

What the reader leaves over is carried along here, but not the proof that it is shorter (`typeAt?`
and the like).  In one direction, what has been read is derived, by recursion over the text
(`exists_isType`).  In the other one, a derived text is read as a whole, by recursion over the
derivation (`IsType.typeAt?_append`).  There the reader must not go on into what follows, so this
direction is about texts behind which nothing that belongs to a type can begin (`StopsType`).
-/
import JavaUml.Proofs.TypeRef.Parts

namespace JavaUml.TypeRef

open JavaUml.Text

/-! ## What is read and what is left -/

/-- The type at the front of a text. -/
def typeAt? (cs : List Char) : Option (TypeRef × List Char) := (readType? cs).map Front.parts

/-- The type arguments at the front of a text. -/
def argumentsAt? (cs : List Char) : Option (List TypeRef × List Char) :=
  (readArguments? cs).map fun r => (r.1, r.2.1)

/-- The type arguments after the first one, up to the closing bracket. -/
def moreAt? (cs : List Char) : Option (List TypeRef × List Char) :=
  (readMoreArguments? cs).map Front.parts

/-- One type and the type arguments after it. -/
def listAt? (cs : List Char) : Option (List TypeRef × List Char) :=
  (typeAt? cs).bind fun first => (moreAt? first.2).map fun more => (first.1 :: more.1, more.2)

lemma typeAt?_open {cs after : List Char} (h : skipBlank cs = '?' :: after)
    (hb : readBound? after = none) : typeAt? cs = some (named "?", skipBlank after) := by
  rw [typeAt?, readType?]
  split
  · next after' h' =>
    obtain rfl : after = after' := by simpa [h] using h'
    split
    · next hb' => rw [hb] at hb'; cases hb'
    · rfl
  · next hne => exact absurd h (hne after)

lemma typeAt?_bounded {cs after rest : List Char} {bound : WildcardBound}
    (h : skipBlank cs = '?' :: after) (hb : readBound? after = some (bound, rest)) :
    typeAt? cs = (typeAt? rest).map fun p => ({ p.1 with wildcard := some bound }, p.2) := by
  rw [typeAt?, readType?]
  split
  · next after' h' =>
    obtain rfl : after = after' := by simpa [h] using h'
    split
    · next bound' rest' hb' =>
      obtain ⟨rfl, rfl⟩ : bound = bound' ∧ rest = rest' := by simpa [hb] using hb'
      rw [typeAt?]
      cases readType? rest <;> rfl
    · next hb' => rw [hb] at hb'; cases hb'
  · next hne => exact absurd h (hne after)

lemma typeAt?_plain_iff {cs rest : List Char} {t : TypeRef}
    (h : ∀ after, skipBlank cs ≠ '?' :: after) :
    typeAt? cs = some (t, rest) ↔ ∃ name ts afterName after,
      nameAt? (skipBlank cs) = some (name, afterName) ∧
      argumentsAt? afterName = some (ts, after) ∧
      t = ⟨name, ts, (dimensionsAt after).1, none⟩ ∧ rest = (dimensionsAt after).2 := by
  have heq : typeAt? cs = (nameAt? (skipBlank cs)).bind fun name =>
      (argumentsAt? name.2).map fun arguments =>
        (⟨name.1, arguments.1, (dimensionsAt arguments.2).1, none⟩,
          (dimensionsAt arguments.2).2) := by
    rw [typeAt?, readType?]
    split
    · next after h' => exact absurd h' (h after)
    · rw [nameAt?]
      cases hname : readName? (skipBlank cs) with
      | none => rfl
      | some name =>
        simp only [Option.map_some, Option.bind_some, Front.parts, argumentsAt?]
        cases harguments : readArguments? name.rest <;>
          simp [harguments, Front.parts, dimensionsAt]
  simp only [heq, Option.bind_eq_some_iff, Option.map_eq_some_iff, Prod.mk.injEq, Prod.exists]
  constructor
  · rintro ⟨name, afterName, hname, ts, after, hts, rfl, rfl⟩
    exact ⟨name, ts, afterName, after, hname, hts, rfl, rfl⟩
  · rintro ⟨name, ts, afterName, after, hname, hts, rfl, rfl⟩
    exact ⟨name, afterName, hname, ts, after, hts, rfl, rfl⟩

lemma listAt?_eq_some_iff {cs rest : List Char} {ts : List TypeRef} :
    listAt? cs = some (ts, rest) ↔ ∃ t after more, typeAt? cs = some (t, after) ∧
      moreAt? after = some (more, rest) ∧ ts = t :: more := by
  simp only [listAt?, Option.bind_eq_some_iff, Option.map_eq_some_iff, Prod.mk.injEq, Prod.exists]
  constructor
  · rintro ⟨t, after, htype, more, rest, hmore, rfl, rfl⟩
    exact ⟨t, after, more, htype, hmore, rfl⟩
  · rintro ⟨t, after, more, htype, hmore, rfl⟩
    exact ⟨t, after, htype, more, rest, hmore, rfl, rfl⟩

lemma argumentsAt?_open (cs : List Char) : argumentsAt? ('<' :: cs) = listAt? cs := by
  rw [argumentsAt?, readArguments?, listAt?, typeAt?]
  cases readType? cs with
  | none => rfl
  | some first =>
    simp only [Option.map_some, Option.bind_some, Front.parts, moreAt?]
    cases hmore : readMoreArguments? first.rest <;> simp [hmore, Front.parts]

lemma argumentsAt?_none {cs : List Char} (h : ∀ rest, cs ≠ '<' :: rest) :
    argumentsAt? cs = some ([], cs) := by
  unfold argumentsAt? readArguments?
  split
  · next rest => exact absurd rfl (h rest)
  · rfl

lemma moreAt?_close (cs : List Char) : moreAt? ('>' :: cs) = some ([], cs) := by
  rw [moreAt?, readMoreArguments?]
  rfl

lemma moreAt?_none {cs : List Char} (hclose : ∀ rest, cs ≠ '>' :: rest)
    (hcomma : ∀ rest, cs ≠ ',' :: rest) : moreAt? cs = none := by
  unfold moreAt? readMoreArguments?
  split
  · next rest => exact absurd rfl (hclose rest)
  · next rest => exact absurd rfl (hcomma rest)
  · rfl

lemma moreAt?_comma (cs : List Char) : moreAt? (',' :: cs) = listAt? cs := by
  rw [moreAt?, readMoreArguments?, listAt?, typeAt?]
  cases readType? cs with
  | none => rfl
  | some first =>
    simp only [Option.map_some, Option.bind_some, Front.parts, moreAt?]
    cases hmore : readMoreArguments? first.rest <;> simp [hmore, Front.parts]

/-! ## What is read is in the grammar -/

lemma length_of_typeAt? {cs rest : List Char} {t : TypeRef} (h : typeAt? cs = some (t, rest)) :
    rest.length < cs.length := by
  obtain ⟨front, -, hparts⟩ := Option.map_eq_some_iff.mp h
  obtain ⟨rfl, rfl⟩ : front.value = t ∧ front.rest = rest := by simpa [Front.parts] using hparts
  exact front.shorter

mutual

/-- What is read as a type is one. -/
theorem exists_isType {cs rest : List Char} {t : TypeRef} (h : typeAt? cs = some (t, rest)) :
    ∃ front, cs = front ++ rest ∧ IsType front t := by
  obtain ⟨a, ha, hcs⟩ := exists_blanks_append cs
  have hle := length_skipBlank_le cs
  by_cases hmark : ∃ after, skipBlank cs = '?' :: after
  · obtain ⟨after, hmark⟩ := hmark
    obtain ⟨b, hb, hafter⟩ := exists_blanks_append after
    have hlength : after.length + 1 ≤ cs.length := by simpa [hmark] using hle
    rw [hmark] at hcs
    cases hbound : readBound? after with
    | none =>
      rw [typeAt?_open hmark hbound] at h
      obtain ⟨rfl, rfl⟩ : named "?" = t ∧ skipBlank after = rest := by simpa using h
      refine ⟨_, ?_, .unbounded ha hb⟩
      rw [hcs, List.append_assoc, List.cons_append, ← hafter]
    | some read =>
      obtain ⟨bound, afterBound⟩ := read
      rw [typeAt?_bounded hmark hbound] at h
      obtain ⟨⟨inner, rest'⟩, hinner, hparts⟩ := Option.map_eq_some_iff.mp h
      obtain ⟨rfl, rfl⟩ : { inner with wildcard := some bound } = t ∧ rest' = rest := by
        simpa using hparts
      have hlt := length_of_readBound? hbound
      obtain ⟨hkeyword, hends⟩ := readBound?_eq_some_iff.mp hbound
      rw [hkeyword] at hafter
      -- the blanks behind the keyword are read with the inner type
      obtain ⟨front, rfl, htype⟩ := exists_isType hinner
      have hends' : EndsKeyword ([] ++ front) := hends.of_append
      refine ⟨_, ?_, .bounded ha hb hends' isBlanks_nil htype isBlanks_nil⟩
      rw [hcs, hafter]
      simp
  · obtain ⟨name, ts, afterName, after, hname, hts, rfl, rfl⟩ :=
      (typeAt?_plain_iff fun after h => hmark ⟨after, h⟩).mp h
    have hlt := length_of_nameAt? hname
    obtain ⟨hstart, hisName⟩ := exists_name hname
    obtain ⟨arguments, rfl, harguments⟩ := exists_isArguments hts
    obtain ⟨brackets, ellipsis, b, m, n, hafter, hbrackets, hellipsis, hb, hcount⟩ :=
      exists_dimensions after
    have htype := IsType.plain ha hisName harguments hbrackets hellipsis hb
    rw [String.ofList_toList, ← hcount] at htype
    refine ⟨_, ?_, htype⟩
    calc cs = a ++ (name.toList ++ (arguments ++ after)) := by rw [hcs, hstart]
      _ = _ := by
          conv_lhs => rw [hafter]
          simp
termination_by 2 * cs.length
decreasing_by all_goals omega

/-- What is read as one type and the arguments after it is that. -/
theorem exists_list {cs rest : List Char} {ts : List TypeRef} (h : listAt? cs = some (ts, rest)) :
    ∃ first more t ts', cs = first ++ (more ++ '>' :: rest) ∧ IsType first t ∧ AreMore more ts' ∧
      ts = t :: ts' := by
  obtain ⟨t, after, ts', hfirst, hmore, hts⟩ := listAt?_eq_some_iff.mp h
  have hlt := length_of_typeAt? hfirst
  obtain ⟨first, hfront, htype⟩ := exists_isType hfirst
  obtain ⟨more, hbehind, hareMore⟩ := exists_areMore hmore
  exact ⟨first, more, t, ts', by rw [hfront, hbehind], htype, hareMore, hts⟩
termination_by 2 * cs.length + 1
decreasing_by all_goals omega

theorem exists_isArguments {cs rest : List Char} {ts : List TypeRef}
    (h : argumentsAt? cs = some (ts, rest)) :
    ∃ front, cs = front ++ rest ∧ IsArguments front ts := by
  by_cases hopen : ∃ inner, cs = '<' :: inner
  · obtain ⟨inner, hcs⟩ := hopen
    have hlength : cs.length = inner.length + 1 := by rw [hcs, List.length_cons]
    rw [hcs, argumentsAt?_open] at h
    obtain ⟨first, more, t, ts', hinner, htype, hmore, rfl⟩ := exists_list h
    refine ⟨'<' :: (first ++ (more ++ ['>'])), ?_, .some htype hmore⟩
    rw [hcs, hinner]
    simp
  · rw [argumentsAt?_none fun inner h => hopen ⟨inner, h⟩] at h
    obtain ⟨rfl, rfl⟩ : [] = ts ∧ cs = rest := by simpa using h
    exact ⟨[], rfl, .none⟩
termination_by 2 * cs.length + 1
decreasing_by all_goals omega

theorem exists_areMore {cs rest : List Char} {ts : List TypeRef}
    (h : moreAt? cs = some (ts, rest)) :
    ∃ front, cs = front ++ '>' :: rest ∧ AreMore front ts := by
  by_cases hclose : ∃ after, cs = '>' :: after
  · obtain ⟨after, rfl⟩ := hclose
    rw [moreAt?_close] at h
    obtain ⟨rfl, rfl⟩ : [] = ts ∧ after = rest := by simpa using h
    exact ⟨[], rfl, .none⟩
  by_cases hcomma : ∃ inner, cs = ',' :: inner
  · obtain ⟨inner, hcs⟩ := hcomma
    have hlength : cs.length = inner.length + 1 := by rw [hcs, List.length_cons]
    rw [hcs, moreAt?_comma] at h
    obtain ⟨next, more, t, ts', hinner, htype, hmore, rfl⟩ := exists_list h
    refine ⟨',' :: (next ++ more), ?_, .cons htype hmore⟩
    rw [hcs, hinner]
    simp
  · rw [moreAt?_none (fun after h => hclose ⟨after, h⟩) fun after h => hcomma ⟨after, h⟩] at h
    cases h
termination_by 2 * cs.length
decreasing_by all_goals omega

end

/-! ## What is in the grammar is read -/

/-- Blanks in front of a type say nothing. -/
lemma typeAt?_blanks_append {blanks : List Char} (h : IsBlanks blanks) (cs : List Char) :
    typeAt? (blanks ++ cs) = typeAt? cs := by
  have hskip := skipBlank_append h cs
  by_cases hmark : ∃ after, skipBlank cs = '?' :: after
  · obtain ⟨after, hmark⟩ := hmark
    cases hbound : readBound? after with
    | none => rw [typeAt?_open hmark hbound, typeAt?_open (hskip.trans hmark) hbound]
    | some read =>
      rw [typeAt?_bounded hmark hbound, typeAt?_bounded (hskip.trans hmark) hbound]
  · have hplain : ∀ after, skipBlank cs ≠ '?' :: after := fun after h => hmark ⟨after, h⟩
    have hplain' : ∀ after, skipBlank (blanks ++ cs) ≠ '?' :: after := by rwa [hskip]
    ext ⟨t, rest⟩
    rw [typeAt?_plain_iff hplain, typeAt?_plain_iff hplain', hskip]

lemma IsType.ne_nil {cs : List Char} {t : TypeRef} (h : IsType cs t) : cs ≠ [] := by
  cases h with
  | unbounded => simp
  | bounded => simp
  | plain _ hname =>
    obtain ⟨c, rest, rfl, -⟩ := hname.exists_cons
    simp

lemma IsArguments.stopsName {arguments cs : List Char} {ts : List TypeRef}
    (h : IsArguments arguments ts) (hcs : EndsName cs) : StopsName (arguments ++ cs) := by
  cases h with
  | none => exact hcs.toStopsName
  | some => exact ⟨by rintro c ⟨⟩; decide, by rintro c rest ⟨⟩⟩

lemma AreMore.stopsType {more rest : List Char} {ts : List TypeRef} (h : AreMore more ts) :
    StopsType (skipBlank (more ++ '>' :: rest)) := by
  cases h with
  | none =>
    rw [List.nil_append, skipBlank_of_head _ (by decide)]
    rintro c ⟨⟩
    exact .inr rfl
  | cons =>
    rw [List.cons_append, skipBlank_of_head _ (by decide)]
    rintro c ⟨⟩
    exact .inl rfl

lemma AreMore.skipBlank_append {more rest : List Char} {ts : List TypeRef} (h : AreMore more ts) :
    skipBlank (more ++ '>' :: rest) = more ++ '>' :: rest := by
  cases h <;> exact skipBlank_of_head _ (by decide)

/-- A type with a name is read as a whole if its arguments are. -/
lemma typeAt?_plain_append {a name arguments brackets ellipsis b rest : List Char}
    {ts : List TypeRef} {m n : ℕ} (ha : IsBlanks a) (hname : IsName name)
    (hstops : StopsName (arguments ++ (brackets ++ (ellipsis ++ (b ++ rest)))))
    (harguments : argumentsAt? (arguments ++ (brackets ++ (ellipsis ++ (b ++ rest)))) =
      some (ts, brackets ++ (ellipsis ++ (b ++ rest))))
    (hbrackets : IsBrackets brackets m) (hellipsis : IsEllipsis ellipsis n) (hb : IsBlanks b)
    (hrest : StopsType (skipBlank rest)) :
    typeAt? (a ++ (name ++ (arguments ++ (brackets ++ (ellipsis ++ b)))) ++ rest) =
      some (⟨String.ofList name, ts, m + n, none⟩, skipBlank rest) := by
  have hstart : typeAt? (a ++ (name ++ (arguments ++ (brackets ++ (ellipsis ++ b)))) ++ rest) =
      typeAt? (name ++ (arguments ++ (brackets ++ (ellipsis ++ (b ++ rest))))) := by
    rw [List.append_assoc, typeAt?_blanks_append ha]
    simp
  have hskip := hname.skipBlank_append (arguments ++ (brackets ++ (ellipsis ++ (b ++ rest))))
  have hmark : ∀ after, skipBlank (name ++ (arguments ++ (brackets ++ (ellipsis ++ (b ++ rest)))))
      ≠ '?' :: after := by
    obtain ⟨c, cs, rfl, hc⟩ := hname.exists_cons
    rw [hskip]
    rintro after ⟨⟩
    exact absurd hc (by decide)
  have hdimensions := dimensionsAt_brackets_append hbrackets (ellipsis ++ (b ++ rest))
  rw [dimensionsAt_ellipsis_append hellipsis hb hrest] at hdimensions
  rw [hstart, typeAt?_plain_iff hmark, hskip]
  refine ⟨_, ts, _, _, nameAt?_name hname hstops, harguments, ?_, ?_⟩ <;> rw [hdimensions]

/-- A bounded wildcard is read as a whole if the type behind the bound is. -/
lemma typeAt?_bounded_append {a b c d inner rest : List Char} {bound : WildcardBound} {t : TypeRef}
    (ha : IsBlanks a) (hb : IsBlanks b) (hends : EndsKeyword (c ++ inner)) (hc : IsBlanks c)
    (hne : inner ≠ []) (hinner : typeAt? (inner ++ (d ++ rest)) = some (t, skipBlank rest)) :
    typeAt? (a ++ '?' :: (b ++ (bound.keyword.toList ++ (c ++ (inner ++ d)))) ++ rest) =
      some ({ t with wildcard := some bound }, skipBlank rest) := by
  have hmark :
      skipBlank (a ++ '?' :: (b ++ (bound.keyword.toList ++ (c ++ (inner ++ d)))) ++ rest) =
        '?' :: (b ++ (bound.keyword.toList ++ (c ++ (inner ++ (d ++ rest))))) := by
    rw [List.append_assoc, skipBlank_append ha]
    refine (skipBlank_of_head _ (by decide)).trans ?_
    simp
  have hbound : readBound? (b ++ (bound.keyword.toList ++ (c ++ (inner ++ (d ++ rest))))) =
      some (bound, c ++ (inner ++ (d ++ rest))) := by
    refine readBound?_eq_some_iff.mpr ⟨?_, ?_⟩
    · rw [skipBlank_append hb, skipBlank_keyword_append]
    · rw [← List.append_assoc]
      exact hends.append (by simp [hne]) _
  rw [typeAt?_bounded hmark hbound, typeAt?_blanks_append hc, hinner]
  rfl

mutual

/-- A type is read as a whole, where nothing that belongs to it follows. -/
theorem IsType.typeAt?_append {cs rest : List Char} {t : TypeRef} (h : IsType cs t)
    (hrest : StopsType (skipBlank rest)) :
    typeAt? (cs ++ rest) = some (t, skipBlank rest) := by
  cases h with
  | @unbounded a b ha hb =>
    have hmark : skipBlank (a ++ '?' :: b ++ rest) = '?' :: (b ++ rest) := by
      rw [List.append_assoc, skipBlank_append ha]
      exact skipBlank_of_head _ (by decide)
    have hskip : skipBlank (b ++ rest) = skipBlank rest := skipBlank_append hb rest
    rw [typeAt?_open hmark (readBound?_of_stopsType (by rwa [hskip])), hskip]
  | @bounded a b c d inner bound t ha hb hends hc htype hd =>
    have hskip : skipBlank (d ++ rest) = skipBlank rest := skipBlank_append hd rest
    have hinner := htype.typeAt?_append (hskip.symm ▸ hrest)
    exact typeAt?_bounded_append ha hb hends hc htype.ne_nil (hskip ▸ hinner)
  | @plain a name arguments brackets ellipsis b ts m n ha hname harguments hbrackets hellipsis hb =>
    have hends : EndsName (brackets ++ (ellipsis ++ (b ++ rest))) :=
      hbrackets.endsName (hellipsis.endsName (hrest.endsName.blanks_append hb))
    exact typeAt?_plain_append ha hname (harguments.stopsName hends)
      (harguments.argumentsAt?_append hends.noArguments) hbrackets hellipsis hb hrest
termination_by 3 * cs.length + 1
decreasing_by all_goals simp only [List.length_append, List.length_cons]; omega

/-- One type and the arguments after it are read as a whole. -/
theorem listAt?_append {first more rest : List Char} {t : TypeRef} {ts : List TypeRef}
    (htype : IsType first t) (hmore : AreMore more ts) :
    listAt? (first ++ (more ++ '>' :: rest)) = some (t :: ts, rest) := by
  refine listAt?_eq_some_iff.mpr ⟨t, _, ts, htype.typeAt?_append hmore.stopsType, ?_, rfl⟩
  rw [hmore.skipBlank_append, hmore.moreAt?_append]
termination_by 3 * (first.length + more.length) + 2
decreasing_by all_goals omega

theorem IsArguments.argumentsAt?_append {cs rest : List Char} {ts : List TypeRef}
    (h : IsArguments cs ts) (hrest : ∀ inner, rest ≠ '<' :: inner) :
    argumentsAt? (cs ++ rest) = some (ts, rest) := by
  cases h with
  | none => exact argumentsAt?_none hrest
  | @some first more t ts htype hmore =>
    have hcs : '<' :: (first ++ (more ++ ['>'])) ++ rest =
        '<' :: (first ++ (more ++ '>' :: rest)) := by
      simp
    rw [hcs, argumentsAt?_open, listAt?_append htype hmore]
termination_by 3 * cs.length
decreasing_by all_goals simp only [List.length_append, List.length_cons]; omega

theorem AreMore.moreAt?_append {cs rest : List Char} {ts : List TypeRef} (h : AreMore cs ts) :
    moreAt? (cs ++ '>' :: rest) = some (ts, rest) := by
  cases h with
  | none => exact moreAt?_close rest
  | @cons next more t ts htype hmore =>
    have hcs : ',' :: (next ++ more) ++ '>' :: rest = ',' :: (next ++ (more ++ '>' :: rest)) := by
      simp
    rw [hcs, moreAt?_comma, listAt?_append htype hmore]
termination_by 3 * cs.length
decreasing_by all_goals simp only [List.length_append, List.length_cons]; omega

end

/-! ## The whole text -/

/-- The types that a text denotes are those that are read from it without a rest. -/
lemma isType_iff {cs : List Char} {t : TypeRef} : IsType cs t ↔ typeAt? cs = some (t, []) := by
  constructor
  · intro h
    have hread : typeAt? (cs ++ []) = some (t, skipBlank []) := h.typeAt?_append nofun
    rwa [List.append_nil] at hread
  · intro h
    obtain ⟨front, hfront, htype⟩ := exists_isType h
    rw [List.append_nil] at hfront
    rwa [hfront]

lemma parse_eq_ok_iff {s : String} {t : TypeRef} : parse s = .ok t ↔ IsType s.toList t := by
  rw [isType_iff, typeAt?, parse, parse?]
  cases readType? s.toList with
  | none => simp
  | some front => by_cases hrest : front.rest = [] <;> simp [hrest, Front.parts]

/-- The texts that are accepted are those of the grammar; every other text is reported with itself
as the input.  All derivations of a text denote one type, and this is the type that is returned. -/
theorem parse_iff_isType (s : String) :
    (∀ t, parse s = .ok t ↔ IsType s.toList t) ∧
      (∀ e, parse s = .error e ↔ e = ⟨s⟩ ∧ ¬ ∃ t, IsType s.toList t) ∧
      ∀ t u, IsType s.toList t → IsType s.toList u → t = u := by
  refine ⟨fun t => parse_eq_ok_iff, fun e => ?_, fun t u ht hu => ?_⟩
  · simp only [← parse_eq_ok_iff]
    unfold parse
    cases parse? s <;> simp [eq_comm]
  · rw [← parse_eq_ok_iff] at ht hu
    exact Except.ok.inj (ht.symm.trans hu)

/-- A type with two wildcards, one of them with a bound in a bound, and an array under it. -/
theorem parse_of_wildcards_and_array :
    IsType " a.b<?,? extends? super$x [ ] ...> ".toList
        ⟨"a.b", [named "?", ⟨"$x", [], 2, some .upper⟩], 0, none⟩ ∧
      parse " a.b<?,? extends? super$x [ ] ...> " =
        .ok ⟨"a.b", [named "?", ⟨"$x", [], 2, some .upper⟩], 0, none⟩ ∧
      parse "" = .error ⟨""⟩ ∧
      ∀ t, IsType " a.b<?,? extends? super$x [ ] ...> ".toList t →
        t = ⟨"a.b", [named "?", ⟨"$x", [], 2, some .upper⟩], 0, none⟩ := by
  have hblank : IsBlanks [' '] := by simp [IsBlanks, isWhiteSpace]
  have hname : IsName ['a', '.', 'b'] :=
    .qualified (isWord_singleton (by decide)) (.word (isWord_singleton (by decide)))
  have harray : IsType ['$', 'x', ' ', '[', ' ', ']', ' ', '.', '.', '.'] ⟨"$x", [], 2, none⟩ :=
    .plain isBlanks_nil (.word (@isWord_of_all ['$', 'x'] (by simp) rfl)) .none
      (.pair hblank hblank isBlanks_nil .none) (.points hblank isBlanks_nil) isBlanks_nil
  have hlower := @IsType.bounded [] [' '] [] [] _ .lower _ isBlanks_nil hblank
    (by rintro c ⟨⟩; decide) isBlanks_nil harray isBlanks_nil
  have hupper := @IsType.bounded [] [' '] [] [] _ .upper _ isBlanks_nil hblank
    (by rintro c ⟨⟩; decide) isBlanks_nil hlower isBlanks_nil
  have htype : IsType " a.b<?,? extends? super$x [ ] ...> ".toList
      ⟨"a.b", [named "?", ⟨"$x", [], 2, some .upper⟩], 0, none⟩ :=
    .plain hblank hname (.some (.unbounded isBlanks_nil isBlanks_nil) (.cons hupper .none))
      .none .none hblank
  obtain ⟨haccepts, -, hone⟩ := parse_iff_isType " a.b<?,? extends? super$x [ ] ...> "
  have hempty : ¬ ∃ t, IsType "".toList t := by
    rintro ⟨t, h⟩
    exact h.ne_nil rfl
  exact ⟨htype, (haccepts _).mpr htype, ((parse_iff_isType "").2.1 _).mpr ⟨rfl, hempty⟩,
    fun t h => hone t _ h htype⟩

end JavaUml.TypeRef
