/-
# Names, brackets and bounds at the front of a text

Each part of a type is read as far as it goes.  A name ends where no name can go on (`StopsName`),
and a keyword where no identifier character follows; a type ends at a separator of type arguments,
at their end or at the end of the text (`StopsType`).  Where it ends like this, a part that the
rules derive is read as a whole, and what is read is always derived by the rules.
-/
import JavaUml.Proofs.TypeRef.Grammar
import Mathlib.Data.List.TakeWhile

namespace JavaUml.TypeRef

open JavaUml.Text

/-- What was read, and what is left. -/
def Front.parts {α : Type} {cs : List Char} (f : Front α cs) : α × List Char := (f.value, f.rest)

/-- A text in which nothing that belongs to a type follows: it goes on with a separator of type
arguments or with their end, or not at all. -/
def StopsType (cs : List Char) : Prop := ∀ c ∈ cs.head?, c = ',' ∨ c = '>'

/-! ## Blanks -/

lemma isBlanks_nil : IsBlanks [] := nofun

lemma skipBlank_append {blanks : List Char} (h : IsBlanks blanks) (cs : List Char) :
    skipBlank (blanks ++ cs) = skipBlank cs := List.dropWhile_append_of_pos h

lemma exists_blanks_append (cs : List Char) :
    ∃ blanks, IsBlanks blanks ∧ cs = blanks ++ skipBlank cs :=
  ⟨cs.takeWhile isWhiteSpace, fun _ => List.mem_takeWhile_imp,
    List.takeWhile_append_dropWhile.symm⟩

/-! ## Names -/

/-- The white space characters are a short list. -/
def whiteSpaceCodes : List ℕ :=
  [0x09, 0x0A, 0x0B, 0x0C, 0x0D, 0x20, 0x85, 0xA0, 0x1680, 0x2000, 0x2001, 0x2002, 0x2003, 0x2004,
    0x2005, 0x2006, 0x2007, 0x2008, 0x2009, 0x200A, 0x2028, 0x2029, 0x202F, 0x205F, 0x3000]

lemma toNat_mem_whiteSpaceCodes {c : Char} (h : isWhiteSpace c = true) :
    c.toNat ∈ whiteSpaceCodes := by
  simp only [isWhiteSpace, Bool.or_eq_true, Bool.and_eq_true, decide_eq_true_eq, beq_iff_eq] at h
  simp only [whiteSpaceCodes, List.mem_cons, List.not_mem_nil, or_false]
  omega

/-- What holds of no white space character on the list holds of none. -/
lemma eq_false_of_isWhiteSpace {p : Char → Bool}
    (h : ∀ n ∈ whiteSpaceCodes, p (Char.ofNat n) = false) {c : Char} (hc : isWhiteSpace c = true) :
    p c = false := by
  have hcode := h c.toNat (toNat_mem_whiteSpaceCodes hc)
  rwa [Char.ofNat_toNat] at hcode

/-- No white space stands in names. -/
lemma isWhiteSpace_of_isNameChar {c : Char} (h : isNameChar c = true) : isWhiteSpace c = false := by
  by_contra hblank
  have hname : isNameChar c = false :=
    eq_false_of_isWhiteSpace (by decide +kernel) (by simpa using hblank)
  rw [h] at hname
  cases hname

lemma IsWord.cons {c : Char} {cs : List Char} (hc : isNameChar c = true) (h : IsWord cs) :
    IsWord (c :: cs) := ⟨by simp, List.forall_mem_cons.mpr ⟨hc, h.2⟩⟩

lemma isWord_singleton {c : Char} (hc : isNameChar c = true) : IsWord [c] :=
  ⟨by simp, by simpa using hc⟩

lemma isWord_of_all {cs : List Char} (hne : cs ≠ []) (h : cs.all isNameChar = true) : IsWord cs :=
  ⟨hne, List.all_eq_true.mp h⟩

lemma IsName.cons {c : Char} {name : List Char} (hc : isNameChar c = true) (h : IsName name) :
    IsName (c :: name) := by
  cases h with
  | word h => exact .word (h.cons hc)
  | qualified hword hname => exact .qualified (hword.cons hc) hname

lemma IsWord.exists_cons {cs : List Char} (h : IsWord cs) :
    ∃ c rest, cs = c :: rest ∧ isNameChar c = true := by
  cases cs with
  | nil => exact absurd rfl h.1
  | cons c rest => exact ⟨c, rest, rfl, h.2 c List.mem_cons_self⟩

lemma IsName.exists_cons {name : List Char} (h : IsName name) :
    ∃ c rest, name = c :: rest ∧ isNameChar c = true := by
  cases h with
  | word h => exact h.exists_cons
  | qualified h _ =>
    obtain ⟨c, rest, rfl, hc⟩ := h.exists_cons
    exact ⟨c, _, List.cons_append, hc⟩

/-- A text at whose front no name can go on. -/
structure StopsName (cs : List Char) : Prop where
  head : ∀ c ∈ cs.head?, isNameChar c = false
  point : ∀ c rest, cs = '.' :: c :: rest → isNameChar c = false

lemma splitName_cons {c : Char} (hc : isNameChar c = true) (cs : List Char) :
    splitName (c :: cs) = (c :: (splitName cs).1, (splitName cs).2) := by
  have hpoint : c ≠ '.' := by
    rintro rfl
    exact absurd hc (by decide)
  rw [splitName, if_pos hc]
  rintro d ds rfl
  exact absurd rfl hpoint

lemma splitName_point {c : Char} (hc : isNameChar c = true) (cs : List Char) :
    splitName ('.' :: c :: cs) = ('.' :: c :: (splitName cs).1, (splitName cs).2) := by
  rw [splitName, if_pos hc, splitName_cons hc]

lemma splitName_of_stops {cs : List Char} (h : StopsName cs) : splitName cs = ([], cs) := by
  unfold splitName
  split
  · rfl
  · next c rest => rw [if_neg (by simp [h.point c rest rfl])]
  · next c rest _ => rw [if_neg (by simp [h.head c rfl])]

/-- What is split off makes a name, with a name character in front of it or beginning with one. -/
lemma isName_splitName (cs : List Char) :
    (∀ c, isNameChar c = true → IsName (c :: (splitName cs).1)) ∧
      ∀ c ∈ cs.head?, isNameChar c = true → IsName (splitName cs).1 := by
  fun_induction splitName cs with
  | case1 => exact ⟨fun c hc => .word (isWord_singleton hc), by simp⟩
  | case2 d cs hd ih =>
    refine ⟨fun c hc => .qualified (isWord_singleton hc) (ih.2 d rfl hd), ?_⟩
    rintro c ⟨⟩ hc
    exact absurd hc (by decide)
  | case3 d cs hd =>
    refine ⟨fun c hc => .word (isWord_singleton hc), ?_⟩
    rintro c ⟨⟩ hc
    exact absurd hc (by decide)
  | case4 d cs _ hd ih =>
    refine ⟨fun c hc => (ih.1 d hd).cons hc, ?_⟩
    rintro c ⟨⟩ hc
    exact ih.1 d hd
  | case5 d cs _ hd =>
    refine ⟨fun c hc => .word (isWord_singleton hc), ?_⟩
    rintro c ⟨⟩ hc
    exact absurd hc hd

lemma splitName_word {cs : List Char} (h : ∀ c ∈ cs, isNameChar c = true) (rest : List Char) :
    splitName (cs ++ rest) = (cs ++ (splitName rest).1, (splitName rest).2) := by
  induction cs with
  | nil => rfl
  | cons c cs ih =>
    rw [List.forall_mem_cons] at h
    rw [List.cons_append, splitName_cons h.1, ih h.2]
    rfl

/-- A name is split off as a whole. -/
lemma splitName_name {name rest : List Char} (h : IsName name) (hrest : StopsName rest) :
    splitName (name ++ rest) = (name, rest) := by
  induction h with
  | word h => rw [splitName_word h.2, splitName_of_stops hrest, List.append_nil]
  | qualified h hname ih =>
    obtain ⟨c, cs, rfl, hc⟩ := hname.exists_cons
    rw [List.cons_append, splitName_cons hc] at ih
    simp only [Prod.mk.injEq, List.cons.injEq, true_and] at ih
    rw [List.append_assoc, splitName_word h.2, List.cons_append, List.cons_append,
      splitName_point hc, ih.1, ih.2]

/-- The name at the front of a text. -/
def nameAt? (cs : List Char) : Option (String × List Char) := (readName? cs).map Front.parts

lemma nameAt?_eq_some_iff {cs rest : List Char} {name : String} :
    nameAt? cs = some (name, rest) ↔
      (∃ c ∈ cs.head?, isNameChar c = true) ∧ name = String.ofList (splitName cs).1 ∧
        rest = (splitName cs).2 := by
  unfold nameAt? readName?
  split
  · simp
  · next c cs =>
    split
    · next hc =>
      rw [splitName_cons hc]
      have hhead : ∃ d ∈ (c :: cs).head?, isNameChar d = true := ⟨c, rfl, hc⟩
      simp only [Option.map_some, Front.parts, Option.some.injEq, Prod.mk.injEq, hhead, true_and]
      exact and_congr eq_comm eq_comm
    · next hc => simp [hc]

lemma exists_name {cs rest : List Char} {name : String} (h : nameAt? cs = some (name, rest)) :
    cs = name.toList ++ rest ∧ IsName name.toList := by
  obtain ⟨⟨c, hc, hname⟩, rfl, rfl⟩ := nameAt?_eq_some_iff.mp h
  rw [String.toList_ofList]
  exact ⟨(splitName_append cs).symm, (isName_splitName cs).2 c hc hname⟩

lemma length_of_nameAt? {cs rest : List Char} {name : String} (h : nameAt? cs = some (name, rest)) :
    rest.length < cs.length := by
  obtain ⟨front, -, hparts⟩ := Option.map_eq_some_iff.mp h
  obtain ⟨-, rfl⟩ : front.value = name ∧ front.rest = rest := by simpa [Front.parts] using hparts
  exact front.shorter

lemma nameAt?_name {name rest : List Char} (h : IsName name) (hrest : StopsName rest) :
    nameAt? (name ++ rest) = some (String.ofList name, rest) := by
  obtain ⟨c, cs, hcs, hc⟩ := h.exists_cons
  refine nameAt?_eq_some_iff.mpr ⟨⟨c, by simp [hcs], hc⟩, ?_, ?_⟩ <;> rw [splitName_name h hrest]

lemma IsName.skipBlank_append {name : List Char} (h : IsName name) (rest : List Char) :
    skipBlank (name ++ rest) = name ++ rest := by
  obtain ⟨c, cs, rfl, hc⟩ := h.exists_cons
  exact skipBlank_of_head _ (isWhiteSpace_of_isNameChar hc)

/-! ## Brackets -/

/-- The dimensions at the front of a text, with the blanks behind them. -/
def dimensionsAt (cs : List Char) : ℕ × List Char :=
  ((readDimensions cs).1, skipBlank (readDimensions cs).2.1)

lemma readPair?_eq_some_iff {cs : List Char}
    {pair : { rest : List Char // rest.length < cs.length }} :
    readPair? cs = some pair ↔
      ∃ inner, skipBlank cs = '[' :: inner ∧ skipBlank inner = ']' :: pair.1 := by
  unfold readPair?
  split
  · next inner hcs =>
    split
    · next rest hinner => simp [hcs, hinner, Subtype.ext_iff]
    · next hinner =>
      simp only [hcs, List.cons.injEq, true_and, exists_eq_left', reduceCtorEq, false_iff]
      exact fun hp => hinner _ hp
  · next hcs =>
    simp only [reduceCtorEq, false_iff, not_exists, not_and]
    exact fun inner hp _ => hcs inner hp

lemma dimensionsAt_pair {cs inner rest : List Char} (h : skipBlank cs = '[' :: inner)
    (h' : skipBlank inner = ']' :: rest) :
    dimensionsAt cs = ((dimensionsAt rest).1 + 1, (dimensionsAt rest).2) := by
  have hlt : rest.length < cs.length := by
    have h₁ := length_skipBlank_le cs
    have h₂ := length_skipBlank_le inner
    simp only [h, h', List.length_cons] at h₁ h₂
    omega
  have hpair : readPair? cs = some ⟨rest, hlt⟩ := readPair?_eq_some_iff.mpr ⟨inner, h, h'⟩
  rw [dimensionsAt, readDimensions]
  split
  · next rest' _ hread =>
    obtain rfl : rest = rest' := by simpa [hpair] using hread
    rfl
  · next hread => rw [hpair] at hread; cases hread

/-- No pair of brackets begins at the front of a text, and no ellipsis. -/
def NoDimension (cs : List Char) : Prop :=
  (∀ inner rest, skipBlank cs = '[' :: inner → skipBlank inner ≠ ']' :: rest) ∧
    ∀ rest, skipBlank cs ≠ '.' :: '.' :: '.' :: rest

lemma readPair?_eq_none {cs : List Char}
    (h : ∀ inner rest, skipBlank cs = '[' :: inner → skipBlank inner ≠ ']' :: rest) :
    readPair? cs = none := by
  rw [Option.eq_none_iff_forall_ne_some]
  intro pair hpair
  obtain ⟨inner, hcs, hinner⟩ := readPair?_eq_some_iff.mp hpair
  exact h inner _ hcs hinner

lemma dimensionsAt_ellipsis {cs rest : List Char} (h : skipBlank cs = '.' :: '.' :: '.' :: rest) :
    dimensionsAt cs = (1, skipBlank rest) := by
  have hpair : readPair? cs = none := readPair?_eq_none (by simp [h])
  rw [dimensionsAt, readDimensions]
  split
  · next hread => rw [hpair] at hread; cases hread
  · split
    · next rest' h' =>
      obtain rfl : rest = rest' := by simpa [h] using h'
      rfl
    · next hne => exact absurd h (hne rest)

lemma dimensionsAt_none {cs : List Char} (h : NoDimension cs) :
    dimensionsAt cs = (0, skipBlank cs) := by
  have hpair : readPair? cs = none := readPair?_eq_none h.1
  rw [dimensionsAt, readDimensions]
  split
  · next hread => rw [hpair] at hread; cases hread
  · split
    · next rest h' => exact absurd h' (h.2 rest)
    · rfl

lemma dimensionsAt_cases (cs : List Char) :
    (∃ inner rest, skipBlank cs = '[' :: inner ∧ skipBlank inner = ']' :: rest) ∨
      (∃ rest, skipBlank cs = '.' :: '.' :: '.' :: rest) ∨ NoDimension cs := by
  by_cases hpair : ∃ inner rest, skipBlank cs = '[' :: inner ∧ skipBlank inner = ']' :: rest
  · exact .inl hpair
  by_cases hpoints : ∃ rest, skipBlank cs = '.' :: '.' :: '.' :: rest
  · exact .inr (.inl hpoints)
  · refine .inr (.inr ⟨fun inner rest h h' => hpair ⟨inner, rest, h, h'⟩, fun rest h => ?_⟩)
    exact hpoints ⟨rest, h⟩

/-- Blanks in front of brackets say nothing. -/
lemma dimensionsAt_blanks_append {blanks : List Char} (h : IsBlanks blanks) (cs : List Char) :
    dimensionsAt (blanks ++ cs) = dimensionsAt cs := by
  have hskip := skipBlank_append h cs
  rcases dimensionsAt_cases cs with ⟨inner, rest, hcs, hinner⟩ | ⟨rest, hcs⟩ | hnone
  · rw [dimensionsAt_pair hcs hinner, dimensionsAt_pair (hskip.trans hcs) hinner]
  · rw [dimensionsAt_ellipsis hcs, dimensionsAt_ellipsis (hskip.trans hcs)]
  · have hnone' : NoDimension (blanks ++ cs) := by rwa [NoDimension, hskip]
    rw [dimensionsAt_none hnone, dimensionsAt_none hnone', hskip]

/-- What is read as brackets, an ellipsis and blanks is that. -/
lemma exists_dimensions (cs : List Char) :
    ∃ brackets ellipsis blanks m n,
      cs = brackets ++ (ellipsis ++ (blanks ++ (dimensionsAt cs).2)) ∧
      IsBrackets brackets m ∧ IsEllipsis ellipsis n ∧ IsBlanks blanks ∧
      (dimensionsAt cs).1 = m + n := by
  induction hk : cs.length using Nat.strongRecOn generalizing cs with
  | _ k ih =>
    obtain ⟨a, ha, hcs⟩ := exists_blanks_append cs
    rcases dimensionsAt_cases cs with ⟨inner, rest, hopen, hclose⟩ | ⟨rest, hpoints⟩ | hnone
    · obtain ⟨b, hb, hinner⟩ := exists_blanks_append inner
      rw [hopen, hinner, hclose] at hcs
      have hlt : rest.length < k := by
        rw [← hk, hcs]
        simp only [List.length_append, List.length_cons]
        omega
      obtain ⟨brackets, ellipsis, blanks, m, n, hrest, hbrackets, hellipsis, hblanks, hcount⟩ :=
        ih rest.length hlt rest rfl
      refine ⟨_, ellipsis, blanks, m + 1, n, ?_, .pair ha hb isBlanks_nil hbrackets, hellipsis,
        hblanks, ?_⟩
      · rw [dimensionsAt_pair hopen hclose, hcs]
        simpa using hrest
      · rw [dimensionsAt_pair hopen hclose, hcount]
        omega
    · obtain ⟨b, hb, hrest⟩ := exists_blanks_append rest
      rw [hpoints] at hcs
      refine ⟨[], _, b, 0, 1, ?_, .none, .points ha isBlanks_nil, hb, ?_⟩
      · rw [dimensionsAt_ellipsis hpoints, hcs]
        simpa using hrest
      · rw [dimensionsAt_ellipsis hpoints]
    · refine ⟨[], [], a, 0, 0, ?_, .none, .none, ha, ?_⟩
      · rw [dimensionsAt_none hnone]
        exact hcs
      · rw [dimensionsAt_none hnone]

lemma dimensionsAt_brackets_append {brackets : List Char} {n : ℕ} (h : IsBrackets brackets n)
    (cs : List Char) :
    dimensionsAt (brackets ++ cs) = (n + (dimensionsAt cs).1, (dimensionsAt cs).2) := by
  induction h with
  | none => simp
  | @pair a b c brackets n ha hb hc _ ih =>
    have hopen : skipBlank (a ++ '[' :: (b ++ ']' :: (c ++ brackets)) ++ cs) =
        '[' :: (b ++ ']' :: (c ++ (brackets ++ cs))) := by
      rw [List.append_assoc, skipBlank_append ha, List.cons_append, skipBlank_of_head _ (by decide)]
      simp
    have hclose : skipBlank (b ++ ']' :: (c ++ (brackets ++ cs))) =
        ']' :: (c ++ (brackets ++ cs)) := by
      rw [skipBlank_append hb, skipBlank_of_head _ (by decide)]
    rw [dimensionsAt_pair hopen hclose, dimensionsAt_blanks_append hc, ih]
    simp only [Prod.mk.injEq, and_true]
    omega

lemma StopsType.noDimension {cs : List Char} (h : StopsType (skipBlank cs)) : NoDimension cs := by
  refine ⟨fun inner rest hcs => ?_, fun rest hcs => ?_⟩ <;> simp [hcs, StopsType] at h

lemma dimensionsAt_ellipsis_append {ellipsis blanks rest : List Char} {n : ℕ}
    (h : IsEllipsis ellipsis n) (hblanks : IsBlanks blanks) (hrest : StopsType (skipBlank rest)) :
    dimensionsAt (ellipsis ++ (blanks ++ rest)) = (n, skipBlank rest) := by
  cases h with
  | none =>
    rw [List.nil_append, dimensionsAt_blanks_append hblanks, dimensionsAt_none hrest.noDimension]
  | @points a b ha hb =>
    have hpoints : skipBlank (a ++ '.' :: '.' :: '.' :: b ++ (blanks ++ rest)) =
        '.' :: '.' :: '.' :: (b ++ (blanks ++ rest)) := by
      rw [List.append_assoc, skipBlank_append ha, List.cons_append, skipBlank_of_head _ (by decide)]
      simp
    rw [dimensionsAt_ellipsis hpoints, skipBlank_append hb, skipBlank_append hblanks]

/-! ## What follows a name -/

/-- A text in which neither a name goes on nor type arguments begin. -/
structure EndsName (cs : List Char) : Prop extends StopsName cs where
  noArguments : ∀ rest, cs ≠ '<' :: rest

lemma endsName_nil : EndsName [] := ⟨⟨nofun, nofun⟩, nofun⟩

lemma endsName_cons {c : Char} {cs : List Char} (hc : isNameChar c = false) (hpoint : c ≠ '.')
    (hopen : c ≠ '<') : EndsName (c :: cs) where
  head := by simpa using hc
  point d rest h := absurd (List.cons.inj h).1 hpoint
  noArguments rest h := hopen (List.cons.inj h).1

lemma EndsName.blanks_append {blanks cs : List Char} (h : IsBlanks blanks) (hcs : EndsName cs) :
    EndsName (blanks ++ cs) := by
  cases blanks with
  | nil => exact hcs
  | cons c blanks =>
    have hc : isWhiteSpace c = true := h c List.mem_cons_self
    refine endsName_cons ?_ ?_ ?_
    · by_contra hname
      rw [isWhiteSpace_of_isNameChar (by simpa using hname)] at hc
      cases hc
    · rintro rfl
      exact absurd hc (by decide)
    · rintro rfl
      exact absurd hc (by decide)

lemma StopsType.endsName {cs : List Char} (h : StopsType (skipBlank cs)) : EndsName cs := by
  obtain ⟨blanks, hblanks, hcs⟩ := exists_blanks_append cs
  rw [hcs]
  refine EndsName.blanks_append hblanks ?_
  cases hrest : skipBlank cs with
  | nil => exact endsName_nil
  | cons c rest =>
    rw [hrest] at h
    rcases h c rfl with rfl | rfl <;> exact endsName_cons (by decide) (by decide) (by decide)

lemma IsEllipsis.endsName {ellipsis cs : List Char} {n : ℕ} (h : IsEllipsis ellipsis n)
    (hcs : EndsName cs) : EndsName (ellipsis ++ cs) := by
  cases h with
  | none => exact hcs
  | points ha _ =>
    rw [List.append_assoc]
    refine EndsName.blanks_append ha ⟨⟨?_, ?_⟩, ?_⟩
    · rintro c ⟨⟩
      decide
    · rintro c rest ⟨⟩
      decide
    · rintro rest ⟨⟩

lemma IsBrackets.endsName {brackets cs : List Char} {n : ℕ} (h : IsBrackets brackets n)
    (hcs : EndsName cs) : EndsName (brackets ++ cs) := by
  cases h with
  | none => exact hcs
  | pair ha _ _ _ =>
    rw [List.append_assoc]
    exact EndsName.blanks_append ha (endsName_cons (by decide) (by decide) (by decide))

/-! ## Bounds -/

lemma dropWord?_eq_some_iff {word cs rest : List Char} :
    dropWord? word cs = some rest ↔ cs = word ++ rest := by
  refine ⟨dropWord?_eq_some, ?_⟩
  rintro rfl
  induction word with
  | nil => rw [List.nil_append, dropWord?]
  | cons w word ih => rw [List.cons_append, dropWord?, if_pos rfl, ih]

lemma readKeyword?_eq_some_iff {word : String} {cs rest : List Char} :
    readKeyword? word cs = some rest ↔ cs = word.toList ++ rest ∧ EndsKeyword rest := by
  have hdrop : readKeyword? word cs = some rest ↔
      dropWord? word.toList cs = some rest ∧ EndsKeyword rest := by
    unfold readKeyword?
    split
    · next h =>
      rw [h]
      simp only [Option.some.injEq, EndsKeyword]
      constructor
      · rintro rfl
        simp
      · exact fun h => h.1
    · next c cs' h =>
      rw [h]
      simp only [Option.ite_none_left_eq_some, Option.some.injEq, EndsKeyword]
      constructor
      · rintro ⟨hc, rfl⟩
        simpa using hc
      · rintro ⟨rfl, hc⟩
        simpa using hc
    · next h => simp [h]
  rw [hdrop, dropWord?_eq_some_iff]

lemma readBound?_eq_some_iff {cs rest : List Char} {bound : WildcardBound} :
    readBound? cs = some (bound, rest) ↔
      skipBlank cs = bound.keyword.toList ++ rest ∧ EndsKeyword rest := by
  rw [← readKeyword?_eq_some_iff]
  unfold readBound?
  cases hupper : readKeyword? WildcardBound.upper.keyword (skipBlank cs) with
  | some rest' =>
    -- the two keywords begin differently
    have hlower : readKeyword? WildcardBound.lower.keyword (skipBlank cs) = none := by
      rw [Option.eq_none_iff_forall_ne_some]
      intro other hother
      have h₁ := (readKeyword?_eq_some_iff.mp hupper).1
      have h₂ := (readKeyword?_eq_some_iff.mp hother).1
      rw [h₁] at h₂
      simp [WildcardBound.keyword] at h₂
    cases bound <;> simp [hupper, hlower]
  | none =>
    cases hlower : readKeyword? WildcardBound.lower.keyword (skipBlank cs) <;>
      cases bound <;> simp [hupper, hlower]

lemma EndsKeyword.of_append {cs rest : List Char} (h : EndsKeyword (cs ++ rest)) :
    EndsKeyword cs := by
  cases cs with
  | nil => exact nofun
  | cons c cs => exact h

lemma EndsKeyword.append {front : List Char} (h : EndsKeyword front) (hne : front ≠ [])
    (rest : List Char) : EndsKeyword (front ++ rest) := by
  cases front with
  | nil => exact absurd rfl hne
  | cons c front => exact h

lemma skipBlank_keyword_append (bound : WildcardBound) (cs : List Char) :
    skipBlank (bound.keyword.toList ++ cs) = bound.keyword.toList ++ cs := by
  cases bound <;> exact skipBlank_of_head _ (by decide)

lemma readBound?_of_stopsType {cs : List Char} (h : StopsType (skipBlank cs)) :
    readBound? cs = none := by
  rw [Option.eq_none_iff_forall_ne_some]
  rintro ⟨bound, rest⟩ hbound
  rw [(readBound?_eq_some_iff.mp hbound).1] at h
  cases bound <;> simp [StopsType, WildcardBound.keyword] at h

end JavaUml.TypeRef
