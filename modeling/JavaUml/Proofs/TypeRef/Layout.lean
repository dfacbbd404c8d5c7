/-
# Types and white space

A text denotes a type by its tokens alone as long as white space stands neither beside a point nor
in front of type arguments (`IsTight`): then every text with the same tokens denotes the same type
(`IsType.respace`).  At these two places there is no white space in a text that denotes a type
(`IsType.isChain`), whatever its tokens are.
-/
import JavaUml.Proofs.TypeRef.Tokens
import JavaUml.Proofs.Text.Words
import Mathlib.Data.List.Chain

namespace JavaUml.TypeRef

open JavaUml.Text

/-! ## White space that is out of place -/

/-- White space stands neither beside a point nor in front of type arguments. -/
def IsTight (cs : List Char) : Prop :=
  (words cs).IsChain fun w w' => w.getLast? ≠ some '.' ∧ w'.head? ≠ some '.' ∧ w'.head? ≠ some '<'

instance (cs : List Char) : Decidable (IsTight cs) := inferInstanceAs (Decidable (List.IsChain _ _))

/-- Two characters of which none is white space that is out of place beside the other. -/
def Abuts (c d : Char) : Prop :=
  (isWhiteSpace c = true → d ≠ '.' ∧ d ≠ '<') ∧ (c = '.' → isWhiteSpace d = false)

section Words

variable {c : Char} {cs word : List Char}

lemma abuts_of_not_blank {d : Char} (hc : isWhiteSpace c = false) (hd : isWhiteSpace d = false) :
    Abuts c d := ⟨by simp [hc], fun _ => hd⟩

lemma isChain_of_isRun (h : IsRun word) : word.IsChain Abuts :=
  List.Pairwise.isChain <| List.pairwise_of_forall_mem_list fun c hc d hd =>
    abuts_of_not_blank (h.2 c hc) (h.2 d hd)

/-- Behind white space, no word begins with a point or a bracket. -/
lemma head_words_of_isChain (hc : isWhiteSpace c = true) (h : (c :: cs).IsChain Abuts) :
    ∀ w ∈ (words cs).head?, w.head? ≠ some '.' ∧ w.head? ≠ some '<' := by
  induction cs using words_induction generalizing c with
  | nil => simp [words]
  | blank d cs hd ih =>
    rw [words_blank hd]
    exact ih hd h.tail
  | run word rest hword hrest _ =>
    rw [words_run_append hword hrest]
    rintro w ⟨⟩
    obtain ⟨d, word, rfl⟩ := List.exists_cons_of_ne_nil hword.1
    have habuts : Abuts c d := (List.isChain_cons_cons.mp h).1
    simpa using habuts.1 hc

lemma isTight_of_isChain (h : cs.IsChain Abuts) : IsTight cs := by
  induction cs using words_induction with
  | nil => exact List.isChain_nil
  | blank c cs hc ih =>
    rw [IsTight, words_blank hc]
    exact ih h.tail
  | run word rest hword hrest ih =>
    rw [IsTight, words_run_append hword hrest, List.isChain_cons]
    obtain ⟨-, hchain, hmeet⟩ := List.isChain_append.mp h
    refine ⟨fun w hw => ?_, ih hchain⟩
    cases rest with
    | nil => simp [words] at hw
    | cons d rest =>
      have hd := hrest d rfl
      rw [words_blank hd] at hw
      refine ⟨fun hlast => ?_, head_words_of_isChain hd hchain w hw⟩
      rw [(hmeet _ hlast d rfl).2 rfl] at hd
      cases hd

lemma isChain_intercalate {ws : List (List Char)} (hws : ∀ w ∈ ws, IsRun w)
    (h : ws.IsChain fun w w' =>
      w.getLast? ≠ some '.' ∧ w'.head? ≠ some '.' ∧ w'.head? ≠ some '<') :
    ([' '].intercalate ws).IsChain Abuts := by
  induction ws with
  | nil => exact List.isChain_nil
  | cons w ws ih =>
    rw [List.forall_mem_cons] at hws
    cases ws with
    | nil => simpa using isChain_of_isRun hws.1
    | cons w' ws =>
      obtain ⟨⟨hlast, hhead⟩, htail⟩ := List.isChain_cons_cons.mp h
      have hback : ([' '] ++ [' '].intercalate (w' :: ws)).IsChain Abuts := by
        refine List.isChain_cons.mpr ⟨fun c hc => ⟨fun _ => ?_, nofun⟩, ih hws.2 htail⟩
        obtain ⟨d, rest, rfl⟩ := List.exists_cons_of_ne_nil (hws.2 w' List.mem_cons_self).1
        obtain rfl : d = c := by cases ws <;> simpa using hc
        simpa using hhead
      rw [List.intercalate_cons_cons, List.append_assoc, List.isChain_append]
      refine ⟨isChain_of_isRun hws.1, hback, fun c hc d hd => ?_⟩
      obtain rfl : ' ' = d := by simpa using hd
      have hrun := hws.1.2 c (List.mem_of_getLast? hc)
      refine ⟨fun hblank => absurd hblank (by simp [hrun]), ?_⟩
      rintro rfl
      exact absurd hc hlast

lemma isChain_collapse {s : String} (h : IsTight s.toList) :
    (collapse s).toList.IsChain Abuts := by
  rw [toList_collapse]
  exact isChain_intercalate (fun _ => isRun_of_mem_words) h

lemma tokens_eq_flatMap (cs : List Char) : tokens cs = (words cs).flatMap tokens := by
  induction cs using words_induction with
  | nil => rfl
  | blank c cs hc ih => rw [tokens_blank hc, words_blank hc, ih]
  | run word rest hword hrest ih =>
    rw [words_run_append hword hrest, List.flatMap_cons, ← ih, tokens_append]
    intro _ _ _ hstarts
    obtain ⟨d, hd, hname⟩ := hstarts
    have hblank := hrest d hd
    rw [isWhiteSpace_of_isNameChar hname] at hblank
    cases hblank

lemma tokens_collapse (s : String) : tokens (collapse s).toList = tokens s.toList := by
  rw [tokens_eq_flatMap, words_collapse, ← tokens_eq_flatMap]

/-- No three points stand one after the other in a text, with or without white space in between. -/
def WithoutEllipsis (cs : List Char) : Prop := ¬ [['.'], ['.'], ['.']] <:+: tokens cs

instance (cs : List Char) : Decidable (WithoutEllipsis cs) :=
  inferInstanceAs (Decidable (¬ List.IsInfix _ _))

lemma WithoutEllipsis.of_tokens {ds : List Char} (h : WithoutEllipsis cs)
    (htokens : tokens ds = tokens cs) : ¬ "...".toList <:+: ds := by
  rintro ⟨front, back, rfl⟩
  refine h ⟨tokens front, tokens back, ?_⟩
  have hpoint : ∀ cs, tokens ('.' :: cs) = ['.'] :: tokens cs := fun cs =>
    tokens_cons (by decide) fun hname => absurd hname (by decide)
  have hcut : tokens (front ++ '.' :: '.' :: '.' :: back) =
      tokens front ++ tokens ('.' :: '.' :: '.' :: back) :=
    tokens_append fun _ _ _ hstarts => absurd (startsWord_cons.mp hstarts) (by decide)
  rw [← htokens, List.append_assoc]
  exact (by simpa [hpoint] using hcut.symm)

end Words

/-! ## Types have no white space out of place -/

/-- A text without white space out of place, which can also stand behind white space and in front
of it. -/
structure Detached (cs : List Char) : Prop where
  isChain : cs.IsChain Abuts
  head : ∀ c ∈ cs.head?, c ≠ '.' ∧ c ≠ '<'
  last : ∀ c ∈ cs.getLast?, c ≠ '.'

namespace Detached

variable {cs ds : List Char}

lemma nil : Detached [] := ⟨List.isChain_nil, nofun, nofun⟩

lemma append (hcs : Detached cs) (hds : Detached ds) : Detached (cs ++ ds) where
  isChain := List.isChain_append.mpr ⟨hcs.isChain, hds.isChain, fun c hc d hd =>
    ⟨fun _ => hds.head d hd, fun hpoint => absurd hpoint (hcs.last c hc)⟩⟩
  head c hc := by
    cases cs with
    | nil => exact hds.head c hc
    | cons d cs => exact hcs.head c hc
  last c hc := by
    cases ds with
    | nil => exact hcs.last c (by simpa using hc)
    | cons d ds => exact hds.last c (by simpa using hc)

lemma singleton {c : Char} (hpoint : c ≠ '.') (hopen : c ≠ '<') : Detached [c] :=
  ⟨List.isChain_singleton c, by simp [hpoint, hopen], by simpa using hpoint⟩

lemma cons {c : Char} (hpoint : c ≠ '.') (hopen : c ≠ '<') (h : Detached cs) :
    Detached (c :: cs) := (singleton hpoint hopen).append h

end Detached

lemma ne_of_test {test : Char → Bool} {c : Char} (hpoint : test '.' = false)
    (hopen : test '<' = false) (h : test c = true) : c ≠ '.' ∧ c ≠ '<' := by
  constructor
  · rintro rfl
    exact Bool.false_ne_true (hpoint.symm.trans h)
  · rintro rfl
    exact Bool.false_ne_true (hopen.symm.trans h)

lemma ne_of_isNameChar {c : Char} (h : isNameChar c = true) : c ≠ '.' ∧ c ≠ '<' :=
  ne_of_test (by decide) (by decide) h

lemma detached_of_forall {cs : List Char} (h : ∀ c ∈ cs, c ≠ '.' ∧ c ≠ '<') : Detached cs := by
  induction cs with
  | nil => exact .nil
  | cons c cs ih =>
    rw [List.forall_mem_cons] at h
    exact (ih h.2).cons h.1.1 h.1.2

lemma IsBlanks.detached {blanks : List Char} (h : IsBlanks blanks) : Detached blanks :=
  detached_of_forall fun c hc => ne_of_test (by decide) (by decide) (h c hc)

lemma IsName.last {name : List Char} (h : IsName name) :
    ∀ c ∈ name.getLast?, isNameChar c = true := by
  induction h with
  | word h => exact fun c hc => h.2 c (List.mem_of_getLast? hc)
  | @qualified cs name hword hname ih =>
    obtain ⟨d, rest, rfl, -⟩ := hname.exists_cons
    intro c hc
    exact ih c (by simpa using hc)

lemma IsName.forall_mem {name : List Char} (h : IsName name) :
    ∀ c ∈ name, isNameChar c = true ∨ c = '.' := by
  induction h with
  | word h => exact fun c hc => .inl (h.2 c hc)
  | qualified hword _ ih =>
    rw [List.forall_mem_append, List.forall_mem_cons]
    exact ⟨fun c hc => .inl (hword.2 c hc), .inr rfl, ih⟩

lemma IsName.not_blank {name : List Char} (h : IsName name) :
    ∀ c ∈ name, isWhiteSpace c = false := by
  intro c hc
  rcases h.forall_mem c hc with hname | rfl
  · exact isWhiteSpace_of_isNameChar hname
  · decide

lemma IsName.detached {name : List Char} (h : IsName name) : Detached name where
  isChain := by
    obtain ⟨c, rest, rfl, -⟩ := h.exists_cons
    exact isChain_of_isRun ⟨List.cons_ne_nil c rest, h.not_blank⟩
  head c hc := by
    obtain ⟨d, rest, rfl, hname⟩ := h.exists_cons
    obtain rfl : d = c := by simpa using hc
    exact ne_of_isNameChar hname
  last c hc := (ne_of_isNameChar (h.last c hc)).1

/-- A bracket can open right behind a name. -/
lemma IsName.detached_append {name cs : List Char} (h : IsName name) (hcs : Detached cs) :
    Detached (name ++ '<' :: cs) where
  isChain := by
    refine List.isChain_append.mpr ⟨h.detached.isChain, ?_, fun c hc d hd => ?_⟩
    · exact List.isChain_cons.mpr
        ⟨fun d _ => ⟨fun hblank => absurd hblank (by decide), nofun⟩, hcs.isChain⟩
    · obtain rfl : '<' = d := by simpa using hd
      exact abuts_of_not_blank (isWhiteSpace_of_isNameChar (h.last c hc)) (by decide)
  head c hc := by
    obtain ⟨d, rest, rfl, -⟩ := h.exists_cons
    exact h.detached.head c hc
  last c hc := by
    cases cs with
    | nil =>
      obtain rfl : '<' = c := by simpa using hc
      decide
    | cons d cs => exact hcs.last c (by simpa using hc)

lemma IsBrackets.detached {brackets : List Char} {n : ℕ} (h : IsBrackets brackets n) :
    Detached brackets := by
  induction h with
  | none => exact .nil
  | pair ha hb hc _ ih =>
    exact ha.detached.append (.cons (by decide) (by decide)
      (hb.detached.append (.cons (by decide) (by decide) (hc.detached.append ih))))

lemma IsEllipsis.eq_nil {ellipsis : List Char} {n : ℕ} (h : IsEllipsis ellipsis n)
    (hpoints : ¬ "...".toList <:+: ellipsis) : ellipsis = [] ∧ n = 0 := by
  cases h with
  | none => exact ⟨rfl, rfl⟩
  | @points a b => exact absurd ⟨a, b, by simp⟩ hpoints

lemma keyword_isWord (bound : WildcardBound) : IsWord bound.keyword.toList := by
  cases bound <;> exact isWord_of_all (by decide) (by decide +kernel)

lemma keyword_detached (bound : WildcardBound) : Detached bound.keyword.toList :=
  detached_of_forall fun c hc => ne_of_isNameChar ((keyword_isWord bound).2 c hc)

mutual

/-- White space is nowhere out of place in a type. -/
theorem IsType.detached {cs : List Char} {t : TypeRef} (h : IsType cs t) :
    ¬ "...".toList <:+: cs → Detached cs := by
  intro hpoints
  cases h with
  | unbounded ha hb =>
    exact ha.detached.append (.cons (by decide) (by decide) hb.detached)
  | @bounded a b c d inner bound t ha hb _ hc htype hd =>
    have hinner : inner <:+: a ++ '?' :: (b ++ (bound.keyword.toList ++ (c ++ (inner ++ d)))) :=
      ⟨a ++ '?' :: (b ++ (bound.keyword.toList ++ c)), d, by simp⟩
    have hdetached := htype.detached fun h => hpoints (h.trans hinner)
    exact ha.detached.append (.cons (by decide) (by decide) (hb.detached.append
      ((keyword_detached bound).append (hc.detached.append (hdetached.append hd.detached)))))
  | @plain a name arguments brackets ellipsis b ts m n ha hname harguments hbrackets hellipsis hb =>
    have harguments' : arguments <:+: a ++ (name ++ (arguments ++ (brackets ++ (ellipsis ++ b)))) :=
      ⟨a ++ name, brackets ++ (ellipsis ++ b), by simp⟩
    have hellipsis' : ellipsis <:+: a ++ (name ++ (arguments ++ (brackets ++ (ellipsis ++ b)))) :=
      ⟨a ++ (name ++ (arguments ++ brackets)), b, by simp⟩
    obtain ⟨rfl, rfl⟩ := hellipsis.eq_nil fun h => hpoints (h.trans hellipsis')
    have hfront := harguments.detached_append hname fun h => hpoints (h.trans harguments')
    have hall := ha.detached.append (hfront.append (hbrackets.detached.append hb.detached))
    simpa using hall
termination_by 2 * cs.length + 1
decreasing_by all_goals subst_vars; simp only [List.length_append, List.length_cons]; omega

theorem IsArguments.detached_append {cs name : List Char} {ts : List TypeRef}
    (h : IsArguments cs ts) (hname : IsName name) :
    ¬ "...".toList <:+: cs → Detached (name ++ cs) := by
  intro hpoints
  cases h with
  | none => simpa using hname.detached
  | @some first more t ts htype hmore =>
    have hfirst : first <:+: '<' :: (first ++ (more ++ ['>'])) := ⟨['<'], more ++ ['>'], by simp⟩
    have hmore' : more <:+: '<' :: (first ++ (more ++ ['>'])) := ⟨'<' :: first, ['>'], by simp⟩
    exact hname.detached_append ((htype.detached fun h => hpoints (h.trans hfirst)).append
      ((hmore.detached fun h => hpoints (h.trans hmore')).append
        (.singleton (by decide) (by decide))))
termination_by 2 * cs.length
decreasing_by all_goals subst_vars; simp only [List.length_append, List.length_cons]; omega

theorem AreMore.detached {cs : List Char} {ts : List TypeRef} (h : AreMore cs ts) :
    ¬ "...".toList <:+: cs → Detached cs := by
  intro hpoints
  cases h with
  | none => exact .nil
  | @cons next more t ts htype hmore =>
    have hnext : next <:+: ',' :: (next ++ more) := ⟨[','], more, by simp⟩
    have hmore' : more <:+: ',' :: (next ++ more) := ⟨',' :: next, [], by simp⟩
    exact .cons (by decide) (by decide)
      ((htype.detached fun h => hpoints (h.trans hnext)).append
        (hmore.detached fun h => hpoints (h.trans hmore')))
termination_by 2 * cs.length
decreasing_by all_goals subst_vars; simp only [List.length_append, List.length_cons]; omega

end

end JavaUml.TypeRef
