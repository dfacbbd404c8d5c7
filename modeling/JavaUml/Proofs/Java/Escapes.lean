/-
# Escapes in string literals

The body of a string literal is a sequence of characters and escapes.  Behind its backslash, an
escape is a mark for one character, an octal number, or a Unicode escape.  The rules say which
character each of them stands for.  They leave open what the Unicode escapes are: the language has
two of them stand for one character if they are a pair of surrogates (`UnicodeEscape`).

The value of a literal is what the rules say (`unescape_eq_some_iff`), but with other Unicode
escapes (`UnicodeRead`).  Each of them is read on its own, so that a surrogate has no value even if
it is one of a pair, and as its number may have a sign, a plus sign takes the place of a digit.
Apart from these two, the escapes that are read are those of the language.
-/
import JavaUml.Entries
import JavaUml.Java.StringLiteral
import Mathlib.Algebra.Ring.Nat
import Mathlib.Data.List.TakeWhile
import Mathlib.Tactic.Ring

namespace JavaUml.Java

/-! ## The rules -/

/-- A digit of a base with its value. Letters may be small or capital. -/
def IsDigit (base d : ℕ) (c : Char) : Prop :=
  d < base ∧ (c = d.digitChar ∨ c = d.digitChar.toUpper)

instance (base d : ℕ) (c : Char) : Decidable (IsDigit base d c) :=
  inferInstanceAs (Decidable (_ ∧ _))

/-- Digits of a base with the number that they denote. -/
inductive IsNumeral (base : ℕ) : List Char → ℕ → Prop
  | nil : IsNumeral base [] 0
  | cons {c : Char} {cs : List Char} {d n : ℕ} : IsDigit base d c → IsNumeral base cs n →
      IsNumeral base (c :: cs) (d * base ^ cs.length + n)

/-- No digit of a base begins a text. -/
def EndsNumeral (base : ℕ) (cs : List Char) : Prop := ∀ c ∈ cs.head?, ∀ d, ¬ IsDigit base d c

/-- A mark with the character that it stands for behind a backslash. -/
inductive IsMark : Char → Char → Prop
  | quotationMark : IsMark '"' '"'
  | apostrophe : IsMark '\'' '\''
  | backslash : IsMark '\\' '\\'
  | lineFeed : IsMark 'n' '\n'
  | tab : IsMark 't' '\t'
  | carriageReturn : IsMark 'r' '\r'
  | backspace : IsMark 'b' '\x08'
  | formFeed : IsMark 'f' '\x0c'
  | space : IsMark 's' ' '

/-- How many octal digits may follow the first one, so that a number is at most 255. -/
def octalRoom (first : ℕ) : ℕ := if first ≤ 3 then 2 else 1

/-- What stands behind the backslash of an escape, the character for it, and what follows. An octal
number has as many digits as there are, up to its limit. -/
inductive IsEscape (unicode : List Char → Char → Prop) : List Char → Char → List Char → Prop
  | mark {mark c : Char} {rest : List Char} : IsMark mark c → IsEscape unicode [mark] c rest
  | octal {first c : Char} {digits rest : List Char} {d : ℕ} : IsDigit 8 d first →
      IsNumeral 8 (first :: digits) c.toNat → digits.length ≤ octalRoom d →
      (digits.length < octalRoom d → EndsNumeral 8 rest) →
      IsEscape unicode (first :: digits) c rest
  | unicode {cs rest : List Char} {c : Char} : unicode cs c → IsEscape unicode cs c rest

/-- The body of a literal with the text that it stands for. -/
inductive Decodes (unicode : List Char → Char → Prop) : List Char → List Char → Prop
  | nil : Decodes unicode [] []
  | plain {c : Char} {cs out : List Char} : c ≠ '\\' → Decodes unicode cs out →
      Decodes unicode (c :: cs) (c :: out)
  | escape {cs rest out : List Char} {c : Char} : IsEscape unicode cs c rest →
      Decodes unicode rest out → Decodes unicode ('\\' :: (cs ++ rest)) (c :: out)

/-- The letter u, at least once, with what stands behind it. -/
def BehindU (cs behind : List Char) : Prop := ∃ k, cs = List.replicate (k + 1) 'u' ++ behind

/-- Four hexadecimal digits behind the letter u, with their number. -/
def IsCodeUnit (cs : List Char) (n : ℕ) : Prop :=
  ∃ digits, BehindU cs digits ∧ digits.length = 4 ∧ IsNumeral 16 digits n

/-- The Unicode escapes of the language, behind the first backslash. -/
inductive UnicodeEscape : List Char → Char → Prop
  | single {cs : List Char} {c : Char} : IsCodeUnit cs c.toNat → UnicodeEscape cs c
  | pair {high low : List Char} {h l : ℕ} {c : Char} : IsCodeUnit high h → IsCodeUnit low l →
      0xD800 ≤ h → h < 0xDC00 → 0xDC00 ≤ l → l < 0xE000 →
      c.toNat = 0x10000 + (h - 0xD800) * 0x400 + (l - 0xDC00) →
      UnicodeEscape (high ++ '\\' :: low) c

/-- The Unicode escapes that are read, behind the backslash. -/
inductive UnicodeRead : List Char → Char → Prop
  | single {cs : List Char} {c : Char} : IsCodeUnit cs c.toNat → UnicodeRead cs c
  | signed {cs digits : List Char} {c : Char} : BehindU cs ('+' :: digits) → digits.length = 3 →
      IsNumeral 16 digits c.toNat → UnicodeRead cs c

/-! ## Numbers -/

section Numbers

variable {base d n : ℕ} {c : Char} {cs : List Char}

lemma digitValue?_eq_filter (hb : base ≤ 16) (c : Char) :
    Text.digitValue? base c = (Text.digitValue? 16 c).filter (· < base) := by
  unfold Text.digitValue?
  grind

/-- A digit with a value is one of the first 128 characters, which can be tried in turn. -/
lemma digitValue?_sixteen_eq_some_iff : Text.digitValue? 16 c = some d ↔ IsDigit 16 d c := by
  constructor
  · intro h
    have hdigits : ∀ n < 128, ∀ d ∈ Text.digitValue? 16 (.ofNat n), IsDigit 16 d (.ofNat n) := by
      decide
    have hle : c ≤ 'f' := by
      by_contra hlt
      have h9 : ¬ c ≤ '9' := fun hc => hlt (Char.le_trans hc (show '9' ≤ 'f' by decide))
      have hF : ¬ c ≤ 'F' := fun hc => hlt (Char.le_trans hc (show 'F' ≤ 'f' by decide))
      simp [Text.digitValue?, hlt, h9, hF] at h
    rw [← Char.ofNat_toNat c] at h ⊢
    exact hdigits c.toNat (Nat.lt_of_le_of_lt hle (by decide)) d h
  · rintro ⟨hd, hc⟩
    have hletters : ∀ d < 16, Text.digitValue? 16 d.digitChar = some d ∧
        Text.digitValue? 16 d.digitChar.toUpper = some d := by
      decide
    rcases hc with rfl | rfl
    · exact (hletters d hd).1
    · exact (hletters d hd).2

/-- The digits that are known are those of the base. -/
lemma digitValue?_eq_some_iff (hb : base ≤ 16) :
    Text.digitValue? base c = some d ↔ IsDigit base d c := by
  rw [digitValue?_eq_filter hb, Option.filter_eq_some_iff, digitValue?_sixteen_eq_some_iff]
  simp only [IsDigit, decide_eq_true_eq]
  constructor
  · rintro ⟨⟨-, hc⟩, hd⟩
    exact ⟨hd, hc⟩
  · rintro ⟨hd, hc⟩
    exact ⟨⟨Nat.lt_of_lt_of_le hd hb, hc⟩, hd⟩

/-- Behind earlier digits, further digits are a numeral whose places are below theirs. -/
lemma digitsValue?_eq_some_iff (hb : base ≤ 16) {value : ℕ} :
    digitsValue? base value cs = some n ↔
      ∃ m, IsNumeral base cs m ∧ n = value * base ^ cs.length + m := by
  induction cs generalizing value n with
  | nil =>
    rw [digitsValue?, Option.some.injEq]
    constructor
    · rintro rfl
      exact ⟨0, .nil, by simp⟩
    · rintro ⟨m, hm, rfl⟩
      cases hm
      simp
  | cons c cs ih =>
    rw [digitsValue?, Option.bind_eq_bind, Option.bind_eq_some_iff]
    simp only [digitValue?_eq_some_iff hb, ih]
    constructor
    · rintro ⟨d, hd, m, hm, rfl⟩
      refine ⟨_, .cons hd hm, ?_⟩
      rw [List.length_cons]
      ring
    · rintro ⟨m, hm, rfl⟩
      cases hm with
      | @cons _ _ d m hd hm =>
        refine ⟨d, hd, m, hm, ?_⟩
        rw [List.length_cons]
        ring

lemma digitsValue?_zero_eq_some_iff (hb : base ≤ 16) :
    digitsValue? base 0 cs = some n ↔ IsNumeral base cs n := by
  simp [digitsValue?_eq_some_iff hb]

lemma isNumeral_cons_iff (hb : base ≤ 16) (hd : IsDigit base d c) :
    IsNumeral base (c :: cs) n ↔ digitsValue? base d cs = some n := by
  rw [← digitsValue?_zero_eq_some_iff hb, digitsValue?, (digitValue?_eq_some_iff hb).mpr hd]
  simp

lemma endsNumeral_nil : EndsNumeral base [] := fun c hc => absurd hc (Option.not_mem_none c)

lemma endsNumeral_cons_iff (hb : base ≤ 16) :
    EndsNumeral base (c :: cs) ↔ Text.digitValue? base c = none := by
  simp only [EndsNumeral, List.head?_cons, Option.mem_some_iff, forall_eq',
    Option.eq_none_iff_forall_ne_some, ne_eq, digitValue?_eq_some_iff hb]

lemma not_isNumeral_cons (hb : base ≤ 16) (hc : Text.digitValue? base c = none) :
    ¬ IsNumeral base (c :: cs) n := by
  rintro (_ | ⟨hd, -⟩)
  rw [(digitValue?_eq_some_iff hb).mpr hd] at hc
  cases hc

/-- A plus sign may stand before the digits of a hexadecimal number. -/
lemma hexValue?_eq_some_iff (hcs : cs ≠ []) :
    hexValue? cs = some n ↔
      IsNumeral 16 cs n ∨ ∃ digits, cs = '+' :: digits ∧ digits ≠ [] ∧ IsNumeral 16 digits n := by
  have hplus : ∀ digits, ¬ IsNumeral 16 ('+' :: digits) n :=
    fun _ => not_isNumeral_cons (by decide) (by decide)
  unfold hexValue?
  split
  · exact absurd rfl hcs
  · next c cs =>
    rw [digitsValue?_zero_eq_some_iff (by decide)]
    simp [hplus]
  · next h =>
    rw [digitsValue?_zero_eq_some_iff (by decide)]
    constructor
    · exact .inl
    · rintro (hn | ⟨digits, rfl, hne, hn⟩)
      · exact hn
      · obtain ⟨c, digits, rfl⟩ := List.exists_cons_of_ne_nil hne
        exact absurd rfl (h c digits)

lemma ne_u_of_hexValue? (h : hexValue? (c :: cs) = some n) : c ≠ 'u' := by
  rintro rfl
  rcases (hexValue?_eq_some_iff (List.cons_ne_nil _ _)).mp h with hu | ⟨_, hc, -⟩
  · exact not_isNumeral_cons (by decide) (by decide) hu
  · cases hc

lemma charOf?_eq_some_iff : charOf? n = some c ↔ c.toNat = n := by
  unfold charOf?
  constructor
  · intro h
    split at h
    · next hn =>
      cases h
      rw [Char.ofNat, dif_pos hn]
      rfl
    · cases h
  · rintro rfl
    have hc : c.toNat.isValidChar := c.valid
    rw [if_pos hc, Char.ofNat_toNat]

end Numbers

/-! ## Reading an escape -/

section Escapes

variable {c mark : Char} {cs rest : List Char}

/-- The digits that are read are all there are, up to their limit. -/
lemma exists_of_readOctal {value n count : ℕ} (h : readOctal value count cs = (n, rest)) :
    ∃ digits, cs = digits ++ rest ∧ digitsValue? 8 value digits = some n ∧
      digits.length ≤ count ∧ (digits.length < count → EndsNumeral 8 rest) := by
  induction count generalizing value cs with
  | zero =>
    rw [readOctal] at h
    cases h
    exact ⟨[], rfl, rfl, Nat.le_refl _, fun h => absurd h (Nat.lt_irrefl _)⟩
  | succ count ih =>
    cases cs with
    | nil =>
      rw [readOctal] at h
      · cases h
        exact ⟨[], rfl, rfl, Nat.zero_le _, fun _ => endsNumeral_nil⟩
      · exact Nat.succ_ne_zero count
    | cons c cs =>
      rw [readOctal] at h
      cases hc : Text.digitValue? 8 c with
      | none =>
        rw [hc] at h
        cases h
        exact ⟨[], rfl, rfl, Nat.zero_le _, fun _ => (endsNumeral_cons_iff (by decide)).mpr hc⟩
      | some d =>
        rw [hc] at h
        obtain ⟨digits, rfl, hvalue, hle, hends⟩ := ih h
        refine ⟨c :: digits, rfl, ?_, Nat.succ_le_succ hle,
          fun hlt => hends (Nat.lt_of_succ_lt_succ hlt)⟩
        rwa [digitsValue?, hc]

lemma readOctal_append {value n count : ℕ} {digits : List Char}
    (hvalue : digitsValue? 8 value digits = some n) (hle : digits.length ≤ count)
    (hends : digits.length < count → EndsNumeral 8 rest) :
    readOctal value count (digits ++ rest) = (n, rest) := by
  induction digits generalizing value count with
  | nil =>
    cases hvalue
    cases count with
    | zero => rfl
    | succ count =>
      have hrest := hends (Nat.zero_lt_succ _)
      cases rest with
      | nil => rfl
      | cons c rest =>
        rw [List.nil_append, readOctal, (endsNumeral_cons_iff (by decide)).mp hrest]
  | cons c digits ih =>
    cases count with
    | zero => exact absurd hle (Nat.not_succ_le_zero _)
    | succ count =>
      rw [digitsValue?, Option.bind_eq_bind, Option.bind_eq_some_iff] at hvalue
      obtain ⟨d, hd, hvalue⟩ := hvalue
      rw [List.cons_append, readOctal, hd]
      exact ih hvalue (Nat.le_of_succ_le_succ hle) fun hlt => hends (Nat.succ_lt_succ hlt)

/-- The marks that are known are those of the language. -/
lemma lookup_namedEscapes_eq_some_iff : namedEscapes.lookup mark = some c ↔ IsMark mark c := by
  rw [Entries.lookup_eq_some_iff_mem (by decide)]
  simp only [namedEscapes, List.mem_cons, Prod.mk.injEq, List.not_mem_nil, or_false]
  constructor
  · rintro (⟨rfl, rfl⟩ | ⟨rfl, rfl⟩ | ⟨rfl, rfl⟩ | ⟨rfl, rfl⟩ | ⟨rfl, rfl⟩ | ⟨rfl, rfl⟩ |
      ⟨rfl, rfl⟩ | ⟨rfl, rfl⟩ | ⟨rfl, rfl⟩) <;> constructor
  · rintro ⟨⟩ <;> decide

/-- A mark is not a digit, and the letter u is neither. -/
lemma digitValue?_of_isMark (h : IsMark mark c) : Text.digitValue? 8 mark = none := by
  cases h <;> decide

lemma readEscape_of_ne (h : c ≠ 'u') (cs : List Char) :
    readEscape (c :: cs) =
      match namedEscapes.lookup c, Text.digitValue? 8 c with
      | some named, _ => some (named, cs)
      | none, some d =>
        (charOf? (readOctal d (octalRoom d) cs).1).map (·, (readOctal d (octalRoom d) cs).2)
      | none, none => none := by
  rw [readEscape]
  · rfl
  · exact h

/-- What is read behind the letter u are four characters, as a number. -/
lemma unicodeRead_iff :
    UnicodeRead cs c ↔
      ∃ four, BehindU cs four ∧ four.length = 4 ∧ hexValue? four = some c.toNat := by
  constructor
  · rintro (⟨four, hbehind, hlength, hn⟩ | ⟨hbehind, hlength, hn⟩)
    · have hne : four ≠ [] := List.ne_nil_of_length_eq_add_one hlength
      exact ⟨four, hbehind, hlength, (hexValue?_eq_some_iff hne).mpr (.inl hn)⟩
    · have hne := List.ne_nil_of_length_eq_add_one hlength
      exact ⟨_, hbehind, congrArg Nat.succ hlength,
        (hexValue?_eq_some_iff (List.cons_ne_nil _ _)).mpr (.inr ⟨_, rfl, hne, hn⟩)⟩
  · rintro ⟨four, hbehind, hlength, hvalue⟩
    have hne : four ≠ [] := List.ne_nil_of_length_eq_add_one hlength
    rcases (hexValue?_eq_some_iff hne).mp hvalue with hn | ⟨digits, rfl, -, hn⟩
    · exact .single ⟨four, hbehind, hlength, hn⟩
    · exact .signed hbehind (Nat.succ.inj hlength) hn

lemma takeWhile_u (cs : List Char) :
    cs.takeWhile (· == 'u') = List.replicate (cs.takeWhile (· == 'u')).length 'u' :=
  List.eq_replicate_iff.mpr
    ⟨rfl, fun _ hb => eq_of_beq (List.mem_takeWhile_imp (p := (· == 'u')) hb)⟩

/-- The letters u are passed over, as none of them can be among the four characters. -/
lemma readEscape_u_eq_some_iff :
    readEscape ('u' :: cs) = some (c, rest) ↔
      ∃ chunk, 'u' :: cs = chunk ++ rest ∧ UnicodeRead chunk c := by
  simp only [unicodeRead_iff]
  rw [readEscape]
  constructor
  · intro h
    split at h
    · next hlength =>
      simp only [Option.bind_eq_bind, Option.bind_eq_some_iff, Option.pure_def, Option.some.injEq,
        Prod.mk.injEq] at h
      obtain ⟨n, hn, _, hc, rfl, rfl⟩ := h
      rw [charOf?_eq_some_iff] at hc
      refine ⟨_, ?_, _, ⟨(cs.takeWhile (· == 'u')).length, rfl⟩, hlength, hc ▸ hn⟩
      rw [List.append_assoc, List.take_append_drop, List.replicate_succ, List.cons_append,
        ← takeWhile_u, List.takeWhile_append_dropWhile]
    · cases h
  · rintro ⟨_, hcs, four, ⟨k, rfl⟩, hlength, hvalue⟩
    rw [List.replicate_succ, List.cons_append, List.cons_append, List.cons.injEq,
      List.append_assoc] at hcs
    have hdrop : cs.dropWhile (· == 'u') = four ++ rest := by
      rw [hcs.2, List.dropWhile_append_of_pos fun b hb =>
        beq_iff_eq.mpr (List.eq_of_mem_replicate hb)]
      obtain ⟨first, four, rfl⟩ := List.exists_cons_of_length_eq_add_one hlength
      exact List.dropWhile_cons_of_neg (by simpa using ne_u_of_hexValue? hvalue)
    simp only [hdrop, List.take_left' hlength, List.drop_left' hlength, hlength, if_true, hvalue]
    rw [Option.bind_eq_bind, Option.bind_some, charOf?_eq_some_iff.mpr rfl]
    rfl

/-- What is read behind a backslash is an escape. -/
lemma exists_of_readEscape (h : readEscape cs = some (c, rest)) :
    ∃ chunk, cs = chunk ++ rest ∧ IsEscape UnicodeRead chunk c rest := by
  cases cs with
  | nil => cases h
  | cons first cs =>
    by_cases hu : first = 'u'
    · subst hu
      obtain ⟨chunk, hcs, hunicode⟩ := readEscape_u_eq_some_iff.mp h
      exact ⟨chunk, hcs, .unicode hunicode⟩
    · rw [readEscape_of_ne hu] at h
      split at h
      · next hmark =>
        cases h
        exact ⟨[first], rfl, .mark (lookup_namedEscapes_eq_some_iff.mp hmark)⟩
      · next d _ hd =>
        obtain ⟨_, hc, heq⟩ := Option.map_eq_some_iff.mp h
        cases heq
        obtain ⟨digits, hcs, hvalue, hle, hends⟩ := exists_of_readOctal rfl
        rw [charOf?_eq_some_iff] at hc
        have hfirst := (digitValue?_eq_some_iff (by decide)).mp hd
        refine ⟨first :: digits, congrArg _ hcs, .octal hfirst ?_ hle hends⟩
        rw [isNumeral_cons_iff (by decide) hfirst, hvalue, hc]
      · cases h

/-- The first character tells which kind of escape it is, as no mark is a digit. -/
lemma readEscape_append {chunk : List Char} (h : IsEscape UnicodeRead chunk c rest) :
    readEscape (chunk ++ rest) = some (c, rest) := by
  cases h with
  | @mark mark _ _ hmark =>
    have hu : mark ≠ 'u' := by
      rintro rfl
      cases hmark
    rw [List.singleton_append, readEscape_of_ne hu, lookup_namedEscapes_eq_some_iff.mpr hmark]
  | @octal first _ digits _ d hfirst hnumeral hle hends =>
    have hd := (digitValue?_eq_some_iff (by decide)).mpr hfirst
    have hu : first ≠ 'u' := by
      rintro rfl
      cases hd
    have hmark : namedEscapes.lookup first = none := by
      refine Option.eq_none_iff_forall_ne_some.mpr fun c hc => ?_
      rw [digitValue?_of_isMark (lookup_namedEscapes_eq_some_iff.mp hc)] at hd
      cases hd
    rw [isNumeral_cons_iff (by decide) hfirst] at hnumeral
    rw [List.cons_append, readEscape_of_ne hu, hmark, hd]
    dsimp only
    rw [readOctal_append hnumeral hle hends, charOf?_eq_some_iff.mpr rfl]
    rfl
  | unicode hunicode =>
    obtain ⟨four, ⟨k, rfl⟩, -, -⟩ := unicodeRead_iff.mp hunicode
    rw [List.replicate_succ, List.cons_append, List.cons_append]
    exact readEscape_u_eq_some_iff.mpr ⟨_, rfl, hunicode⟩

end Escapes

/-! ## Reading a literal -/

section Literals

variable {c : Char} {cs out : List Char} {unicode unicode' : List Char → Char → Prop}

lemma unescape_backslash (cs : List Char) :
    unescape ('\\' :: cs) =
      (readEscape cs).bind fun read => (unescape read.2).map (read.1 :: ·) := by
  rw [unescape]
  split
  · next h =>
    dsimp only
    rw [h, Option.bind_some]
  · next h => rw [h, Option.bind_none]

lemma unescape_of_decodes (h : Decodes UnicodeRead cs out) : unescape cs = some out := by
  induction h with
  | nil => rw [unescape]
  | plain hc _ ih =>
    rw [unescape, ih]
    · rfl
    · exact hc
  | escape hescape _ ih =>
    rw [unescape_backslash, readEscape_append hescape, Option.bind_some, ih]
    rfl

lemma decodes_of_unescape (h : unescape cs = some out) : Decodes UnicodeRead cs out := by
  induction cs using unescape.induct generalizing out with
  | case1 =>
    rw [unescape, Option.some.injEq] at h
    exact h ▸ .nil
  | case2 cs c rest hread _ ih =>
    rw [unescape_backslash, hread, Option.bind_some, Option.map_eq_some_iff] at h
    obtain ⟨out, hout, rfl⟩ := h
    obtain ⟨chunk, rfl, hescape⟩ := exists_of_readEscape hread
    exact .escape hescape (ih hout)
  | case3 cs hread =>
    rw [unescape_backslash, hread] at h
    cases h
  | case4 c cs hc ih =>
    rw [unescape, Option.map_eq_some_iff] at h
    · obtain ⟨out, hout, rfl⟩ := h
      exact .plain hc (ih hout)
    · exact hc

/-! ## The Unicode escapes that are read -/

lemma IsEscape.mono {rest : List Char} (h : IsEscape unicode cs c rest)
    (hle : unicode cs c → unicode' cs c) : IsEscape unicode' cs c rest := by
  cases h with
  | mark hmark => exact .mark hmark
  | octal hfirst hn hlength hends => exact .octal hfirst hn hlength hends
  | unicode hunicode => exact .unicode (hle hunicode)

/-- It is only the Unicode escapes in a body that count, and only for the characters of its text. -/
lemma Decodes.mono (h : Decodes unicode cs out)
    (hle : ∀ chunk c, chunk ⊆ cs → c ∈ out → unicode chunk c → unicode' chunk c) :
    Decodes unicode' cs out := by
  induction h with
  | nil => exact .nil
  | plain hc _ ih =>
    exact .plain hc <| ih fun chunk c hchunk hmem =>
      hle chunk c (List.subset_cons_of_subset _ hchunk) (List.mem_cons_of_mem _ hmem)
  | @escape cs rest out c hescape _ ih =>
    have hchunk : cs ⊆ '\\' :: (cs ++ rest) :=
      List.subset_cons_of_subset _ (List.subset_append_left cs rest)
    have hrest : rest ⊆ '\\' :: (cs ++ rest) :=
      List.subset_cons_of_subset _ (List.subset_append_right cs rest)
    have hmono := hescape.mono (hle cs c hchunk List.mem_cons_self)
    exact .escape hmono <| ih fun chunk d hsub hmem =>
      hle chunk d (List.Subset.trans hsub hrest) (List.mem_cons_of_mem _ hmem)

lemma UnicodeRead.unicodeEscape (h : UnicodeRead cs c) (hplus : '+' ∉ cs) :
    UnicodeEscape cs c := by
  cases h with
  | single hunit => exact .single hunit
  | signed hbehind =>
    obtain ⟨k, rfl⟩ := hbehind
    exact absurd (List.mem_append_right _ List.mem_cons_self) hplus

lemma UnicodeEscape.unicodeRead (h : UnicodeEscape cs c) (hc : c.toNat < 0x10000) :
    UnicodeRead cs c := by
  cases h with
  | single hunit => exact .single hunit
  | pair _ _ _ _ _ _ hcode => omega

/-- A literal has the value that the rules give for its body with the Unicode escapes that are read,
and no value if they give none.  Without a plus sign and without characters beyond U+FFFF, these are
the escapes of the language. -/
theorem unescape_eq_some_iff (cs out : List Char) :
    (unescape cs = some out ↔ Decodes UnicodeRead cs out) ∧
      ('+' ∉ cs → (∀ c ∈ out, c.toNat < 0x10000) →
        (unescape cs = some out ↔ Decodes UnicodeEscape cs out)) := by
  refine ⟨⟨decodes_of_unescape, unescape_of_decodes⟩, fun hplus hout => ⟨fun h => ?_, fun h => ?_⟩⟩
  · exact (decodes_of_unescape h).mono fun chunk c hchunk _ hread =>
      hread.unicodeEscape fun hmem => hplus (hchunk hmem)
  · exact unescape_of_decodes <| h.mono fun chunk c _ hmem hescape =>
      hescape.unicodeRead (hout c hmem)

lemma not_isCodeUnit_sign {chunk : List Char} {n : ℕ} (h : IsCodeUnit chunk n) (rest : List Char) :
    'u' :: '+' :: cs ≠ chunk ++ rest := by
  obtain ⟨four, ⟨k, rfl⟩, hlength, hn⟩ := h
  obtain ⟨first, four, rfl⟩ := List.exists_cons_of_length_eq_add_one hlength
  intro heq
  cases k with
  | zero =>
    cases heq
    exact not_isNumeral_cons (by decide) (by decide) hn
  | succ k => cases heq

/-- No Unicode escape of the language has a sign. -/
lemma not_decodes_sign : ¬ Decodes UnicodeEscape ('\\' :: 'u' :: '+' :: cs) out := by
  intro h
  generalize hbody : '\\' :: 'u' :: '+' :: cs = body at h
  cases h with
  | nil => cases hbody
  | plain hc => exact hc (List.cons.inj hbody).1.symm
  | @escape chunk rest _ _ hescape =>
    have hcs := (List.cons.inj hbody).2
    cases hescape with
    | mark hmark =>
      cases hcs
      cases hmark
    | octal hfirst =>
      obtain ⟨rfl, -⟩ := List.cons.inj hcs
      cases (digitValue?_eq_some_iff (by decide)).mpr hfirst
    | unicode hunicode =>
      cases hunicode with
      | single hunit => exact not_isCodeUnit_sign hunit rest hcs
      | pair hhigh =>
        rw [List.append_assoc] at hcs
        exact not_isCodeUnit_sign hhigh _ hcs

/-- A pair of surrogates stands for one character but has no value, and a plus sign with three
digits has a value but is no escape. -/
theorem unescape_of_surrogates :
    Decodes UnicodeEscape "\\uD83D\\uDE00".toList "😀".toList ∧
      unescape "\\uD83D\\uDE00".toList = none ∧
      (∀ out, ¬ Decodes UnicodeEscape "\\u+041".toList out) ∧
      unescape "\\u+041".toList = some "A".toList := by
  refine ⟨?_, unescape_backslash _, fun _ => not_decodes_sign, ?_⟩
  · have hhigh : IsCodeUnit "uD83D".toList 0xD83D :=
      ⟨_, ⟨0, rfl⟩, rfl, (digitsValue?_zero_eq_some_iff (by decide)).mp (by decide)⟩
    have hlow : IsCodeUnit "uDE00".toList 0xDE00 :=
      ⟨_, ⟨0, rfl⟩, rfl, (digitsValue?_zero_eq_some_iff (by decide)).mp (by decide)⟩
    exact .escape (.unicode (UnicodeEscape.pair hhigh hlow (by decide) (by decide) (by decide)
      (by decide) (by decide))) .nil
  · have hdigits : IsNumeral 16 "041".toList 'A'.toNat :=
      (digitsValue?_zero_eq_some_iff (by decide)).mp (by decide)
    have hsigned : UnicodeRead "u+041".toList 'A' := .signed ⟨0, rfl⟩ rfl hdigits
    exact unescape_of_decodes (.escape (.unicode hsigned) .nil)

end Literals

end JavaUml.Java
