/-
# Encoding texts as literals

A text can be written as the body of a literal in many ways.  For each character on its own, it is
left to the writer whether it stands for itself or is encoded as an escape, and as which one
(`Encodes`).  Only a short octal number depends on what is written next, as a digit behind it would
be taken for one of its own.

However it was encoded, a text is the value of its encoding (`unescape_of_encodes`).
-/
import JavaUml.Proofs.Java.Escapes

namespace JavaUml.Java

/-! ## The choices -/

/-- A text with a body of a literal that it may be written as. -/
inductive Encodes : List Char → List Char → Prop
  | nil : Encodes [] []
  | plain {c : Char} {text body : List Char} : c ≠ '\\' → Encodes text body →
      Encodes (c :: text) (c :: body)
  | mark {mark c : Char} {text body : List Char} : IsMark mark c → Encodes text body →
      Encodes (c :: text) ('\\' :: mark :: body)
  | octal {c : Char} {digits text body : List Char} : digits.length = 3 → c.toNat ≤ 0xFF →
      IsNumeral 8 digits c.toNat → Encodes text body →
      Encodes (c :: text) ('\\' :: (digits ++ body))
  | shortOctal {c : Char} {digits text body : List Char} : digits ≠ [] → digits.length < 3 →
      IsNumeral 8 digits c.toNat → EndsNumeral 8 body → Encodes text body →
      Encodes (c :: text) ('\\' :: (digits ++ body))
  | unicode {c : Char} {chunk text body : List Char} : IsCodeUnit chunk c.toNat →
      Encodes text body → Encodes (c :: text) ('\\' :: (chunk ++ body))

/-! ## Decoding -/

section Decoding

variable {c : Char} {digits rest text body : List Char} {unicode : List Char → Char → Prop}

/-- With three digits, a number up to 255 begins with one of the digits up to three. -/
lemma isEscape_octal (hlength : digits.length = 3) (hc : c.toNat ≤ 0xFF)
    (hn : IsNumeral 8 digits c.toNat) : IsEscape unicode digits c rest := by
  generalize hcode : c.toNat = n at hn
  cases hn with
  | nil => cases hlength
  | @cons first digits d n hd hdigits =>
    have htwo : digits.length = 2 := Nat.succ.inj hlength
    have hle : d ≤ 3 := by
      rw [htwo] at hcode
      omega
    have hroom : octalRoom d = 2 := if_pos hle
    refine .octal hd (hcode ▸ .cons hd hdigits) (Nat.le_of_eq (htwo.trans hroom.symm)) ?_
    rw [htwo, hroom]
    exact fun h => absurd h (Nat.lt_irrefl 2)

/-- With one or two digits, a number ends where no further digit stands. -/
lemma isEscape_shortOctal (hne : digits ≠ []) (hlength : digits.length < 3)
    (hn : IsNumeral 8 digits c.toNat) (hends : EndsNumeral 8 rest) :
    IsEscape unicode digits c rest := by
  generalize hcode : c.toNat = n at hn
  cases hn with
  | nil => exact absurd rfl hne
  | @cons first digits d n hd hdigits =>
    have hone : digits.length ≤ 1 := Nat.le_of_lt_succ (Nat.lt_of_succ_lt_succ hlength)
    have hroom : 1 ≤ octalRoom d := by
      unfold octalRoom
      split <;> decide
    exact .octal hd (hcode ▸ .cons hd hdigits) (Nat.le_trans hone hroom) fun _ => hends

/-- By induction on the text: what was chosen for the first character is an escape, or is plain, in
front of what was chosen for the others. -/
lemma Encodes.decodes (h : Encodes text body) : Decodes UnicodeRead body text := by
  induction h with
  | nil => exact .nil
  | plain hc _ ih => exact .plain hc ih
  | mark hmark _ ih => exact .escape (.mark hmark) ih
  | octal hlength hc hn _ ih => exact .escape (isEscape_octal hlength hc hn) ih
  | shortOctal hne hlength hn hends _ ih =>
    exact .escape (isEscape_shortOctal hne hlength hn hends) ih
  | unicode hunit _ ih => exact .escape (.unicode (.single hunit)) ih

/-- A text is the value of every body that it may be written as. -/
theorem unescape_of_encodes (h : Encodes text body) : unescape body = some text :=
  unescape_of_decodes h.decodes

/-- An octal number with three digits may stand before a digit, and one with two digits before an
eight, which is not octal. -/
theorem unescape_of_encodes_digits :
    Encodes "\"A\n8ÿ7".toList "\\\"\\uu0041\\128\\3777".toList ∧
      unescape "\\\"\\uu0041\\128\\3777".toList = some "\"A\n8ÿ7".toList := by
  have hunit : IsCodeUnit "uu0041".toList 'A'.toNat :=
    ⟨_, ⟨1, rfl⟩, rfl, (digitsValue?_zero_eq_some_iff (by decide)).mp (by decide)⟩
  have hlineFeed : IsNumeral 8 "12".toList '\n'.toNat :=
    (digitsValue?_zero_eq_some_iff (by decide)).mp (by decide)
  have hfull : IsNumeral 8 "377".toList 'ÿ'.toNat :=
    (digitsValue?_zero_eq_some_iff (by decide)).mp (by decide)
  have hends : EndsNumeral 8 "8\\3777".toList := (endsNumeral_cons_iff (by decide)).mpr (by decide)
  have h : Encodes "\"A\n8ÿ7".toList "\\\"\\uu0041\\128\\3777".toList :=
    .mark .quotationMark <| .unicode hunit <|
      .shortOctal (by decide) (by decide) hlineFeed hends <| .plain (by decide) <|
      .octal rfl (by decide) hfull <| .plain (by decide) .nil
  exact ⟨h, unescape_of_encodes h⟩

end Decoding

end JavaUml.Java
