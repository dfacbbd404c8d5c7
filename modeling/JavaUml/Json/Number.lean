/-
# Numbers in JSON

A number literal without fraction and exponent denotes a whole number if it fits 64 bits (unsigned
if positive, signed if negative), and every other literal a binary64 number. The significand is read
as long as it fits 64 bits; digits of the whole part that come after that count as powers of ten,
and digits of the fraction that come after it are dropped. Minus zero is a binary64 number.
-/
import JavaUml.Decimal.Binary64
import JavaUml.Json.Fault

namespace JavaUml.Json

open JavaUml.Decimal

/-- A number: at least zero, below zero (`negative n` is `-n`), or binary64. -/
inductive Number
  | natural (n : Nat)
  | negative (n : Nat)
  | binary (x : Binary64)
deriving DecidableEq, Repr, Inhabited

/-- The decimal text of a number. -/
def Number.text : Number → String
  | .natural n => toString n
  | .negative n => "-" ++ toString n
  | .binary x => x.text

/-! ## The parts of a literal -/

/-- The parts of a number literal: sign, digits of the whole part, digits of the fraction if there
is one, and the sign and the digits of the exponent if there is one. -/
structure NumberLiteral where
  negative : Bool
  whole : List Char
  fraction : Option (List Char)
  exponent : Option (Bool × List Char)

/-- Reads one digit or more. -/
def readDigits (cs : List Char) : Except Fault (List Char × List Char) :=
  match cs.takeWhile Char.isDigit with
  | [] => .error (.missing cs)
  | d :: ds => .ok (d :: ds, cs.dropWhile Char.isDigit)

/-- Reads the whole part. One of more than one digit does not start with 0. -/
def readWhole : List Char → Except Fault (List Char × List Char)
  | '0' :: c :: cs => if c.isDigit then .error .malformed else .ok (['0'], c :: cs)
  | cs => readDigits cs

/-- Reads a fraction, if there is one. -/
def readFraction : List Char → Except Fault (Option (List Char) × List Char)
  | '.' :: cs => (readDigits cs).map fun r => (some r.1, r.2)
  | cs => .ok (none, cs)

/-- Reads the sign of an exponent: whether it is below zero. -/
def readExponentSign : List Char → Bool × List Char
  | '+' :: cs => (false, cs)
  | '-' :: cs => (true, cs)
  | cs => (false, cs)

/-- Reads an exponent, if there is one. -/
def readExponent : List Char → Except Fault (Option (Bool × List Char) × List Char)
  | [] => .ok (none, [])
  | c :: cs =>
    if c = 'e' ∨ c = 'E' then
      let (below, cs) := readExponentSign cs
      (readDigits cs).map fun r => (some (below, r.1), r.2)
    else .ok (none, c :: cs)

/-- Reads a literal without its sign. -/
def readUnsigned (negative : Bool) (cs : List Char) :
    Except Fault (NumberLiteral × List Char) := do
  let (whole, cs) ← readWhole cs
  let (fraction, cs) ← readFraction cs
  let (exponent, cs) ← readExponent cs
  return (⟨negative, whole, fraction, exponent⟩, cs)

/-- Reads a number literal, and returns what follows it. -/
def readNumber : List Char → Except Fault (NumberLiteral × List Char)
  | '-' :: cs => readUnsigned true cs
  | cs => readUnsigned false cs

/-! ## The value of a literal -/

/-- The first whole number beyond 64 bits. -/
def wordLimit : Nat := Decimal.twoTo 64

/-- The value of a decimal digit. -/
def digitValue (c : Char) : Nat := c.toNat - '0'.toNat

/-- Extends a significand by digits as long as it fits 64 bits. The second part is what remains. -/
def extendSignificand (n : Nat) : List Char → Nat × List Char
  | [] => (n, [])
  | d :: ds =>
    let m := 10 * n + digitValue d
    if m < wordLimit then extendSignificand m ds else (n, d :: ds)

/-- The number written by a list of digits. -/
def digitsValue (ds : List Char) : Nat :=
  ds.foldl (fun n d => 10 * n + digitValue d) 0

/-- An exponent needs more than 31 bits. -/
def exponentLimit : Nat := Decimal.twoTo 31

/-- The binary64 number of a literal, or nothing if it is out of range. -/
def NumberLiteral.binary? (l : NumberLiteral) : Option Binary64 := do
  let (n, dropped) := extendSignificand 0 l.whole
  let fraction := l.fraction.getD []
  let (n, ignored) := extendSignificand n fraction
  let shift : Int := (dropped.length : Int) - ((fraction.length : Int) - (ignored.length : Int))
  let x ← match l.exponent with
    | none => Binary64.ofDecimal? n shift
    | some (below, digits) =>
      let e := digitsValue digits
      if exponentLimit ≤ e then
        if n ≠ 0 ∧ below = false then none else some Binary64.zero
      else Binary64.ofDecimal? n (if below then shift - (e : Int) else shift + (e : Int))
  return if l.negative then x.neg else x

/-- The number that a literal denotes, or nothing if it is out of range. -/
def NumberLiteral.number? (l : NumberLiteral) : Option Number :=
  let n := digitsValue l.whole
  if l.fraction.isSome ∨ l.exponent.isSome ∨ wordLimit ≤ n then l.binary?.map .binary
  else if l.negative = false then some (.natural n)
  else if 0 < n ∧ n ≤ Decimal.twoTo 63 then some (.negative n)
  else l.binary?.map .binary

/-! ## A literal takes up part of the text -/

theorem length_of_readDigits {cs ds rest : List Char} (h : readDigits cs = .ok (ds, rest)) :
    rest.length < cs.length := by
  unfold readDigits at h
  split at h
  · cases h
  · rename_i d ds' hd
    cases h
    have := congrArg List.length (List.takeWhile_append_dropWhile (p := Char.isDigit) (l := cs))
    rw [hd] at this
    simp at this
    omega

theorem length_of_readWhole {cs ds rest : List Char} (h : readWhole cs = .ok (ds, rest)) :
    rest.length < cs.length := by
  unfold readWhole at h
  split at h
  · split at h
    · cases h
    · cases h; simp
  · exact length_of_readDigits h

theorem length_of_readFraction {cs rest : List Char} {f : Option (List Char)}
    (h : readFraction cs = .ok (f, rest)) : rest.length ≤ cs.length := by
  unfold readFraction at h
  split at h
  · rename_i cs'
    cases hd : readDigits cs' with
    | error e => simp [hd, Except.map] at h
    | ok r =>
      simp only [hd, Except.map, Except.ok.injEq, Prod.mk.injEq] at h
      have := @length_of_readDigits _ _ r.2 hd
      simp [← h.2]
      omega
  · cases h; simp

theorem length_readExponentSign (cs : List Char) :
    (readExponentSign cs).2.length ≤ cs.length := by
  unfold readExponentSign
  split <;> simp

theorem length_of_readExponent {cs rest : List Char} {e : Option (Bool × List Char)}
    (h : readExponent cs = .ok (e, rest)) : rest.length ≤ cs.length := by
  unfold readExponent at h
  split at h
  · cases h; simp
  · rename_i c cs'
    split at h
    · have hs := length_readExponentSign cs'
      cases hd : readDigits (readExponentSign cs').2 with
      | error e => simp [hd, Except.map] at h
      | ok r =>
        simp only [hd, Except.map, Except.ok.injEq, Prod.mk.injEq] at h
        have := @length_of_readDigits _ _ r.2 hd
        simp [← h.2]
        omega
    · cases h; simp

theorem length_of_readUnsigned {negative : Bool} {cs rest : List Char} {l : NumberLiteral}
    (h : readUnsigned negative cs = .ok (l, rest)) : rest.length < cs.length := by
  unfold readUnsigned at h
  cases hw : readWhole cs with
  | error e => simp [hw, bind, Except.bind] at h
  | ok w =>
    cases hf : readFraction w.2 with
    | error e => simp [hw, hf, bind, Except.bind] at h
    | ok f =>
      cases he : readExponent f.2 with
      | error e => simp [hw, hf, he, bind, Except.bind] at h
      | ok e =>
        simp only [hw, hf, he, bind, Except.bind, pure, Except.pure, Except.ok.injEq,
          Prod.mk.injEq] at h
        have hw' := @length_of_readWhole _ _ w.2 hw
        have hf' := @length_of_readFraction _ f.2 _ hf
        have he' := @length_of_readExponent _ e.2 _ he
        rw [← h.2]
        omega

/-- A literal has at least one character. -/
theorem length_of_readNumber {cs rest : List Char} {l : NumberLiteral}
    (h : readNumber cs = .ok (l, rest)) : rest.length < cs.length := by
  unfold readNumber at h
  split at h
  · have := length_of_readUnsigned h
    simp
    omega
  · exact length_of_readUnsigned h

end JavaUml.Json
