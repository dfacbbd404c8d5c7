/-
# Binary64 numbers

A finite binary64 number is a sign, a whole number below 2⁵³ and a power of two. Every operation
here is exact arithmetic on whole numbers followed by one rounding to the nearest such number, ties
to the even one. The decimal text of a number is the shortest that reads back as it: a multiple of
the coarsest power of ten that lies among the reals rounding to the number, the nearer one if there
are two.
-/

namespace JavaUml.Decimal

/-- A power of two. -/
def twoTo (n : Nat) : Nat := Nat.pow 2 n

/-- A power of ten. -/
def tenTo (n : Nat) : Nat := Nat.pow 10 n

/-- The number `± mantissa * 2 ^ exponent`, with `mantissa < 2 ^ 53`. -/
structure Binary64 where
  negative : Bool
  mantissa : Nat
  exponent : Int
deriving DecidableEq, Repr, Inhabited

namespace Binary64

/-- The exponent of the smallest positive number. -/
def minExponent : Int := -1074

/-- The exponent of the largest numbers. -/
def maxExponent : Int := 971

/-- Positive zero. -/
def zero : Binary64 := ⟨false, 0, minExponent⟩

/-- Reverses the sign, of zero too. -/
def neg (x : Binary64) : Binary64 := { x with negative := !x.negative }

/-- The quotient of two whole numbers, rounded to the nearest one, ties to the even one. -/
def roundDiv (num den : Nat) : Nat :=
  let q := num / den
  let r := num % den
  if 2 * r < den || (2 * r == den && q % 2 == 0) then q else q + 1

/-- A ratio `num * 2 ^ e / den` as a fraction of whole numbers. -/
def scaled (num den : Nat) (e : Int) : Nat × Nat :=
  if 0 ≤ e then (num * twoTo e.toNat, den) else (num, den * twoTo (-e).toNat)

/-- The exponent with which the leading digit of `num / den` comes to stand in the 53rd place. -/
def leadingExponent (num den : Nat) : Int :=
  let guess : Int := (num.log2 : Int) - (den.log2 : Int) - 52
  let (n, d) := scaled num den (-guess)
  let exact := if n / d < twoTo 52 then guess - 1 else guess
  max exact minExponent

/-- The nearest number to the positive ratio `num / den`, or nothing if that is out of range. -/
def ofRatio? (num den : Nat) : Option Binary64 :=
  if num = 0 then some zero
  else
    let e := leadingExponent num den
    let (n, d) := scaled num den (-e)
    let m := roundDiv n d
    let (m, e) := if m = twoTo 53 then (twoTo 52, e + 1) else (m, e)
    if maxExponent < e then none else some ⟨false, m, e⟩

/-- The nearest number to the product of two positive numbers. -/
def mul? (x y : Binary64) : Option Binary64 :=
  let (n, d) := scaled (x.mantissa * y.mantissa) 1 (x.exponent + y.exponent)
  ofRatio? n d

/-- The nearest number to the quotient of two positive numbers. A quotient by a number of at least
one is never out of range. -/
def div (x y : Binary64) : Binary64 :=
  let (n, d) := scaled x.mantissa y.mantissa (x.exponent - y.exponent)
  (ofRatio? n d).getD zero

/-- The nearest number to a power of ten, up to `10 ^ 308`. -/
def powTen (k : Nat) : Binary64 :=
  (ofRatio? (tenTo k) 1).getD zero

/-! ## Reading a decimal in steps -/

/-- Divides by a number several times, but stops at zero. -/
def divTimes (x y : Binary64) : Nat → Binary64
  | 0 => x
  | n + 1 => if x.mantissa = 0 then zero else divTimes (x.div y) y n

/-- Divides by `10 ^ exponent`: by `10 ^ 308` as often as that leaves a positive exponent, then by
the power of ten that remains. -/
def shrink (x : Binary64) (exponent : Nat) : Binary64 :=
  let times := (exponent - 1) / 308
  let y := divTimes x (powTen 308) times
  if y.mantissa = 0 then zero else y.div (powTen (exponent - 308 * times))

/-- A decimal `significand * 10 ^ exponent`, computed as the significand is read: the significand
is rounded first, then multiplied or divided by a rounded power of ten, and rounded again. Nothing
if the result is out of range. -/
def ofDecimal? (significand : Nat) (exponent : Int) : Option Binary64 := do
  let x ← ofRatio? significand 1
  if exponent < 0 then
    return x.shrink (-exponent).toNat
  else if x.mantissa = 0 then
    return zero
  else if 308 < exponent then
    none
  else
    x.mul? (powTen exponent.toNat)

/-! ## The shortest decimal -/

/-- Twice the distance to the neighbour below, in quarters of the last place, and to the one above:
the reals that round to the number end half way to its neighbours. -/
def lowerQuarters (x : Binary64) : Nat :=
  if x.mantissa = twoTo 52 && x.exponent != minExponent then 1 else 2

/-- Whether `c * 10 ^ k` rounds to the positive number `x`, and if so its distance from `x` in a
unit that depends on `x` and `k` only. -/
def distance? (x : Binary64) (k : Int) (c : Nat) : Option Nat :=
  let point := 4 * c * tenTo k.toNat * twoTo (-x.exponent).toNat
  let unit := twoTo x.exponent.toNat * tenTo (-k).toNat
  let value := 4 * x.mantissa * unit
  let low := value - x.lowerQuarters * unit
  let high := value + 2 * unit
  let inside := if x.mantissa % 2 = 0 then low ≤ point ∧ point ≤ high
    else low < point ∧ point < high
  if c ≠ 0 ∧ inside then some ((point - value) + (value - point)) else none

/-- The multiple of `10 ^ k` nearest to a positive number among those that round to it. -/
def gridPoint? (x : Binary64) (k : Int) : Option Nat :=
  let (n, d) := scaled x.mantissa 1 x.exponent
  let below := (n * tenTo (-k).toNat) / (d * tenTo k.toNat)
  match x.distance? k below, x.distance? k (below + 1) with
  | some a, some b => if a < b || (a == b && below % 2 == 0) then some below else some (below + 1)
  | some _, none => some below
  | none, some _ => some (below + 1)
  | none, none => none

/-- Looks through the decimal grids from the coarsest one on. -/
def shortestFrom (x : Binary64) : Nat → Int → Nat × Int
  | 0, k => (0, k)
  | steps + 1, k =>
    match x.gridPoint? k with
    | some c => (c, k)
    | none => x.shortestFrom steps (k - 1)

/-- The digits and the exponent of the shortest decimal that reads back as a positive number. -/
def shortest (x : Binary64) : Nat × Int :=
  x.shortestFrom 640 309

/-- Digits with a power of ten: written out with a point where the point stands near the digits
(at most 16 places to the right of the first, at most 5 to its left), else with an exponent. -/
def layout (digits : List Char) (k : Int) : List Char :=
  let n : Int := digits.length
  let point := n + k
  if 0 ≤ k ∧ point ≤ 16 then
    digits ++ List.replicate k.toNat '0' ++ ['.', '0']
  else if 0 < point ∧ point ≤ 16 then
    digits.take point.toNat ++ '.' :: digits.drop point.toNat
  else if -5 < point ∧ point ≤ 0 then
    '0' :: '.' :: (List.replicate (-point).toNat '0' ++ digits)
  else
    let fraction := if n = 1 then [] else '.' :: digits.drop 1
    digits.take 1 ++ fraction ++ 'e' :: (toString (point - 1)).toList

/-- The decimal text of a number. It always shows a point or an exponent. -/
def text (x : Binary64) : String :=
  let magnitude :=
    if x.mantissa = 0 then ['0', '.', '0']
    else
      let (c, k) := x.shortest
      layout (Nat.toDigits 10 c) k
  String.ofList (if x.negative then '-' :: magnitude else magnitude)

end Binary64

end JavaUml.Decimal
