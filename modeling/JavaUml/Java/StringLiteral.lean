/-
# String literals

Between its quotes, a string literal stands for itself, except for escapes, which start with a
backslash. A literal with an escape that is not valid has no value.
-/
import JavaUml.Text.Digits

namespace JavaUml.Java

/-- The value of digits in a base, behind a value of earlier digits. -/
def digitsValue? (base value : Nat) : List Char → Option Nat
  | [] => some value
  | c :: cs => do digitsValue? base (value * base + (← Text.digitValue? base c)) cs

/-- The value of a hexadecimal number, before which a plus sign may stand. -/
def hexValue? : List Char → Option Nat
  | [] => none
  | '+' :: c :: cs => digitsValue? 16 0 (c :: cs)
  | cs => digitsValue? 16 0 cs

/-- The character with a number, if there is one. -/
def charOf? (n : Nat) : Option Char := if n.isValidChar then some (Char.ofNat n) else none

/-- The characters that are written with a backslash and one other character. -/
def namedEscapes : List (Char × Char) :=
  [('"', '"'), ('\'', '\''), ('\\', '\\'), ('n', '\n'), ('t', '\t'), ('r', '\r'), ('b', '\x08'),
    ('f', '\x0c'), ('s', ' ')]

/-- Reads up to a number of further octal digits. -/
def readOctal (value : Nat) : Nat → List Char → Nat × List Char
  | 0, cs => (value, cs)
  | _, [] => (value, [])
  | count + 1, c :: cs =>
    match Text.digitValue? 8 c with
    | some d => readOctal (value * 8 + d) count cs
    | none => (value, c :: cs)

/-- Reads what follows the backslash of an escape: a name, octal digits for a number up to 255, or
any number of the letter u and four hexadecimal digits. -/
def readEscape : List Char → Option (Char × List Char)
  | [] => none
  | 'u' :: cs =>
    let cs := cs.dropWhile (· == 'u')
    if (cs.take 4).length = 4 then do
      let c ← charOf? (← hexValue? (cs.take 4))
      return (c, cs.drop 4)
    else none
  | c :: cs =>
    match namedEscapes.lookup c, Text.digitValue? 8 c with
    | some named, _ => some (named, cs)
    | none, some d =>
      let (value, rest) := readOctal d (if d ≤ 3 then 2 else 1) cs
      (charOf? value).map (·, rest)
    | none, none => none

theorem length_readOctal (value count : Nat) (cs : List Char) :
    (readOctal value count cs).2.length ≤ cs.length := by
  induction count generalizing value cs with
  | zero => simp [readOctal]
  | succ count ih =>
    cases cs with
    | nil => simp [readOctal]
    | cons c cs =>
      rw [readOctal]
      split
      · exact Nat.le_succ_of_le (ih _ cs)
      · simp

theorem length_dropWhile_le {α : Type} (p : α → Bool) (l : List α) :
    (l.dropWhile p).length ≤ l.length :=
  (List.dropWhile_suffix p).length_le

/-- An escape leaves less than there was. -/
theorem length_readEscape {cs rest : List Char} {c : Char} (h : readEscape cs = some (c, rest)) :
    rest.length < cs.length := by
  unfold readEscape at h
  split at h
  · simp at h
  · rename_i cs
    dsimp only at h
    split at h
    · simp only [Option.bind_eq_bind, Option.bind_eq_some_iff, Option.pure_def,
        Option.some.injEq, Prod.mk.injEq] at h
      obtain ⟨_, _, _, _, _, rfl⟩ := h
      have := length_dropWhile_le (· == 'u') cs
      simp only [List.length_drop, List.length_cons]
      omega
    · simp at h
  · rename_i d cs _
    split at h
    · simp at h
      simp [← h.2]
    · simp only [Option.map_eq_some_iff, Prod.mk.injEq] at h
      obtain ⟨_, _, _, rfl⟩ := h
      exact Nat.lt_succ_of_le (length_readOctal _ _ cs)
    · simp at h

/-- The value of the characters between the quotes of a string literal. -/
def unescape (cs : List Char) : Option (List Char) :=
  match cs with
  | [] => some []
  | '\\' :: cs =>
    match h : readEscape cs with
    | some (c, rest) =>
      have := length_readEscape h
      (unescape rest).map (c :: ·)
    | none => none
  | c :: cs => (unescape cs).map (c :: ·)
termination_by cs.length

/-- Removes the quotes around a text. -/
def unquote : List Char → Option (List Char)
  | '"' :: cs => if cs.getLast? = some '"' then some cs.dropLast else none
  | _ => none

/-- The value of a string literal with its quotes. -/
def literalValue? (literal : String) : Option String := do
  return String.ofList (← unescape (← unquote literal.toList))

end JavaUml.Java
