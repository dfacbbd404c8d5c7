/-
# Blanks

White space is the Unicode property `White_Space`. A text is blank if it holds nothing else, it is
trimmed by removing the white space at its two ends, and its words are its maximal runs of other
characters.
-/

namespace JavaUml.Text

/-- The Unicode property `White_Space`. -/
def isWhiteSpace (c : Char) : Bool :=
  let n := c.toNat
  (0x09 ≤ n && n ≤ 0x0D) || n == 0x20 || n == 0x85 || n == 0xA0 || n == 0x1680
    || (0x2000 ≤ n && n ≤ 0x200A) || n == 0x2028 || n == 0x2029 || n == 0x202F || n == 0x205F
    || n == 0x3000

/-- Drops the white space at the front. -/
def skipBlank (cs : List Char) : List Char :=
  cs.dropWhile isWhiteSpace

/-- A text without a character other than white space. The empty text is blank. -/
def isBlank (s : String) : Bool :=
  s.toList.all isWhiteSpace

/-- Removes the white space at both ends. -/
def trim (s : String) : String :=
  String.ofList (skipBlank (skipBlank s.toList).reverse).reverse

/-! ## Words -/

/-- Puts a character in front of the first word. -/
def extendFirst (c : Char) : List (List Char) → List (List Char)
  | [] => [[c]]
  | word :: words => (c :: word) :: words

/-- The maximal runs of characters that are not white space, in order. -/
def words : List Char → List (List Char)
  | [] => []
  | [c] => if isWhiteSpace c then [] else [[c]]
  | c :: d :: cs =>
    if isWhiteSpace c then words (d :: cs)
    else if isWhiteSpace d then [c] :: words (d :: cs)
    else extendFirst c (words (d :: cs))

/-- Replaces each run of white space by one space, and removes it at the ends. -/
def collapse (s : String) : String :=
  " ".intercalate ((words s.toList).map String.ofList)

/-- Removes all white space. -/
def squeeze (s : String) : String :=
  String.ofList (s.toList.filter fun c => !isWhiteSpace c)

/-! ## Small laws -/

theorem length_skipBlank_le (cs : List Char) : (skipBlank cs).length ≤ cs.length := by
  induction cs with
  | nil => simp [skipBlank]
  | cons c cs ih =>
    simp only [skipBlank, List.dropWhile_cons] at ih ⊢
    split
    · simp only [List.length_cons]
      omega
    · exact Nat.le_refl _

theorem skipBlank_of_head {c : Char} (cs : List Char) (h : isWhiteSpace c = false) :
    skipBlank (c :: cs) = c :: cs := by
  simp [skipBlank, h]

end JavaUml.Text
