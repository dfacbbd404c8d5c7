/-
# Sets of code points

The character classes of this library are those of the Unicode standard. Each is a list of closed
ranges of code points, and membership is a search through the list.
-/

namespace JavaUml.Text

/-- A set of code points, as the closed ranges that make it up, in increasing order. -/
abbrev Ranges := List (Nat × Nat)

/-- Whether a character lies in one of the ranges. -/
def Ranges.contains (ranges : Ranges) (c : Char) : Bool :=
  ranges.any fun range => range.1 ≤ c.toNat && c.toNat ≤ range.2

end JavaUml.Text
