/-
# Tokens of a Java source

A source is a sequence of tokens with gaps before them. A gap holds white space and comments, which
have no part in the grammar, but belong to the text of whatever they stand in.
-/

namespace JavaUml.Java

/-- A piece of a gap. -/
inductive Trivia
  | blank (text : String)
  | comment (text : String)
deriving DecidableEq, Repr

/-- The text of a piece of a gap. -/
def Trivia.text : Trivia → String
  | blank text => text
  | comment text => text

/-- Whether a piece of a gap is a comment. -/
def Trivia.isComment : Trivia → Bool
  | blank _ => false
  | comment _ => true

/-- The sort of a token. -/
inductive TokenKind
  /-- An identifier or a keyword. -/
  | word
  | number
  | string
  /-- A string between triple quotes. -/
  | textBlock
  | character
  /-- An operator, a bracket or a separator. A `>` always stands alone. -/
  | symbol
deriving DecidableEq, Repr

/-- A token with the gap before it. -/
structure Token where
  gap : List Trivia
  kind : TokenKind
  text : String
deriving DecidableEq, Repr

/-- The gap before a token and the token itself. -/
def Token.fullText (t : Token) : String := String.join (t.gap.map Trivia.text) ++ t.text

/-- Consecutive tokens of a source. -/
abbrev Fragment := List Token

/-- The source text of a fragment, from its first token to its last. -/
def Fragment.text : Fragment → String
  | [] => ""
  | t :: ts => t.text ++ String.join (ts.map Token.fullText)

end JavaUml.Java
