/-
# Lexing Java

The tokens of a source are found from left to right, the longest one first. A source with a place
where no token starts has no tokens at all.
-/
import JavaUml.Java.Token
import JavaUml.Text.Letters

namespace JavaUml.Java

/-! ## Recognizers

A recognizer removes something at the front of a text, or fails. -/

/-- Removes something at the front of a text. -/
abbrev Recognizer := List Char → Option (List Char)

namespace Recognizer

/-- Removes one character of a sort. -/
def one (p : Char → Bool) : Recognizer
  | [] => none
  | c :: cs => if p c then some cs else none

/-- Removes one of the characters of a text. -/
def oneOf (options : String) : Recognizer := one fun c => options.toList.contains c

/-- Removes the characters of a text. -/
def exactly (text : List Char) : Recognizer := fun cs =>
  if text.isPrefixOf cs then some (cs.drop text.length) else none

/-- Removes something if it is there. -/
def optional (r : Recognizer) : Recognizer := fun cs => some ((r cs).getD cs)

/-- Removes as many characters of a sort as there are. -/
def many (p : Char → Bool) : Recognizer := fun cs => some (cs.dropWhile p)

/-- Removes one thing after the other. -/
def chain : List Recognizer → Recognizer
  | [], cs => some cs
  | r :: rs, cs => do chain rs (← r cs)

/-- Removes what some recognizer removes that leaves the least, if there is one. -/
def longest (rs : List Recognizer) : Recognizer := fun cs =>
  (rs.filterMap fun r => r cs).foldl (fun best rest =>
    match best with
    | none => some rest
    | some least => if rest.length < least.length then some rest else some least) none

end Recognizer

open Recognizer

/-! ## Gaps -/

/-- White space between tokens. -/
def isGapChar (c : Char) : Bool := c == ' ' || (0x09 ≤ c.toNat && c.toNat ≤ 0x0D)

/-- Removes a comment up to its end `*/`. -/
def blockCommentEnd : Recognizer
  | [] => none
  | '*' :: '/' :: cs => some cs
  | _ :: cs => blockCommentEnd cs

/-- Removes a comment. -/
def comment : Recognizer
  | '/' :: '/' :: cs => some (cs.dropWhile (· != '\n'))
  | '/' :: '*' :: cs => blockCommentEnd cs
  | _ => none

/-! ## Words and numbers -/

/-- A character with which a word can start. -/
def isWordStart (c : Char) : Bool := Text.isIdentifierStart c || c == '_' || c == '$'

/-- A character with which a word can go on. The cent sign is one. -/
def isWordChar (c : Char) : Bool :=
  Text.isIdentifierContinue c || c == '_' || c == '$' || c == '\u00A2'

/-- Removes a word. -/
def word : Recognizer := chain [one isWordStart, many isWordChar]

/-- A hexadecimal digit. -/
def isHexDigit (c : Char) : Bool :=
  c.isDigit || ('a' ≤ c && c ≤ 'f') || ('A' ≤ c && c ≤ 'F')

/-- An octal digit. -/
def isOctalDigit (c : Char) : Bool := '0' ≤ c && c ≤ '7'

/-- Removes digits, and underscores with a digit behind them. Underscores that were removed since
the last digit are given back at the end. -/
def moreDigits (p : Char → Bool) (underscores : List Char) : List Char → List Char
  | [] => underscores
  | c :: cs =>
    if p c then moreDigits p [] cs
    else if c = '_' then moreDigits p ('_' :: underscores) cs
    else underscores ++ c :: cs

/-- Removes digits, between which underscores may stand. -/
def digits (p : Char → Bool) : Recognizer := fun cs => moreDigits p [] <$> one p cs

/-- Removes a decimal number without a leading zero, or zero. -/
def wholeDigits : Recognizer
  | '0' :: cs => some cs
  | cs => digits Char.isDigit cs

/-- Removes an exponent. -/
def exponent (marks : String) : Recognizer :=
  chain [oneOf marks, optional (oneOf "+-"), digits Char.isDigit]

/-- Removes the mark of a long number. -/
def longMark : Recognizer := optional (oneOf "lL")

/-- Removes the mark of a floating point number. -/
def floatMark : Recognizer := oneOf "fFdD"

/-- Removes the beginning of a hexadecimal number. -/
def hexMark : Recognizer := chain [oneOf "0", oneOf "xX"]

/-- The forms of numbers. -/
def numberForms : List Recognizer :=
  [chain [wholeDigits, longMark],
    chain [hexMark, digits isHexDigit, longMark],
    chain [oneOf "0", optional (oneOf "oO"), digits isOctalDigit, longMark],
    chain [oneOf "0", oneOf "bB", digits fun c => c == '0' || c == '1', longMark],
    chain [digits Char.isDigit, oneOf ".", optional (digits Char.isDigit), optional (exponent "eE"),
      optional floatMark],
    chain [oneOf ".", digits Char.isDigit, optional (exponent "eE"), optional floatMark],
    chain [wholeDigits, exponent "eE", optional floatMark],
    chain [wholeDigits, optional (exponent "eE"), floatMark],
    chain [hexMark, digits isHexDigit, optional (oneOf "."),
      optional (chain [exponent "pP", optional floatMark])],
    chain [hexMark, optional (digits isHexDigit), oneOf ".", digits isHexDigit,
      optional (chain [exponent "pP", optional floatMark])]]

/-- Removes a number. -/
def number : Recognizer := longest numberForms

/-! ## Strings and characters -/

/-- Removes what follows the backslash of an escape. -/
def escape : List Char → Option (List Char)
  | 'x' :: cs => chain [one isHexDigit, one isHexDigit] cs
  | 'u' :: '\x7b' :: cs => chain [one isHexDigit, many isHexDigit, oneOf "\x7d"] cs
  | 'u' :: cs => chain (List.replicate 4 (one isHexDigit)) cs
  | c :: cs =>
    if isOctalDigit c then
      chain [optional (one isOctalDigit), optional (one isOctalDigit)] cs
    else some cs
  | [] => none

/-- Removes the rest of a string after its opening quote. A string may go over several lines. -/
def stringRest : Recognizer
  | [] => none
  | '"' :: cs => some cs
  | '\\' :: cs =>
    match escape cs with
    | some rest => if rest.length < cs.length + 1 then stringRest rest else none
    | none => none
  | _ :: cs => stringRest cs
termination_by cs => cs.length

/-- Removes the rest of a string between triple quotes. Behind a backslash may stand anything. -/
def textBlockRest : Recognizer
  | [] => none
  | '"' :: '"' :: '"' :: cs => some cs
  | '\\' :: _ :: cs => textBlockRest cs
  | _ :: cs => textBlockRest cs

/-- Removes characters up to a single quote. -/
def characterRest : Recognizer
  | [] => none
  | '\'' :: cs => some cs
  | '\\' :: _ :: cs => characterRest cs
  | c :: cs => if c == '\n' || c == '\\' then none else characterRest cs

/-- Removes a character between single quotes. It may be more than one. -/
def character : Recognizer
  | '\'' :: '\'' :: _ => none
  | '\'' :: cs => characterRest cs
  | _ => none

/-! ## Symbols -/

/-- The symbols, longer ones before those that they start with. -/
def symbols : List String :=
  ["@interface", "<<=", "...", "::", "->", "++", "--", "&&", "||", "==", "!=", "<=", "<<", "+=",
    "-=", "*=", "/=", "&=", "|=", "^=", "%=", "(", ")", "\x7b", "\x7d", "[", "]", ";", ",", ".",
    "@", "=", ">", "<", "!", "~", "?", ":", "+", "-", "*", "/", "&", "|", "^", "%"]

/-- Removes a symbol. -/
def symbol : Recognizer := fun cs => symbols.findSome? fun s => exactly s.toList cs

/-! ## Tokens -/

/-- A piece of a source: a piece of a gap, or a token. -/
inductive Piece
  | gap (t : Trivia)
  | token (kind : TokenKind) (text : String)

/-- The sorts of pieces with what removes them; the first one that fits is taken. -/
def pieces : List ((String → Piece) × Recognizer) :=
  [(.gap ∘ .blank, chain [one isGapChar, many isGapChar]),
    (.gap ∘ .comment, comment),
    (.token .word, word),
    (.token .number, number),
    (.token .textBlock, chain [exactly ['"', '"', '"'], textBlockRest]),
    (.token .string, chain [exactly ['"'], stringRest]),
    (.token .character, character),
    (.token .symbol, symbol)]

/-- What stands in front of the rest of a text. -/
def consumed (cs rest : List Char) : String := String.ofList (cs.take (cs.length - rest.length))

/-- The first piece of a text. -/
def readPiece (cs : List Char) : Option (Piece × List Char) :=
  pieces.findSome? fun (make, recognizer) =>
    (recognizer cs).map fun rest => (make (consumed cs rest), rest)

/-- The tokens of a text, behind a gap. -/
def tokensAfter (gap : List Trivia) (cs : List Char) : Option (List Token) :=
  if cs.isEmpty then some []
  else
    match readPiece cs with
    | none => none
    | some (piece, rest) =>
      if rest.length < cs.length then
        match piece with
        | .gap t => tokensAfter (gap ++ [t]) rest
        | .token kind text => (tokensAfter [] rest).map (⟨gap, kind, text⟩ :: ·)
      else none
termination_by cs.length

/-- Drops the byte order mark at the beginning of a text. -/
def dropMark : List Char → List Char
  | '\uFEFF' :: cs => cs
  | cs => cs

/-- The tokens of a source. -/
def lex (source : String) : Option (List Token) := tokensAfter [] (dropMark source.toList)

end JavaUml.Java
