/-
# The tokens of a JSON text

A JSON text is a sequence of brackets, separators, names, numbers and strings with blanks between
them. The sequence ends where the text does, or at the first place that is no token.

Some tokens are complete and yet stand for no value: a string with one half of a surrogate pair, a
number out of range. A reader that does not need the value passes over such a token.
-/
import JavaUml.Json.Number

namespace JavaUml.Json

/-- A place where the text fails: the fault for a reader that needs the value that begins there, and
the fault for one that only looks for its end. -/
structure Break where
  reading : Fault
  skipping : Fault
deriving DecidableEq, Repr

/-- A break that is the same for every reader. -/
def Break.same (fault : Fault) : Break := ⟨fault, fault⟩

/-- A token of a JSON text. -/
inductive Token
  | openArray
  | closeArray
  | openObject
  | closeObject
  | comma
  | colon
  | null
  | boolean (b : Bool)
  | number (n : Number)
  | string (s : String)
  /-- A number out of range. -/
  | noNumber
  /-- A string that is no text. -/
  | noString
  /-- The text fails in a string. -/
  | brokenString (b : Break)
  /-- The text fails elsewhere. -/
  | broken (b : Break)
deriving DecidableEq, Repr

/-! ## Strings -/

/-- A part of a string: a character, or a unit of UTF-16 written by its number. -/
inductive Piece
  | char (c : Char)
  | unit (n : Nat)
deriving DecidableEq, Repr

/-- How the pieces of a string end: at its closing quote, or at a fault. -/
inductive StringEnd
  | closed (rest : List Char)
  | broken (fault : Fault)

/-- The character of an escape of one letter. -/
def namedEscape? : Char → Option Char
  | '"' => some '"'
  | '\\' => some '\\'
  | '/' => some '/'
  | 'b' => some '\x08'
  | 'f' => some '\x0c'
  | 'n' => some '\n'
  | 'r' => some '\r'
  | 't' => some '\t'
  | _ => none

/-- The value of a hexadecimal digit. -/
def hexValue? (c : Char) : Option Nat :=
  if c.isDigit then some (c.toNat - '0'.toNat)
  else if 'a' ≤ c ∧ c ≤ 'f' then some (c.toNat - 'a'.toNat + 10)
  else if 'A' ≤ c ∧ c ≤ 'F' then some (c.toNat - 'A'.toNat + 10)
  else none

/-- The number written by four hexadecimal digits. -/
def hexUnit? (a b c d : Char) : Option Nat := do
  let a ← hexValue? a
  let b ← hexValue? b
  let c ← hexValue? c
  let d ← hexValue? d
  return ((a * 16 + b) * 16 + c) * 16 + d

/-- The fault of an escape by number whose digits are wrong: the text has ended if fewer than four
bytes are left. -/
def digitFault (cs : List Char) : Fault :=
  if (String.ofList cs).utf8ByteSize < 4 then .truncated else .malformed

/-- Puts a piece in front. -/
def pushPiece (p : Piece) (r : List Piece × StringEnd) : List Piece × StringEnd :=
  (p :: r.1, r.2)

/-- The pieces of a string, from behind its opening quote. -/
def readPieces : List Char → List Piece × StringEnd
  | [] => ([], .broken .truncated)
  | '"' :: rest => ([], .closed rest)
  | '\\' :: 'u' :: a :: b :: c :: d :: rest =>
    match hexUnit? a b c d with
    | some n => pushPiece (.unit n) (readPieces rest)
    | none => ([], .broken .malformed)
  | '\\' :: 'u' :: rest => ([], .broken (digitFault rest))
  | '\\' :: e :: rest =>
    match namedEscape? e with
    | some c => pushPiece (.char c) (readPieces rest)
    | none => ([], .broken .malformed)
  | '\\' :: [] => ([], .broken .truncated)
  | c :: rest =>
    if c.toNat < 0x20 then ([], .broken .malformed) else pushPiece (.char c) (readPieces rest)

/-- The first half of a surrogate pair. -/
def isHighSurrogate (n : Nat) : Bool := 0xD800 ≤ n && n ≤ 0xDBFF

/-- The second half of a surrogate pair. -/
def isLowSurrogate (n : Nat) : Bool := 0xDC00 ≤ n && n ≤ 0xDFFF

/-- The character of a surrogate pair. -/
def ofSurrogates (high low : Nat) : Char :=
  Char.ofNat (0x10000 + (high - 0xD800) * 0x400 + (low - 0xDC00))

/-- The text of a list of pieces, if its surrogates come in pairs. -/
def joinPieces : List Piece → Option (List Char)
  | [] => some []
  | .char c :: ps => (joinPieces ps).map (c :: ·)
  | .unit m :: .unit n :: ps =>
    if isHighSurrogate m then
      if isLowSurrogate n then (joinPieces ps).map (ofSurrogates m n :: ·) else none
    else if isLowSurrogate m then none
    else (joinPieces (.unit n :: ps)).map (Char.ofNat m :: ·)
  | .unit n :: ps =>
    if isHighSurrogate n || isLowSurrogate n then none
    else (joinPieces ps).map (Char.ofNat n :: ·)

/-- Drops the first half of a pair at the end, whose second half may still have come. -/
def dropOpenPair (ps : List Piece) : List Piece :=
  match ps.getLast? with
  | some (.unit n) => if isHighSurrogate n then ps.dropLast else ps
  | _ => ps

/-- The token of a string, and what follows it. -/
def stringToken (r : List Piece × StringEnd) : Token × List Char :=
  match r.2 with
  | .closed rest =>
    match joinPieces r.1 with
    | some cs => (.string (String.ofList cs), rest)
    | none => (.noString, rest)
  | .broken fault =>
    match joinPieces (dropOpenPair r.1) with
    | some _ => (.brokenString (.same fault), [])
    | none => (.brokenString ⟨.malformed, fault⟩, [])

/-! ## Names -/

/-- Reads the rest of a name. -/
def readName (t : Token) : List Char → List Char → Token × List Char
  | [], cs => (t, cs)
  | _ :: _, [] => (.broken (.same .truncated), [])
  | n :: name, c :: cs => if n = c then readName t name cs else (.broken (.same .malformed), [])

/-! ## Tokens -/

/-- The blanks of JSON. -/
def isJsonBlank (c : Char) : Bool := c == ' ' || c == '\n' || c == '\t' || c == '\r'

/-- The token of a number, and what follows it. -/
def numberToken (cs : List Char) : Token × List Char :=
  match readNumber cs with
  | .ok (l, rest) =>
    match l.number? with
    | some n => (.number n, rest)
    | none => (.noNumber, rest)
  | .error fault => (.broken ⟨fault, .malformed⟩, [])

/-- The token that starts with a character that is not blank, and what follows it. -/
def readToken (c : Char) (cs : List Char) : Token × List Char :=
  match c with
  | '[' => (.openArray, cs)
  | ']' => (.closeArray, cs)
  | '\x7b' => (.openObject, cs)
  | '\x7d' => (.closeObject, cs)
  | ',' => (.comma, cs)
  | ':' => (.colon, cs)
  | 'n' => readName .null ['u', 'l', 'l'] cs
  | 't' => readName (.boolean true) ['r', 'u', 'e'] cs
  | 'f' => readName (.boolean false) ['a', 'l', 's', 'e'] cs
  | '"' => stringToken (readPieces cs)
  | c =>
    if c = '-' ∨ c.isDigit then numberToken (c :: cs) else (.broken (.same .malformed), [])

theorem length_of_readPieces {cs rest : List Char} (h : (readPieces cs).2 = .closed rest) :
    rest.length < cs.length := by
  fun_induction readPieces cs generalizing rest <;> simp_all [pushPiece] <;> grind

theorem length_readName (t : Token) (name cs : List Char) :
    (readName t name cs).2.length ≤ cs.length := by
  fun_induction readName t name cs with
  | case1 => simp
  | case2 => simp
  | case3 _ _ _ ih => simp; omega
  | case4 => simp

theorem length_stringToken {cs : List Char} :
    (stringToken (readPieces cs)).2.length ≤ cs.length := by
  unfold stringToken
  split
  · rename_i rest h
    have := length_of_readPieces h
    split <;> simp <;> omega
  · split <;> simp

theorem length_numberToken (c : Char) (cs : List Char) :
    (numberToken (c :: cs)).2.length ≤ cs.length := by
  unfold numberToken
  split
  · rename_i l rest h
    have := length_of_readNumber h
    simp only [List.length_cons] at this
    split <;> simp <;> omega
  · simp

/-- A token has at least one character. -/
theorem length_readToken (c : Char) (cs : List Char) :
    (readToken c cs).2.length ≤ cs.length := by
  have name := length_readName
  have string := @length_stringToken cs
  have number := length_numberToken c cs
  unfold readToken
  split <;> simp_all
  split <;> simp_all

/-- The tokens of a text. -/
def tokens : List Char → List Token
  | [] => []
  | c :: cs => if isJsonBlank c then tokens cs else (readToken c cs).1 :: tokens (readToken c cs).2
termination_by cs => cs.length
decreasing_by
  · simp
  · exact Nat.lt_succ_of_le (length_readToken c cs)

end JavaUml.Json
