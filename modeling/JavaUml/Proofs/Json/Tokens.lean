/-
# The tokens of a written value

What is written of a value has its tokens, on one line and on many: brackets, separators and blanks
are read as such, a string is read up to its closing quote, and a number up to the first character
that cannot belong to it (`Whole.tokens_write`).  Numbers are whole here: of a binary number more
than its value would have to be kept.

The tokens also say how deep a text nests arrays and objects (`textNesting`): as deep as the value
that was written.
-/
import JavaUml.Json.Printer
import JavaUml.Json.Token
import JavaUml.Proofs.Json.Depth
import Mathlib.Tactic.IntervalCases

namespace JavaUml.Json

/-! ## Strings -/

/-- The control characters that are written by a letter. -/
def letteredControls : List Char := ['\x08', '\x0c', '\n', '\r', '\t']

/-- The piece of a string that a written character is read as. -/
def pieceOf (c : Char) : Piece :=
  if c.toNat < 0x20 ∧ c ∉ letteredControls then .unit c.toNat else .char c

lemma hexUnit?_hexDigit {n : ℕ} (hn : n < 0x20) :
    hexUnit? '0' '0' (hexDigit (n / 16)) (hexDigit (n % 16)) = some n := by
  interval_cases n <;> decide

lemma readPieces_escapeChar (c : Char) (rest : List Char) :
    readPieces (escapeChar c ++ rest) = pushPiece (pieceOf c) (readPieces rest) := by
  by_cases hl : c ∈ letteredControls
  · -- each of them has its own letter
    simp only [letteredControls, List.mem_cons, List.not_mem_nil, or_false] at hl
    rcases hl with rfl | rfl | rfl | rfl | rfl <;> rfl
  · have hne : c ≠ '\x08' ∧ c ≠ '\x0c' ∧ c ≠ '\n' ∧ c ≠ '\r' ∧ c ≠ '\t' := by
      simpa [letteredControls] using hl
    obtain ⟨h₁, h₂, h₃, h₄, h₅⟩ := hne
    by_cases hquote : c = '"'
    · subst hquote
      rfl
    by_cases hslash : c = '\\'
    · subst hslash
      rfl
    simp only [escapeChar, hquote, hslash, h₁, h₂, h₃, h₄, h₅, if_false, pieceOf, hl,
      not_false_eq_true, and_true]
    by_cases hc : c.toNat < 0x20
    · rw [if_pos hc, if_pos hc]
      simp only [List.cons_append, List.nil_append, readPieces, hexUnit?_hexDigit hc]
    · rw [if_neg hc, if_neg hc]
      simp only [List.cons_append, List.nil_append]
      rw [readPieces]
      · rw [if_neg hc]
      all_goals simp_all

lemma readPieces_flatMap (cs rest : List Char) :
    readPieces (cs.flatMap escapeChar ++ '"' :: rest) = (cs.map pieceOf, .closed rest) := by
  induction cs with
  | nil => rfl
  | cons c cs ih =>
    rw [List.flatMap_cons, List.append_assoc, readPieces_escapeChar, ih]
    rfl

/-- Characters below U+0020 are no halves of surrogate pairs. -/
lemma joinPieces_unit {n : ℕ} (hn : n < 0x20) (ps : List Piece) :
    joinPieces (.unit n :: ps) = (joinPieces ps).map (Char.ofNat n :: ·) := by
  have hhigh : isHighSurrogate n = false := by
    simp [isHighSurrogate]
    omega
  have hlow : isLowSurrogate n = false := by
    simp [isLowSurrogate]
    omega
  cases ps with
  | nil => simp [joinPieces, hhigh, hlow]
  | cons p ps => cases p <;> simp [joinPieces, hhigh, hlow]

lemma joinPieces_map (cs : List Char) : joinPieces (cs.map pieceOf) = some cs := by
  induction cs with
  | nil => rfl
  | cons c cs ih =>
    rw [List.map_cons, pieceOf]
    split
    · next hc =>
      rw [joinPieces_unit hc.1, ih, Char.ofNat_toNat]
      rfl
    · rw [joinPieces, ih]
      rfl

/-! ## Tokens of one kind -/

lemma tokens_of_not_blank {c : Char} (hc : isJsonBlank c = false) (cs : List Char) :
    tokens (c :: cs) = (readToken c cs).1 :: tokens (readToken c cs).2 := by
  rw [tokens, if_neg (by simp [hc])]

@[simp] lemma tokens_nil : tokens [] = [] := by
  rw [tokens]

@[simp] lemma tokens_openArray (cs : List Char) : tokens ('[' :: cs) = .openArray :: tokens cs :=
  tokens_of_not_blank rfl cs

@[simp] lemma tokens_closeArray (cs : List Char) : tokens (']' :: cs) = .closeArray :: tokens cs :=
  tokens_of_not_blank rfl cs

@[simp] lemma tokens_openObject (cs : List Char) :
    tokens ('\x7b' :: cs) = .openObject :: tokens cs := tokens_of_not_blank rfl cs

@[simp] lemma tokens_closeObject (cs : List Char) :
    tokens ('\x7d' :: cs) = .closeObject :: tokens cs := tokens_of_not_blank rfl cs

@[simp] lemma tokens_comma (cs : List Char) : tokens (',' :: cs) = .comma :: tokens cs :=
  tokens_of_not_blank rfl cs

@[simp] lemma tokens_colon (cs : List Char) : tokens (':' :: cs) = .colon :: tokens cs :=
  tokens_of_not_blank rfl cs

@[simp] lemma tokens_blank (cs : List Char) : tokens (' ' :: cs) = tokens cs := by
  rw [tokens]
  rfl

@[simp] lemma tokens_newLine (level : ℕ) (cs : List Char) :
    tokens (newLine level ++ cs) = tokens cs := by
  have hblanks : ∀ n, tokens (List.replicate n ' ' ++ cs) = tokens cs := by
    intro n
    induction n with
    | zero => rfl
    | succ n ih => rw [List.replicate_succ, List.cons_append, tokens_blank, ih]
  rw [newLine, List.cons_append, tokens]
  exact hblanks (2 * level)

@[simp] lemma tokens_null (cs : List Char) : tokens ("null".toList ++ cs) = .null :: tokens cs :=
  tokens_of_not_blank rfl _

@[simp] lemma tokens_true (cs : List Char) :
    tokens ("true".toList ++ cs) = .boolean true :: tokens cs := tokens_of_not_blank rfl _

@[simp] lemma tokens_false (cs : List Char) :
    tokens ("false".toList ++ cs) = .boolean false :: tokens cs := tokens_of_not_blank rfl _

/-- A string is read as a whole, whatever its characters are. -/
@[simp] lemma tokens_stringChars (s : String) (cs : List Char) :
    tokens (stringChars s ++ cs) = .string s :: tokens cs := by
  have hread : readToken '"' (s.toList.flatMap escapeChar ++ '"' :: cs) = (.string s, cs) := by
    simp [readToken, stringToken, readPieces_flatMap, joinPieces_map]
  rw [stringChars, List.cons_append, List.append_assoc, List.singleton_append,
    tokens_of_not_blank rfl, hread]

/-! ## Whole numbers -/

/-- No character at the front of a text can belong to a number before it. -/
def StopsNumber (rest : List Char) : Prop :=
  ∀ c ∈ rest.head?, c.isDigit = false ∧ c ≠ '.' ∧ c ≠ 'e' ∧ c ≠ 'E'

lemma stopsNumber_nil : StopsNumber [] := nofun

lemma stopsNumber_cons {c : Char} (cs : List Char)
    (h : c.isDigit = false ∧ c ≠ '.' ∧ c ≠ 'e' ∧ c ≠ 'E') : StopsNumber (c :: cs) := by
  intro d hd
  rwa [← Option.some.inj hd]

lemma toList_toString (n : ℕ) : (toString n).toList = Nat.toDigits 10 n := Nat.toList_repr

lemma isDigit_of_mem_toDigits {n : ℕ} {c : Char} (h : c ∈ Nat.toDigits 10 n) :
    c.isDigit = true := Nat.isDigit_of_mem_toDigits (by decide) (by decide) h

lemma digitsValue_toDigits (n : ℕ) : digitsValue (Nat.toDigits 10 n) = n := by
  have h := Nat.ofDigitChars_ten_toDigits (n := n)
  rwa [Nat.ofDigitChars_eq_foldl] at h

lemma head?_toDigits_append (n : ℕ) (rest : List Char) :
    (Nat.toDigits 10 n ++ rest).head? = (Nat.toDigits 10 n).head? := by
  rw [List.head?_append, Option.or_of_isSome]
  simp

/-- Only zero begins with the digit 0. -/
lemma eq_zero_of_head?_toDigits {n : ℕ} (h : (Nat.toDigits 10 n).head? = some '0') : n = 0 := by
  induction n using Nat.strongRecOn with
  | _ n ih =>
    rcases Nat.lt_or_ge n 10 with hlt | hge
    · rw [Nat.toDigits_of_lt_base hlt] at h
      simpa using h
    · -- the digits before the last one are those of the tenth part, which is not zero
      rw [Nat.toDigits_of_base_le (by decide) hge, head?_toDigits_append] at h
      have hzero := ih (n / 10) (by omega) h
      omega

lemma readDigits_append {ds rest : List Char} (hne : ds ≠ []) (hds : ∀ c ∈ ds, c.isDigit = true)
    (hrest : StopsNumber rest) : readDigits (ds ++ rest) = .ok (ds, rest) := by
  have hstop : ∀ c ∈ rest.head?, c.isDigit = false := fun c hc => (hrest c hc).1
  have htake : (ds ++ rest).takeWhile Char.isDigit = ds := by
    rw [List.takeWhile_append_of_pos hds]
    cases rest with
    | nil => simp
    | cons c rest => simp [hstop c rfl]
  have hdrop : (ds ++ rest).dropWhile Char.isDigit = rest := by
    rw [List.dropWhile_append_of_pos hds]
    cases rest with
    | nil => simp
    | cons c rest => simp [hstop c rfl]
  unfold readDigits
  rw [htake, hdrop]
  cases ds with
  | nil => exact absurd rfl hne
  | cons d ds => rfl

lemma readWhole_toDigits (n : ℕ) {rest : List Char} (hrest : StopsNumber rest) :
    readWhole (Nat.toDigits 10 n ++ rest) = .ok (Nat.toDigits 10 n, rest) := by
  have hread := readDigits_append Nat.toDigits_ne_nil
    (fun c hc => isDigit_of_mem_toDigits (n := n) hc) hrest
  unfold readWhole
  split
  · next c cs hcs =>
    -- a number of more than one digit does not begin with 0, so that this is zero
    have hhead : (Nat.toDigits 10 n).head? = some '0' := by
      rw [← head?_toDigits_append n rest, hcs]
      rfl
    obtain rfl := eq_zero_of_head?_toDigits hhead
    rw [Nat.toDigits_zero, List.singleton_append, List.cons.injEq] at hcs
    obtain ⟨-, rfl⟩ := hcs
    simp [(hrest c rfl).1]
  · exact hread

lemma readFraction_of_stops {rest : List Char} (h : StopsNumber rest) :
    readFraction rest = .ok (none, rest) := by
  unfold readFraction
  split
  · exact absurd rfl (h '.' rfl).2.1
  · rfl

lemma readExponent_of_stops {rest : List Char} (h : StopsNumber rest) :
    readExponent rest = .ok (none, rest) := by
  unfold readExponent
  split
  · rfl
  · next c cs =>
    obtain ⟨-, -, hlower, hupper⟩ := h c rfl
    rw [if_neg (by simp [hlower, hupper])]

/-- A whole number of 64 bits is read as it is. -/
lemma numberToken_toDigits {n : ℕ} (hn : n < wordLimit) {rest : List Char}
    (hrest : StopsNumber rest) :
    numberToken (Nat.toDigits 10 n ++ rest) = (.number (.natural n), rest) := by
  have hunsigned : readUnsigned false (Nat.toDigits 10 n ++ rest) =
      .ok (⟨false, Nat.toDigits 10 n, none, none⟩, rest) := by
    simp only [readUnsigned, readWhole_toDigits n hrest, readFraction_of_stops hrest,
      readExponent_of_stops hrest, bind, Except.bind, pure, Except.pure]
  have hread : readNumber (Nat.toDigits 10 n ++ rest) =
      readUnsigned false (Nat.toDigits 10 n ++ rest) := by
    unfold readNumber
    split
    · next cs hcs =>
      -- a digit is no sign
      have hminus : '-' ∈ (Nat.toDigits 10 n).head? := by
        rw [← head?_toDigits_append n rest, hcs]
        rfl
      exact absurd (isDigit_of_mem_toDigits (List.mem_of_mem_head? hminus)) (by decide)
    · rfl
  have hvalue : NumberLiteral.number? ⟨false, Nat.toDigits 10 n, none, none⟩ =
      some (.natural n) := by
    simp [NumberLiteral.number?, digitsValue_toDigits, Nat.not_le.mpr hn]
  rw [numberToken, hread, hunsigned]
  simp only [hvalue]

lemma readToken_of_isDigit {c : Char} (h : c.isDigit = true) (cs : List Char) :
    readToken c cs = numberToken (c :: cs) := by
  unfold readToken
  split
  all_goals first
    | exact absurd h (by decide)
    | rw [if_pos (.inr h)]

lemma tokens_toDigits {n : ℕ} (hn : n < wordLimit) {cs : List Char} (hcs : StopsNumber cs) :
    tokens (Nat.toDigits 10 n ++ cs) = .number (.natural n) :: tokens cs := by
  have hnumber := numberToken_toDigits hn hcs
  cases hd : Nat.toDigits 10 n with
  | nil => exact absurd hd Nat.toDigits_ne_nil
  | cons d ds =>
    have hdigit : d.isDigit = true := isDigit_of_mem_toDigits (hd ▸ List.mem_cons_self)
    have hblank : isJsonBlank d = false := by
      by_contra hb
      simp only [isJsonBlank, Bool.not_eq_false, Bool.or_eq_true, beq_iff_eq] at hb
      rcases hb with ((rfl | rfl) | rfl) | rfl <;> exact absurd hdigit (by decide)
    rw [hd] at hnumber
    rw [List.cons_append, tokens_of_not_blank hblank, readToken_of_isDigit hdigit,
      ← List.cons_append, hnumber]

/-! ## Values -/

/-- All numbers in a value are whole numbers of 64 bits. -/
inductive Whole : Json → Prop
  | null : Whole .null
  | boolean (b : Bool) : Whole (.boolean b)
  | number {n : ℕ} : n < wordLimit → Whole (.number (.natural n))
  | string (s : String) : Whole (.string s)
  | array {items : List Json} : (∀ item ∈ items, Whole item) → Whole (.array items)
  | object {members : List (String × Json)} :
      (∀ member ∈ members, Whole member.2) → Whole (.object members)

lemma whole_array_iff {items : List Json} : (array items).Whole ↔ ∀ item ∈ items, item.Whole :=
  ⟨fun | .array h => h, .array⟩

lemma whole_object_iff {members : List (String × Json)} :
    (object members).Whole ↔ ∀ member ∈ members, member.2.Whole := ⟨fun | .object h => h, .object⟩

mutual

/-- The tokens of a value. -/
def valueTokens : Json → List Token
  | .null => [.null]
  | .boolean b => [.boolean b]
  | .number n => [.number n]
  | .string s => [.string s]
  | .array items => .openArray :: (itemTokens items ++ [.closeArray])
  | .object members => .openObject :: (memberTokens members ++ [.closeObject])

/-- The tokens of the items of an array, with commas between them. -/
def itemTokens : List Json → List Token
  | [] => []
  | [item] => valueTokens item
  | item :: next :: items => valueTokens item ++ .comma :: itemTokens (next :: items)

/-- The tokens of the members of an object, with commas between them. -/
def memberTokens : List (String × Json) → List Token
  | [] => []
  | [(key, value)] => .string key :: .colon :: valueTokens value
  | (key, value) :: next :: members =>
    .string key :: .colon :: (valueTokens value ++ .comma :: memberTokens (next :: members))

end

/-- Some characters are read as some tokens, whatever follows that no number can be continued by. -/
def Spells (cs : List Char) (ts : List Token) : Prop :=
  ∀ rest, StopsNumber rest → tokens (cs ++ rest) = ts ++ tokens rest

lemma stopsNumber_comma (cs : List Char) : StopsNumber (',' :: cs) :=
  stopsNumber_cons cs (by decide)

lemma stopsNumber_closeArray (cs : List Char) : StopsNumber (']' :: cs) :=
  stopsNumber_cons cs (by decide)

lemma stopsNumber_closeObject (cs : List Char) : StopsNumber ('\x7d' :: cs) :=
  stopsNumber_cons cs (by decide)

lemma stopsNumber_newLine (level : ℕ) (cs : List Char) : StopsNumber (newLine level ++ cs) :=
  stopsNumber_cons _ (by decide)

/-! ### On one line -/

lemma spells_compactItems {items : List Json}
    (h : ∀ item ∈ items, Spells item.compactChars item.valueTokens) :
    Spells (compactItems items) (itemTokens items) := by
  intro rest hrest
  induction items with
  | nil => rfl
  | cons item items ih =>
    rw [List.forall_mem_cons] at h
    cases items with
    | nil => exact h.1 rest hrest
    | cons next items =>
      rw [compactItems, itemTokens, List.append_assoc, List.cons_append,
        h.1 _ (stopsNumber_comma _), tokens_comma, ih h.2, List.append_assoc, List.cons_append]

lemma spells_compactMembers {members : List (String × Json)}
    (h : ∀ member ∈ members, Spells member.2.compactChars member.2.valueTokens) :
    Spells (compactMembers members) (memberTokens members) := by
  intro rest hrest
  induction members with
  | nil => rfl
  | cons member members ih =>
    obtain ⟨key, value⟩ := member
    rw [List.forall_mem_cons] at h
    have hvalue : Spells value.compactChars value.valueTokens := h.1
    cases members with
    | nil =>
      rw [compactMembers, memberTokens, List.append_assoc, tokens_stringChars, List.cons_append,
        tokens_colon, hvalue rest hrest]
      rfl
    | cons next members =>
      rw [compactMembers, memberTokens, List.append_assoc, tokens_stringChars, List.cons_append,
        tokens_colon, List.append_assoc, List.cons_append, hvalue _ (stopsNumber_comma _),
        tokens_comma, ih h.2]
      simp

/-- A value on one line has its tokens. -/
lemma Whole.spells_compactChars {v : Json} (h : v.Whole) : Spells v.compactChars v.valueTokens := by
  induction h with
  | null => exact fun rest _ => tokens_null rest
  | boolean b =>
    cases b with
    | false => exact fun rest _ => tokens_false rest
    | true => exact fun rest _ => tokens_true rest
  | @number n hn =>
    intro rest hrest
    rw [compactChars, Number.text, toList_toString]
    exact tokens_toDigits hn hrest
  | string s => exact fun rest _ => tokens_stringChars s rest
  | @array items _ ih =>
    intro rest _
    rw [compactChars, List.cons_append, tokens_openArray, List.append_assoc,
      List.singleton_append, spells_compactItems ih _ (stopsNumber_closeArray _)]
    simp [valueTokens]
  | @object members _ ih =>
    intro rest _
    rw [compactChars, List.cons_append, tokens_openObject, List.append_assoc,
      List.singleton_append, spells_compactMembers ih _ (stopsNumber_closeObject _)]
    simp [valueTokens]

/-! ### On many lines -/

lemma spells_prettyItems {items : List Json} {level : ℕ}
    (h : ∀ item ∈ items, Spells (item.prettyChars level) item.valueTokens) :
    Spells (prettyItems level items) (itemTokens items) := by
  intro rest hrest
  induction items with
  | nil => rfl
  | cons item items ih =>
    rw [List.forall_mem_cons] at h
    cases items with
    | nil =>
      rw [prettyItems, List.append_assoc, tokens_newLine]
      exact h.1 rest hrest
    | cons next items =>
      rw [prettyItems, itemTokens, List.append_assoc, List.append_assoc, tokens_newLine,
        List.cons_append, h.1 _ (stopsNumber_comma _), tokens_comma, ih h.2, List.append_assoc,
        List.cons_append]

lemma spells_prettyMembers {members : List (String × Json)} {level : ℕ}
    (h : ∀ member ∈ members, Spells (member.2.prettyChars level) member.2.valueTokens) :
    Spells (prettyMembers level members) (memberTokens members) := by
  intro rest hrest
  induction members with
  | nil => rfl
  | cons member members ih =>
    obtain ⟨key, value⟩ := member
    rw [List.forall_mem_cons] at h
    have hvalue : Spells (value.prettyChars level) value.valueTokens := h.1
    cases members with
    | nil =>
      rw [prettyMembers, memberTokens, List.append_assoc, List.append_assoc, tokens_newLine,
        tokens_stringChars, List.cons_append, List.cons_append, tokens_colon, tokens_blank,
        hvalue rest hrest]
      rfl
    | cons next members =>
      rw [prettyMembers, memberTokens, List.append_assoc, List.append_assoc, tokens_newLine,
        tokens_stringChars, List.cons_append, List.cons_append, tokens_colon, tokens_blank,
        List.append_assoc, List.cons_append, hvalue _ (stopsNumber_comma _), tokens_comma, ih h.2]
      simp

/-- A value on many lines has the same tokens. -/
lemma Whole.spells_prettyChars {v : Json} (h : v.Whole) (level : ℕ) :
    Spells (v.prettyChars level) v.valueTokens := by
  induction h generalizing level with
  | null => exact fun rest _ => tokens_null rest
  | boolean b =>
    cases b with
    | false => exact fun rest _ => tokens_false rest
    | true => exact fun rest _ => tokens_true rest
  | @number n hn =>
    intro rest hrest
    rw [prettyChars, Number.text, toList_toString]
    exact tokens_toDigits hn hrest
  | string s => exact fun rest _ => tokens_stringChars s rest
  | @array items _ ih =>
    intro rest _
    cases items with
    | nil => simp [prettyChars, valueTokens, itemTokens]
    | cons item items =>
      have hitems : Spells (prettyItems (level + 1) (item :: items)) (itemTokens (item :: items)) :=
        spells_prettyItems fun i hi => ih i hi _
      rw [prettyChars, List.cons_append, tokens_openArray, List.append_assoc, List.append_assoc,
        hitems _ (stopsNumber_newLine _ _), tokens_newLine]
      simp [valueTokens]
  | @object members _ ih =>
    intro rest _
    cases members with
    | nil => simp [prettyChars, valueTokens, memberTokens]
    | cons member members =>
      have hmembers : Spells (prettyMembers (level + 1) (member :: members))
          (memberTokens (member :: members)) := spells_prettyMembers fun m hm => ih m hm _
      rw [prettyChars, List.cons_append, tokens_openObject, List.append_assoc, List.append_assoc,
        hmembers _ (stopsNumber_newLine _ _), tokens_newLine]
      simp [valueTokens]

/-! ### Layouts -/

/-- How a value is written. -/
inductive Layout
  | oneLine
  | manyLines
deriving DecidableEq, Repr

/-- The text of a value in a layout. -/
def Layout.write (layout : Layout) (v : Json) : String :=
  match layout with
  | .oneLine => v.compact
  | .manyLines => v.pretty

/-- The text of a value has its tokens, in either layout. -/
lemma Whole.tokens_write {v : Json} (h : v.Whole) (layout : Layout) :
    tokens (layout.write v).toList = v.valueTokens := by
  cases layout with
  | oneLine =>
    have htokens := h.spells_compactChars [] stopsNumber_nil
    rw [List.append_nil, tokens_nil, List.append_nil] at htokens
    rw [Layout.write, compact, String.toList_ofList, htokens]
  | manyLines =>
    have htokens := h.spells_prettyChars 0 [] stopsNumber_nil
    rw [List.append_nil, tokens_nil, List.append_nil] at htokens
    rw [Layout.write, pretty, String.toList_ofList, htokens]

/-! ## Nesting -/

/-- The number of arrays and objects that are open behind a token. -/
def Token.levelAfter (level : ℕ) : Token → ℕ
  | .openArray | .openObject => level + 1
  | .closeArray | .closeObject => level - 1
  | _ => level

/-- How many arrays and objects are open at most between some tokens. -/
def nesting (level : ℕ) : List Token → ℕ
  | [] => level
  | t :: ts => max level (nesting (t.levelAfter level) ts)

/-- How deep a text nests arrays and objects. -/
def textNesting (text : String) : ℕ := nesting 0 (tokens text.toList)

lemma le_nesting (level : ℕ) (ts : List Token) : level ≤ nesting level ts := by
  cases ts with
  | nil => exact Nat.le_refl level
  | cons t ts => exact Nat.le_max_left _ _

lemma nesting_itemTokens {items : List Json} (h : ∀ item ∈ items, ∀ level ts,
    nesting level (item.valueTokens ++ ts) = max (level + item.depth) (nesting level ts))
    (level : ℕ) (ts : List Token) :
    nesting level (itemTokens items ++ ts) =
      max (level + depthItems items) (nesting level ts) := by
  have hle := le_nesting level ts
  induction items with
  | nil => simp [itemTokens, depthItems, hle]
  | cons item items ih =>
    rw [List.forall_mem_cons] at h
    cases items with
    | nil => simp [itemTokens, depthItems, h.1]
    | cons next items =>
      rw [itemTokens, List.append_assoc, h.1, List.cons_append, depthItems]
      simp only [nesting, Token.levelAfter, ih h.2]
      omega

lemma nesting_memberTokens {members : List (String × Json)} (h : ∀ member ∈ members, ∀ level ts,
    nesting level (member.2.valueTokens ++ ts) = max (level + member.2.depth) (nesting level ts))
    (level : ℕ) (ts : List Token) :
    nesting level (memberTokens members ++ ts) =
      max (level + depthMembers members) (nesting level ts) := by
  have hle := le_nesting level ts
  induction members with
  | nil => simp [memberTokens, depthMembers, hle]
  | cons member members ih =>
    obtain ⟨key, value⟩ := member
    rw [List.forall_mem_cons] at h
    have hvalue (ts : List Token) : nesting level (value.valueTokens ++ ts) =
        max (level + value.depth) (nesting level ts) := h.1 level ts
    cases members with
    | nil =>
      simp only [memberTokens, depthMembers, List.cons_append, nesting, Token.levelAfter, hvalue]
      omega
    | cons next members =>
      rw [memberTokens, List.cons_append, List.cons_append, List.append_assoc, List.cons_append,
        depthMembers]
      simp only [nesting, Token.levelAfter, hvalue, ih h.2]
      omega

lemma nesting_valueTokens (v : Json) (level : ℕ) (ts : List Token) :
    nesting level (v.valueTokens ++ ts) = max (level + v.depth) (nesting level ts) := by
  induction v using Json.induction generalizing level ts with
  | null => rfl
  | boolean b => rfl
  | number n => rfl
  | string s => rfl
  | array items ih =>
    have hle := le_nesting level ts
    rw [valueTokens, List.cons_append, List.append_assoc, List.singleton_append, depth]
    simp only [nesting, Token.levelAfter, nesting_itemTokens ih, Nat.add_sub_cancel]
    omega
  | object members ih =>
    have hle := le_nesting level ts
    rw [valueTokens, List.cons_append, List.append_assoc, List.singleton_append, depth]
    simp only [nesting, Token.levelAfter, nesting_memberTokens ih, Nat.add_sub_cancel]
    omega

lemma nesting_zero_valueTokens (v : Json) : nesting 0 v.valueTokens = v.depth := by
  have h := nesting_valueTokens v 0 []
  rw [List.append_nil, nesting] at h
  omega

/-- A written text nests arrays and objects as deep as its value does. -/
lemma Whole.textNesting_write {v : Json} (h : v.Whole) (layout : Layout) :
    textNesting (layout.write v) = v.depth := by
  rw [textNesting, h.tokens_write, nesting_zero_valueTokens]

end JavaUml.Json
