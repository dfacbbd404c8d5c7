/-
# Reading a declared type

The grammar, with blanks allowed where `_` stands:

    type  = _ ( '?' [ _ keyword _ type ] | name [ '<' type { ',' type } '>' ] brackets ) _
    name  = word { '.' word }
    brackets = { _ '[' _ ']' _ } [ _ '...' _ ]

A word consists of alphanumeric characters, `_` and `$`; the keywords are `extends` and `super`, and
an identifier character may not follow them. There is no blank between a name and its arguments.
Every bracket pair is a dimension, and so is the ellipsis. Of two bounds in a row the outer one
counts.

What follows a type or a part of it never belongs to it as well, so the reader takes as much as it
can at each step and does not go back.
-/
import JavaUml.Text.Blank
import JavaUml.Text.Letters
import JavaUml.TypeRef.Basic

namespace JavaUml.TypeRef

open JavaUml.Text

/-- What has been read at the front of a text, and what is left of it: less than there was. -/
structure Front (α : Type) (cs : List Char) where
  value : α
  rest : List Char
  shorter : rest.length < cs.length

/-! ## Names -/

/-- The characters of the words in a name. -/
def isNameChar (c : Char) : Bool :=
  isAlphanumeric c || c == '_' || c == '$'

/-- Splits a text behind the words, and the single points between them, at its front. -/
def splitName : List Char → List Char × List Char
  | [] => ([], [])
  | '.' :: c :: cs =>
    if isNameChar c then ('.' :: (splitName (c :: cs)).1, (splitName (c :: cs)).2)
    else ([], '.' :: c :: cs)
  | c :: cs =>
    if isNameChar c then (c :: (splitName cs).1, (splitName cs).2)
    else ([], c :: cs)

theorem splitName_append (cs : List Char) : (splitName cs).1 ++ (splitName cs).2 = cs := by
  fun_induction splitName cs <;> simp_all

theorem length_splitName_le (cs : List Char) : (splitName cs).2.length ≤ cs.length := by
  have := congrArg List.length (splitName_append cs)
  rw [List.length_append] at this
  omega

/-- Reads a name. It starts with a word. -/
def readName? (cs : List Char) : Option (Front String cs) :=
  match cs with
  | [] => none
  | c :: cs =>
    if isNameChar c then
      some ⟨String.ofList (c :: (splitName cs).1), (splitName cs).2,
        Nat.lt_succ_of_le (length_splitName_le cs)⟩
    else none

/-! ## Brackets -/

/-- Reads one pair of brackets. -/
def readPair? (cs : List Char) : Option { rest : List Char // rest.length < cs.length } :=
  match h : skipBlank cs with
  | '[' :: inner =>
    match h' : skipBlank inner with
    | ']' :: rest => some ⟨rest, by
        have := length_skipBlank_le cs
        have := length_skipBlank_le inner
        simp_all
        omega⟩
    | _ => none
  | _ => none

/-- Reads the brackets and the ellipsis of an array type: the number of dimensions, and what is left
of the text. -/
def readDimensions (cs : List Char) : Nat × { rest : List Char // rest.length ≤ cs.length } :=
  match readPair? cs with
  | some ⟨rest, _⟩ =>
    let r := readDimensions rest
    (r.1 + 1, ⟨r.2.1, by have := r.2.2; omega⟩)
  | none =>
    match h : skipBlank cs with
    | '.' :: '.' :: '.' :: rest => (1, ⟨rest, by
        have := length_skipBlank_le cs
        simp [h] at this
        omega⟩)
    | _ => (0, ⟨cs, Nat.le_refl _⟩)
termination_by cs.length

/-! ## Bounds -/

/-- Drops a prefix, if the text starts with it. -/
def dropWord? : List Char → List Char → Option (List Char)
  | [], cs => some cs
  | _ :: _, [] => none
  | w :: ws, c :: cs => if w = c then dropWord? ws cs else none

theorem dropWord?_eq_some {ws cs rest : List Char} (h : dropWord? ws cs = some rest) :
    cs = ws ++ rest := by
  fun_induction dropWord? ws cs <;> simp_all

/-- Reads a keyword that no identifier character follows. -/
def readKeyword? (word : String) (cs : List Char) : Option (List Char) :=
  match dropWord? word.toList cs with
  | some [] => some []
  | some (c :: rest) => if isIdentifierContinue c then none else some (c :: rest)
  | none => none

theorem readKeyword?_eq_some {word : String} {cs rest : List Char}
    (h : readKeyword? word cs = some rest) : cs = word.toList ++ rest := by
  unfold readKeyword? at h
  split at h
  · cases h
    exact dropWord?_eq_some ‹_›
  · split at h
    · cases h
    · cases h
      exact dropWord?_eq_some ‹_›
  · cases h

/-- Reads the bound of a wildcard. -/
def readBound? (cs : List Char) : Option (WildcardBound × List Char) :=
  match readKeyword? WildcardBound.upper.keyword (skipBlank cs) with
  | some rest => some (.upper, rest)
  | none =>
    match readKeyword? WildcardBound.lower.keyword (skipBlank cs) with
    | some rest => some (.lower, rest)
    | none => none

theorem length_of_readBound? {cs rest : List Char} {bound : WildcardBound}
    (h : readBound? cs = some (bound, rest)) : rest.length ≤ cs.length := by
  have := length_skipBlank_le cs
  unfold readBound? at h
  split at h
  · rename_i r hr
    have := congrArg List.length (readKeyword?_eq_some hr)
    simp at h this
    obtain ⟨_, rfl⟩ := h
    omega
  · split at h
    · rename_i r hr
      have := congrArg List.length (readKeyword?_eq_some hr)
      simp at h this
      obtain ⟨_, rfl⟩ := h
      omega
    · simp at h

/-! ## Types -/

mutual

/-- Reads a type and the blanks around it. -/
def readType? (cs : List Char) : Option (Front TypeRef cs) :=
  match h : skipBlank cs with
  | '?' :: afterMark =>
    match h' : readBound? afterMark with
    | some (bound, afterBound) => do
      let inner ← readType? afterBound
      return ⟨{ inner.value with wildcard := some bound }, inner.rest, by
        have := length_skipBlank_le cs
        have := length_of_readBound? h'
        have := inner.shorter
        simp [h] at *
        omega⟩
    | none => some ⟨named "?", skipBlank afterMark, by
        have := length_skipBlank_le cs
        have := length_skipBlank_le afterMark
        simp [h] at *
        omega⟩
  | start => do
    let name ← readName? start
    let arguments ← readArguments? name.rest
    let dimensions := readDimensions arguments.2.1
    return ⟨{ name := name.value, arguments := arguments.1, dimensions := dimensions.1 },
      skipBlank dimensions.2.1, by
        have := length_skipBlank_le cs
        have := name.shorter
        have := arguments.2.2
        have := dimensions.2.2
        have := length_skipBlank_le dimensions.2.1
        rw [h] at *
        omega⟩
termination_by 2 * cs.length
decreasing_by
  · have := length_skipBlank_le cs
    have := length_of_readBound? h'
    simp [h] at *
    omega
  · have := length_skipBlank_le cs
    have := name.shorter
    rw [h] at *
    omega

/-- Reads type arguments, if there are any. -/
def readArguments? (cs : List Char) :
    Option (List TypeRef × { rest : List Char // rest.length ≤ cs.length }) :=
  match cs with
  | '<' :: cs => do
    let first ← readType? cs
    let more ← readMoreArguments? first.rest
    return (first.value :: more.value, ⟨more.rest, by
      have := first.shorter
      have := more.shorter
      simp
      omega⟩)
  | cs => some ([], ⟨cs, Nat.le_refl _⟩)
termination_by 2 * cs.length + 1
decreasing_by
  · simp only [List.length_cons]
    omega
  · have := first.shorter
    simp only [List.length_cons]
    omega

/-- Reads the type arguments after the first one, and the closing bracket. -/
def readMoreArguments? (cs : List Char) : Option (Front (List TypeRef) cs) :=
  match cs with
  | '>' :: rest => some ⟨[], rest, by simp⟩
  | ',' :: cs => do
    let first ← readType? cs
    let more ← readMoreArguments? first.rest
    return ⟨first.value :: more.value, more.rest, by
      have := first.shorter
      have := more.shorter
      simp
      omega⟩
  | _ => none
termination_by 2 * cs.length
decreasing_by
  · simp only [List.length_cons]
    omega
  · have := first.shorter
    simp only [List.length_cons]
    omega

end

/-- The type that a text denotes, if it denotes one. -/
def parse? (s : String) : Option TypeRef :=
  match readType? s.toList with
  | some front => if front.rest.isEmpty then some front.value else none
  | none => none

/-- A text that names no type. -/
structure InvalidType where
  input : String
deriving DecidableEq, Repr

/-- The message about a text that names no type. -/
def InvalidType.message (e : InvalidType) : String :=
  "Invalid type descriptor '" ++ e.input ++ "'"

/-- Reads a type from its text, of which nothing may be left. -/
def parse (s : String) : Except InvalidType TypeRef :=
  match parse? s with
  | some t => .ok t
  | none => .error ⟨s⟩

end JavaUml.TypeRef
