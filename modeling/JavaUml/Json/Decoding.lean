/-
# Decoding

A decoder turns a JSON text into a record of the library. It stops at the first place, in the order
of the text, where the text is not JSON or does not fit the record. Records are objects with known
keys in any order, or arrays of the same parts in a fixed order; this file holds the steps that all
decoders share.
-/
import JavaUml.Json.Reading
import JavaUml.Text.Quotation

namespace JavaUml.Json

/-! ## Why a text does not fit -/

/-- What was found where something else was wanted. -/
inductive Found
  | null
  | boolean (b : Bool)
  | number (n : Number)
  | string (s : String)
  | sequence
  | map
deriving DecidableEq, Repr

/-- Why a value does not fit the record that is wanted. -/
inductive Mismatch
  /-- The value is of another type. -/
  | wrongType (found : Found) (wanted : String)
  /-- The number of a variant is out of range. -/
  | wrongIndex (n : Nat) (count : Nat)
  /-- An array has too few or too many items. -/
  | wrongLength (length : Nat) (wanted : String)
  | missingField (name : String)
  | duplicateField (name : String)
  | unknownVariant (name : String) (known : List String)
  /-- The value has none of the shapes that the named type allows. -/
  | noShape (type : String)
  /-- A text that should name a type does not. -/
  | typeText (text : String)
deriving DecidableEq, Repr

/-- Why a text cannot be decoded. -/
inductive DecodeError
  | fault (f : Fault)
  | mismatch (m : Mismatch)
deriving DecidableEq, Repr

/-- The result of a decoder. -/
abbrev Decoded (α : Type) := Except DecodeError α

/-- The name of a value in a message. -/
def Found.text : Found → String
  | .null => "null"
  | .boolean b => "boolean `" ++ toString b ++ "`"
  | .number (.binary x) => "floating point `" ++ x.text ++ "`"
  | .number n => "integer `" ++ n.text ++ "`"
  | .string s => "string " ++ Text.quoted s
  | .sequence => "sequence"
  | .map => "map"

/-- A list of names in a message: one, two, or more. -/
def alternatives (names : List String) : String :=
  match names.map fun name => "`" ++ name ++ "`" with
  | [a, b] => a ++ " or " ++ b
  | [a] => a
  | quoted => "one of " ++ ", ".intercalate quoted

/-- The message of a mismatch. -/
def Mismatch.message : Mismatch → String
  | .wrongType found wanted => "invalid type: " ++ found.text ++ ", expected " ++ wanted
  | .wrongIndex n count =>
    "invalid value: integer `" ++ toString n ++ "`, expected variant index 0 <= i < "
      ++ toString count
  | .wrongLength length wanted => "invalid length " ++ toString length ++ ", expected " ++ wanted
  | .missingField name => "missing field `" ++ name ++ "`"
  | .duplicateField name => "duplicate field `" ++ name ++ "`"
  | .unknownVariant name known =>
    "unknown variant `" ++ name ++ "`, expected " ++ alternatives known
  | .noShape type => "data did not match any variant of untagged enum " ++ type
  | .typeText text => "Invalid type descriptor '" ++ text ++ "'"

/-- Stops with a mismatch. -/
def misfit {α : Type} (m : Mismatch) : Decoded α := .error (.mismatch m)

/-- Turns a fault of the text into an error of the decoder. -/
def orFault {α : Type} : Except Fault α → Decoded α
  | .ok a => .ok a
  | .error f => .error (.fault f)

/-- Decodes a text that holds one value and nothing else. -/
def decode {α : Type} (decoder : Reading → Decoded α) (text : String) : Decoded α := do
  let r := TextReading.ofString text
  let a ← decoder r.value
  if r.trailing then .error (.fault .malformed) else return a

/-! ## Values -/

/-- What a value is. -/
def found : Json → Found
  | .null => .null
  | .boolean b => .boolean b
  | .number n => .number n
  | .string s => .string s
  | .array _ => .sequence
  | .object _ => .map

/-- Refuses a value of the wrong type. -/
def refuse {α : Type} (wanted : String) (v : Json) : Decoded α :=
  misfit (.wrongType v.found wanted)

/-- A string. -/
def asString : Json → Decoded String
  | .string s => return s
  | v => v.refuse "a string"

/-- The items of an array. -/
def asItems : Json → Decoded (List Json)
  | .array items => return items
  | v => v.refuse "a sequence"

/-- An array of values of one kind. -/
def asListOf {α : Type} (decoder : Json → Decoded α) (v : Json) : Decoded (List α) := do
  (← v.asItems).mapM decoder

/-- An array of strings. -/
def asStrings : Json → Decoded (List String) := asListOf asString

/-- The unit value, written as null. -/
def asUnit : Json → Decoded Unit
  | .null => return ()
  | v => v.refuse "unit"

/-! ## Readings -/

namespace Reading

/-- What a reading is; a number or name that cannot be read is a fault. -/
def found : Reading → Decoded Found
  | .null => return .null
  | .boolean b => return .boolean b
  | .number n => return .number n
  | .string s => return .string s
  | .array _ _ => return .sequence
  | .object _ _ => return .map
  | .noValue => .error (.fault .malformed)
  | .broken b => .error (.fault b.reading)

/-- Refuses a reading of the wrong type. -/
def refuse {α : Type} (wanted : String) (r : Reading) : Decoded α := do
  misfit (.wrongType (← r.found) wanted)

/-- A string. -/
def asString : Reading → Decoded String
  | .string s => return s
  | r => r.refuse "a string"

/-- Enters an array or object, of which at most `levels` may be nested. -/
def enter {α : Type} (levels : Nat) (inside : Nat → Decoded α) : Decoded α :=
  match levels with
  | 0 => .error (.fault .malformed)
  | levels + 1 => inside levels

/-- An array of values of one kind. -/
def asListOf {α : Type} (decoder : Nat → Reading → Decoded α) (levels : Nat) :
    Reading → Decoded (List α)
  | .array items ending =>
    enter levels fun levels => do
      let values ← items.mapM (decoder levels)
      orFault ending.check
      return values
  | r => r.refuse "a sequence"

/-- An array of strings. -/
def asStrings : Nat → Reading → Decoded (List String) := asListOf fun _ => asString

end Reading

/-! ## Records -/

/-- Refuses a key that has come before. -/
def once {α : Type} (name : String) (slot : Option α) : Decoded Unit :=
  if slot.isSome then misfit (.duplicateField name) else return ()

/-- Takes a part that has no default. -/
def required {α : Type} (name : String) : Option α → Decoded α
  | some a => return a
  | none => misfit (.missingField name)

/-- Decodes the next item of a record written as an array. -/
def nextItem {α : Type} (decoder : Json → Decoded α) (index : Nat) (wanted : String) :
    List Json → Decoded (α × List Json)
  | [] => misfit (.wrongLength index wanted)
  | v :: items => do return (← decoder v, items)

/-- Decodes the next item of a record written as an array, or takes a default at its end. -/
def nextItemOr {α : Type} (decoder : Json → Decoded α) (default : α) :
    List Json → Decoded (α × List Json)
  | [] => return (default, [])
  | v :: items => do return (← decoder v, items)

/-- A number of things in a message. -/
def counted (n : Nat) (thing : String) : String :=
  toString n ++ " " ++ thing ++ if n = 1 then "" else "s"

/-- Refuses items behind the last part of a record, of which there are `count`. -/
def noMore (count : Nat) (items : List Json) : Decoded Unit :=
  match items with
  | [] => return ()
  | _ :: _ =>
    misfit (.wrongLength (count + items.length) (counted count "element" ++ " in sequence"))

/-! ## Tagged records

A tagged record is an object with the tag under a key of its own, anywhere in it, or an array with
the tag as its first item. The rest of it is the record. -/

/-- Splits the tag off the members of an object. -/
def splitTag {τ : Type} (key : String) (asTag : Json → Decoded τ) (tag : Option τ) :
    List (String × Json) → Decoded (Option τ × List (String × Json))
  | [] => return (tag, [])
  | (name, v) :: members =>
    if name = key then do
      once key tag
      splitTag key asTag (some (← asTag v)) members
    else do
      let (tag, rest) ← splitTag key asTag tag members
      return (tag, (name, v) :: rest)

/-- Splits a tagged record into its tag and the rest. -/
def asTagged {τ : Type} (key wanted : String) (asTag : Json → Decoded τ) :
    Json → Decoded (τ × Json)
  | .object members => do
    let (tag, rest) ← splitTag key asTag none members
    return (← required key tag, .object rest)
  | .array [] => misfit (.missingField key)
  | .array (tag :: items) => return (← asTag tag, .array items)
  | v => v.refuse wanted

namespace Reading

/-- Splits the tag off the members of an object that is being read. Values other than the tag are
read without being looked at. -/
def splitTag {τ : Type} (key : String) (asTag : Reading → Decoded τ) (levels : Nat)
    (tag : Option τ) : List (Option String × Reading) → Decoded (Option τ × List (String × Json))
  | [] => return (tag, [])
  | (none, _) :: _ => .error (.fault .malformed)
  | (some name, r) :: members =>
    if name = key then do
      once key tag
      splitTag key asTag levels (some (← asTag r)) members
    else do
      let v ← orFault (r.value levels)
      let (tag, rest) ← splitTag key asTag levels tag members
      return (tag, (name, v) :: rest)

/-- Splits a tagged record that is being read into its tag and the rest. -/
def asTagged {τ : Type} (key wanted : String) (asTag : Reading → Decoded τ) (levels : Nat) :
    Reading → Decoded (τ × Json)
  | .object members ending =>
    enter levels fun levels => do
      let (tag, rest) ← splitTag key asTag levels none members
      orFault ending.check
      return (← required key tag, .object rest)
  | .array [] ending =>
    enter levels fun _ => do
      orFault ending.check
      misfit (.missingField key)
  | .array (tag :: items) ending =>
    enter levels fun levels => do
      let tag ← asTag tag
      let items ← orFault (values levels items)
      orFault ending.check
      return (tag, .array items)
  | r => r.refuse wanted

end Reading

end JavaUml.Json
