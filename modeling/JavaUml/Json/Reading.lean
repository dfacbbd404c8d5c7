/-
# What can be read of a text

A text that is not JSON still has a beginning that is. A `Reading` is the value that a text denotes
as far as it can be read, together with the places where it fails. A decoder goes through a reading
in the order of the text and reports the first thing that it cannot use, be it a value of the wrong
kind or a fault of the text: what comes later plays no part.

Readings are made by a machine that takes one token after the other and keeps the arrays and objects
that are still open on a stack.
-/
import JavaUml.Json.Basic
import JavaUml.Json.Token

namespace JavaUml.Json

/-- How an array or an object ends. -/
inductive Ending
  /-- At its closing bracket. -/
  | closed
  /-- The text fails where a closing bracket or a comma has to stand. -/
  | unclosed (b : Break)
  /-- The text fails behind a comma. -/
  | afterComma (b : Break)
deriving DecidableEq, Repr

/-- A value as far as it can be read. A key that is no text is `none`. -/
inductive Reading
  | null
  | boolean (b : Bool)
  | number (n : Number)
  | string (s : String)
  | array (items : List Reading) (ending : Ending)
  | object (members : List (Option String × Reading)) (ending : Ending)
  /-- A complete token that stands for no value. -/
  | noValue
  /-- The text fails here. -/
  | broken (b : Break)
deriving Inhabited

/-- The reading of a text: its value, and whether anything follows that. -/
structure TextReading where
  value : Reading
  trailing : Bool

/-! ## The machine -/

/-- An array or object that is open, with what has been read of it, newest first. Of an object, the
value of `key` is being read. -/
inductive Frame
  | item (before : List Reading)
  | member (before : List (Option String × Reading)) (key : Option String)

/-- What the machine has read, and what it waits for. -/
inductive State
  /-- A value. -/
  | value (frames : List Frame)
  /-- The first item of an array, or its closing bracket. -/
  | firstItem (frames : List Frame)
  /-- A comma, or the closing bracket of an array. -/
  | nextItem (items : List Reading) (frames : List Frame)
  /-- The first key of an object, or its closing bracket. -/
  | firstKey (frames : List Frame)
  /-- A key behind a comma. -/
  | laterKey (members : List (Option String × Reading)) (frames : List Frame)
  /-- The colon behind a key. -/
  | colon (members : List (Option String × Reading)) (key : Option String) (frames : List Frame)
  /-- A comma, or the closing bracket of an object. -/
  | nextMember (members : List (Option String × Reading)) (frames : List Frame)
  /-- Nothing: the value is complete. -/
  | done (r : Reading)
  /-- Nothing: a token has followed the complete value. -/
  | trailing (r : Reading)
  /-- Nothing: the text has failed. -/
  | failed (r : Reading)

/-- Hands a complete value to the innermost open array or object. -/
def State.deliver (r : Reading) : List Frame → State
  | [] => .done r
  | .item before :: frames => .nextItem (r :: before) frames
  | .member before key :: frames => .nextMember ((key, r) :: before) frames

/-- The reading of a text that fails inside `r`, which stands in the given frames. -/
def Frame.abandon (b : Break) (r : Reading) : List Frame → Reading
  | [] => r
  | .item before :: frames => abandon b (.array (r :: before).reverse (.unclosed b)) frames
  | .member before key :: frames =>
    abandon b (.object ((key, r) :: before).reverse (.unclosed b)) frames

/-- The state after the text has failed inside `r`. -/
def State.fail (b : Break) (r : Reading) (frames : List Frame) : State :=
  .failed (Frame.abandon b r frames)

/-- A fault of the text that is the same for every reader. -/
def Break.malformed : Break := .same .malformed

/-- Takes a token where a value has to come. -/
def State.stepValue (frames : List Frame) : Token → State
  | .openArray => .firstItem frames
  | .openObject => .firstKey frames
  | .null => .deliver .null frames
  | .boolean b => .deliver (.boolean b) frames
  | .number n => .deliver (.number n) frames
  | .string s => .deliver (.string s) frames
  | .noNumber => .deliver .noValue frames
  | .noString => .deliver .noValue frames
  | .brokenString b => .fail b (.broken b) frames
  | .broken b => .fail b (.broken b) frames
  | .closeArray =>
    match frames with
    | .item before :: outer =>
      .fail .malformed (.array before.reverse (.afterComma .malformed)) outer
    | frames => .fail .malformed (.broken .malformed) frames
  | .closeObject => .fail .malformed (.broken .malformed) frames
  | .comma => .fail .malformed (.broken .malformed) frames
  | .colon => .fail .malformed (.broken .malformed) frames

/-- Takes a token where a key has to come; `ending` is how the object ends if none does. -/
def State.stepKey (members : List (Option String × Reading)) (ending : Break → Ending)
    (frames : List Frame) : Token → State
  | .string s => .colon members (some s) frames
  | .noString => .colon members none frames
  | .brokenString b => .fail b (.object members.reverse (ending b)) frames
  | _ => .fail .malformed (.object members.reverse (ending .malformed)) frames

/-- Takes a token. -/
def State.step : State → Token → State
  | .value frames, t => stepValue frames t
  | .firstItem frames, .closeArray => .deliver (.array [] .closed) frames
  | .firstItem frames, t => stepValue (.item [] :: frames) t
  | .nextItem items frames, .comma => .value (.item items :: frames)
  | .nextItem items frames, .closeArray => .deliver (.array items.reverse .closed) frames
  | .nextItem items frames, _ =>
    .fail .malformed (.array items.reverse (.unclosed .malformed)) frames
  | .firstKey frames, .closeObject => .deliver (.object [] .closed) frames
  | .firstKey frames, t => stepKey [] .unclosed frames t
  | .laterKey members frames, t => stepKey members .afterComma frames t
  | .colon members key frames, .colon => .value (.member members key :: frames)
  | .colon members key frames, _ =>
    .fail .malformed (.broken .malformed) (.member members key :: frames)
  | .nextMember members frames, .comma => .laterKey members frames
  | .nextMember members frames, .closeObject => .deliver (.object members.reverse .closed) frames
  | .nextMember members frames, _ =>
    .fail .malformed (.object members.reverse (.unclosed .malformed)) frames
  | .done r, _ => .trailing r
  | .trailing r, _ => .trailing r
  | .failed r, _ => .failed r

/-- The reading of a text that ends in a state. -/
def State.finish : State → TextReading
  | .value (.item (r :: before) :: frames) =>
    ended (.array (r :: before).reverse (.afterComma cut)) frames
  | .value frames => ended (.broken cut) frames
  | .firstItem frames => ended (.array [] (.unclosed cut)) frames
  | .nextItem items frames => ended (.array items.reverse (.unclosed cut)) frames
  | .firstKey frames => ended (.object [] (.unclosed cut)) frames
  | .laterKey members frames => ended (.object members.reverse (.afterComma cut)) frames
  | .colon members key frames => ended (.broken cut) (.member members key :: frames)
  | .nextMember members frames => ended (.object members.reverse (.unclosed cut)) frames
  | .done r => ⟨r, false⟩
  | .trailing r => ⟨r, true⟩
  | .failed r => ⟨r, false⟩
where
  cut : Break := .same .truncated
  ended (r : Reading) (frames : List Frame) : TextReading := ⟨Frame.abandon cut r frames, false⟩

/-- The reading of a list of tokens. -/
def TextReading.ofTokens (ts : List Token) : TextReading :=
  (ts.foldl State.step (.value [])).finish

/-- The reading of a text. -/
def TextReading.ofString (s : String) : TextReading :=
  .ofTokens (tokens s.toList)

/-! ## Readings as values -/

namespace Ending

/-- The fault that a reader meets at the end of an array or object. -/
def check : Ending → Except Fault Unit
  | .closed => .ok ()
  | .unclosed b => .error b.reading
  | .afterComma b => .error b.reading

/-- The fault that a reader meets there that only looks for the end. -/
def skip : Ending → Except Fault Unit
  | .closed => .ok ()
  | .unclosed b => .error b.skipping
  | .afterComma b => .error b.skipping

end Ending

namespace Reading

/-- How deep arrays and objects may be nested. -/
def maxDepth : Nat := 127

mutual

/-- The value of a reading without faults whose arrays and objects are nested at most `levels`
deep, or the first fault. -/
def value (levels : Nat) : Reading → Except Fault Json
  | .null => .ok .null
  | .boolean b => .ok (.boolean b)
  | .number n => .ok (.number n)
  | .string s => .ok (.string s)
  | .noValue => .error .malformed
  | .broken b => .error b.reading
  | .array items ending =>
    match levels with
    | 0 => .error .malformed
    | levels + 1 => do
      let items ← values levels items
      ending.check
      return .array items
  | .object members ending =>
    match levels with
    | 0 => .error .malformed
    | levels + 1 => do
      let members ← memberValues levels members
      ending.check
      return .object members

/-- The values of the items of an array. -/
def values (levels : Nat) : List Reading → Except Fault (List Json)
  | [] => .ok []
  | item :: items => do
    let item ← value levels item
    let items ← values levels items
    return item :: items

/-- The members of an object with their values. -/
def memberValues (levels : Nat) : List (Option String × Reading) →
    Except Fault (List (String × Json))
  | [] => .ok []
  | (none, _) :: _ => .error .malformed
  | (some key, r) :: members => do
    let v ← value levels r
    let members ← memberValues levels members
    return (key, v) :: members

end

mutual

/-- Passes over a reading, at any depth. -/
def skip : Reading → Except Fault Unit
  | .broken b => .error b.skipping
  | .array items ending => do
    skipItems items
    ending.skip
  | .object members ending => do
    skipMembers members
    ending.skip
  | _ => .ok ()

/-- Passes over the items of an array. -/
def skipItems : List Reading → Except Fault Unit
  | [] => .ok ()
  | item :: items => do
    skip item
    skipItems items

/-- Passes over the members of an object. -/
def skipMembers : List (Option String × Reading) → Except Fault Unit
  | [] => .ok ()
  | (_, r) :: members => do
    skip r
    skipMembers members

end

end Reading

mutual

/-- The reading of the text of a value. -/
def reading : Json → Reading
  | .null => .null
  | .boolean b => .boolean b
  | .number n => .number n
  | .string s => .string s
  | .array items => .array (readings items) .closed
  | .object members => .object (memberReadings members) .closed

/-- The readings of the items of an array. -/
def readings : List Json → List Reading
  | [] => []
  | item :: items => reading item :: readings items

/-- The readings of the members of an object. -/
def memberReadings : List (String × Json) → List (Option String × Reading)
  | [] => []
  | (key, v) :: members => (some key, reading v) :: memberReadings members

end

end JavaUml.Json
