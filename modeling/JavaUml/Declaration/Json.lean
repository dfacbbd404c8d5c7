/-
# Declarations in JSON

A list of declarations is written as an array of objects with all their keys. It is read from such
an array with the keys in any order and keys that have a default left out; a declaration, a member
or a parameter may also be an array of its parts.
-/
import JavaUml.Annotation.Json
import JavaUml.Declaration
import JavaUml.TypeRef.Json

namespace JavaUml

/-! ## Writing -/

/-- The members of the object that a field is written as. -/
def Field.toMembers (f : Field) : List (String × Json) :=
  [("name", .string f.name), ("modifiers", .strings f.modifiers), ("type", f.type.toJson)]

/-- The JSON value of a parameter. -/
def Parameter.toJson (p : Parameter) : Json :=
  .object [("name", .string p.name), ("type", p.type.toJson)]

/-- The members of the object that a method is written as. -/
def Method.toMembers (m : Method) : List (String × Json) :=
  [("name", .string m.name), ("modifiers", .strings m.modifiers),
    ("returnType", m.returnType.toJson), ("parameters", .array (m.parameters.map Parameter.toJson)),
    ("annotations", .array (m.annotations.map Annotation.toJson))]

/-- The JSON value of a member. -/
def Member.toJson : Member → Json
  | .field f => .object (("kind", .string "field") :: f.toMembers)
  | .method m => .object (("kind", .string "method") :: m.toMembers)
  | .other => .object [("kind", .string "other")]

namespace Declaration

/-- The JSON value of a declaration. -/
def toJson (d : Declaration) : Json :=
  .object [("kind", .string d.kind.word), ("name", .string d.name),
    ("modifiers", .strings d.modifiers), ("members", .array (d.members.map Member.toJson)),
    ("extends", .strings d.parents), ("implements", .strings d.interfaces)]

/-- The JSON value of a list of declarations. -/
def listToJson (ds : List Declaration) : Json := .array (ds.map toJson)

end Declaration

/-! ## Reading fields, parameters and methods -/

namespace Field

/-- The parts of a field that have been read. -/
structure Draft where
  name : Option String := none
  modifiers : Option (List String) := none
  type : Option TypeRef := none

/-- Reads a member of the object that a field is written as. -/
def Draft.step (d : Draft) (member : String × Json) : Json.Decoded Draft := do
  match member.1 with
  | "name" =>
    Json.once "name" d.name
    return { d with name := some (← member.2.asString) }
  | "modifiers" =>
    Json.once "modifiers" d.modifiers
    return { d with modifiers := some (← member.2.asStrings) }
  | "type" =>
    Json.once "type" d.type
    return { d with type := some (← TypeRef.decode member.2) }
  | _ => return d

/-- The wording of what an array of too few items should have been. -/
def wanted : String := "struct Field with 3 elements"

/-- Decodes a field. -/
def decode : Json → Json.Decoded Field
  | .object members => do
    let d ← members.foldlM Draft.step {}
    let name ← Json.required "name" d.name
    let type ← Json.required "type" d.type
    return { name, modifiers := d.modifiers.getD [], type }
  | .array items => do
    let (name, items) ← Json.nextItem Json.asString 0 wanted items
    let (modifiers, items) ← Json.nextItemOr Json.asStrings [] items
    let (type, items) ← Json.nextItem TypeRef.decode 2 wanted items
    Json.noMore 3 items
    return { name, modifiers, type }
  | v => v.refuse "struct Field"

end Field

namespace Parameter

/-- The parts of a parameter that have been read. -/
structure Draft where
  name : Option String := none
  type : Option TypeRef := none

/-- Reads a member of the object that a parameter is written as. -/
def Draft.step (d : Draft) (member : String × Json) : Json.Decoded Draft := do
  match member.1 with
  | "name" =>
    Json.once "name" d.name
    return { d with name := some (← member.2.asString) }
  | "type" =>
    Json.once "type" d.type
    return { d with type := some (← TypeRef.decode member.2) }
  | _ => return d

/-- The wording of what an array of too few items should have been. -/
def wanted : String := "struct Parameter with 2 elements"

/-- Decodes a parameter. -/
def decode : Json → Json.Decoded Parameter
  | .object members => do
    let d ← members.foldlM Draft.step {}
    return ⟨← Json.required "name" d.name, ← Json.required "type" d.type⟩
  | .array items => do
    let (name, items) ← Json.nextItem Json.asString 0 wanted items
    let (type, items) ← Json.nextItem TypeRef.decode 1 wanted items
    Json.noMore 2 items
    return ⟨name, type⟩
  | v => v.refuse "struct Parameter"

end Parameter

namespace Method

/-- The parts of a method that have been read. -/
structure Draft where
  name : Option String := none
  modifiers : Option (List String) := none
  returnType : Option TypeRef := none
  parameters : Option (List Parameter) := none
  annotations : Option (List Annotation) := none

/-- Reads a member of the object that a method is written as. -/
def Draft.step (d : Draft) (member : String × Json) : Json.Decoded Draft := do
  match member.1 with
  | "name" =>
    Json.once "name" d.name
    return { d with name := some (← member.2.asString) }
  | "modifiers" =>
    Json.once "modifiers" d.modifiers
    return { d with modifiers := some (← member.2.asStrings) }
  | "returnType" =>
    Json.once "returnType" d.returnType
    return { d with returnType := some (← TypeRef.decode member.2) }
  | "parameters" =>
    Json.once "parameters" d.parameters
    return { d with parameters := some (← member.2.asListOf Parameter.decode) }
  | "annotations" =>
    Json.once "annotations" d.annotations
    return { d with annotations := some (← member.2.asListOf Annotation.decode) }
  | _ => return d

/-- The wording of what an array of too few items should have been. -/
def wanted : String := "struct Method with 5 elements"

/-- Decodes a method. -/
def decode : Json → Json.Decoded Method
  | .object members => do
    let d ← members.foldlM Draft.step {}
    let name ← Json.required "name" d.name
    let returnType ← Json.required "returnType" d.returnType
    return {
      name, modifiers := d.modifiers.getD [], returnType
      parameters := d.parameters.getD [], annotations := d.annotations.getD [] }
  | .array items => do
    let (name, items) ← Json.nextItem Json.asString 0 wanted items
    let (modifiers, items) ← Json.nextItemOr Json.asStrings [] items
    let (returnType, items) ← Json.nextItem TypeRef.decode 2 wanted items
    let (parameters, items) ← Json.nextItemOr (Json.asListOf Parameter.decode) [] items
    let (annotations, items) ← Json.nextItemOr (Json.asListOf Annotation.decode) [] items
    Json.noMore 5 items
    return { name, modifiers, returnType, parameters, annotations }
  | v => v.refuse "struct Method"

end Method

/-! ## Reading members -/

namespace Member

/-- What the tag of a member says. Every word but two stands for a member without content. -/
inductive Tag
  | field
  | method
  | other
deriving DecidableEq, Repr

/-- Decodes the tag of a member. -/
def Tag.decode : Json.Reading → Json.Decoded Tag
  | .string "field" => return .field
  | .string "method" => return .method
  | .string _ => return .other
  | r => r.refuse "variant identifier"

/-- Decodes the rest of a member with a tag. -/
def decodeRest (tag : Tag) (rest : Json) : Json.Decoded Member := do
  match tag, rest with
  | .field, rest => return .field (← Field.decode rest)
  | .method, rest => return .method (← Method.decode rest)
  | .other, .array items =>
    Json.noMore 0 items
    return .other
  | .other, _ => return .other

/-- Decodes a member. -/
def decode (levels : Nat) (r : Json.Reading) : Json.Decoded Member := do
  let (tag, rest) ← r.asTagged "kind" "internally tagged enum Member" Tag.decode levels
  decodeRest tag rest

end Member

/-! ## Reading declarations -/

namespace ClassifierKind

/-- Decodes a kind from its word. -/
def decodeWord (word : String) : Json.Decoded ClassifierKind :=
  match ofWord? word with
  | some kind => return kind
  | none => Json.misfit (.unknownVariant word [classType.word, interfaceType.word])

/-- Decodes a kind: its word, alone or as the only key of an object with the value null. -/
def decode (levels : Nat) : Json.Reading → Json.Decoded ClassifierKind
  | .string word => decodeWord word
  | .object [] (.unclosed b) => .error (.fault b.reading)
  | .object ((some word, r) :: members) ending =>
    Json.Reading.enter levels fun _ => do
      let kind ← decodeWord word
      match r with
      | .null => pure ()
      | r => r.refuse "unit"
      match members, ending with
      | [], .unclosed b => .error (.fault b.reading)
      | [], .closed => return kind
      | _, _ => .error (.fault .malformed)
  | .broken b => .error (.fault b.reading)
  | _ => .error (.fault .malformed)

end ClassifierKind

namespace Declaration

/-- The parts of a declaration that have been read. -/
structure Draft where
  kind : Option ClassifierKind := none
  name : Option String := none
  modifiers : Option (List String) := none
  members : Option (List Member) := none
  parents : Option (List String) := none
  interfaces : Option (List String) := none

/-- Reads a member of the object that a declaration is written as. -/
def Draft.step (levels : Nat) (d : Draft) (member : Option String × Json.Reading) :
    Json.Decoded Draft := do
  match member.1 with
  | some "kind" =>
    Json.once "kind" d.kind
    return { d with kind := some (← ClassifierKind.decode levels member.2) }
  | some "name" =>
    Json.once "name" d.name
    return { d with name := some (← member.2.asString) }
  | some "modifiers" =>
    Json.once "modifiers" d.modifiers
    return { d with modifiers := some (← member.2.asStrings levels) }
  | some "members" =>
    Json.once "members" d.members
    return { d with members := some (← member.2.asListOf Member.decode levels) }
  | some "extends" =>
    Json.once "extends" d.parents
    return { d with parents := some (← member.2.asStrings levels) }
  | some "implements" =>
    Json.once "implements" d.interfaces
    return { d with interfaces := some (← member.2.asStrings levels) }
  | some _ =>
    Json.orFault member.2.skip
    return d
  | none => .error (.fault .malformed)

/-- The wording of what an array of too few items should have been. -/
def wanted : String := "struct Declaration with 6 elements"

/-- Decodes the next item of an array, or finds its end. -/
def nextItem? {α : Type} (decoder : Json.Reading → Json.Decoded α) (ending : Json.Ending) :
    List Json.Reading → Json.Decoded (Option α × List Json.Reading)
  | [] => do
    Json.orFault ending.check
    return (none, [])
  | r :: items => do return (some (← decoder r), items)

/-- Decodes the next item of an array, which has no default. -/
def nextItem {α : Type} (decoder : Json.Reading → Json.Decoded α) (ending : Json.Ending)
    (index : Nat) (items : List Json.Reading) : Json.Decoded (α × List Json.Reading) := do
  match ← nextItem? decoder ending items with
  | (some a, items) => return (a, items)
  | (none, _) => Json.misfit (.wrongLength index wanted)

/-- Decodes a declaration. -/
def decode (levels : Nat) : Json.Reading → Json.Decoded Declaration
  | .object members ending =>
    Json.Reading.enter levels fun levels => do
      let d ← members.foldlM (Draft.step levels) {}
      Json.orFault ending.check
      let kind ← Json.required "kind" d.kind
      let name ← Json.required "name" d.name
      return {
        kind, name, modifiers := d.modifiers.getD [], members := d.members.getD []
        parents := d.parents.getD [], interfaces := d.interfaces.getD [] }
  | .array items ending =>
    Json.Reading.enter levels fun levels => do
      let (kind, items) ← nextItem (ClassifierKind.decode levels) ending 0 items
      let (name, items) ← nextItem Json.Reading.asString ending 1 items
      let (modifiers, items) ← nextItem? (Json.Reading.asStrings levels) ending items
      let (members, items) ← nextItem? (Json.Reading.asListOf Member.decode levels) ending items
      let (parents, items) ← nextItem? (Json.Reading.asStrings levels) ending items
      let (interfaces, items) ← nextItem? (Json.Reading.asStrings levels) ending items
      match items, ending with
      | [], .closed =>
        return {
          kind, name, modifiers := modifiers.getD [], members := members.getD []
          parents := parents.getD [], interfaces := interfaces.getD [] }
      | [], .unclosed b => .error (.fault b.reading)
      | _, _ => .error (.fault .malformed)
  | r => r.refuse "struct Declaration"

/-- Decodes a list of declarations. -/
def decodeList : Nat → Json.Reading → Json.Decoded (List Declaration) :=
  Json.Reading.asListOf decode

/-- Reads one declaration from a JSON text. -/
def ofText (text : String) : Json.Decoded Declaration :=
  Json.decode (decode Json.Reading.maxDepth) text

/-- Reads a list of declarations from a JSON text. -/
def listOfText (text : String) : Json.Decoded (List Declaration) :=
  Json.decode (decodeList Json.Reading.maxDepth) text

end Declaration

end JavaUml
