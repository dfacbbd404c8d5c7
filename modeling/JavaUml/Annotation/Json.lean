/-
# Annotations in JSON

An annotation is written as an object with the name of its family under `family`, followed by the
parts of its entry (`from` and `to`) or by the list of its entries (`value`).
-/
import JavaUml.Annotation
import JavaUml.Json.Decoding

namespace JavaUml

/-! ## Writing -/

/-- The JSON value of the targets of an entry. -/
def Targets.toJson : Targets → Json
  | .one name => .string name
  | .many names => .strings names

/-- The members of the object that an entry is written as. -/
def Endpoints.toMembers (e : Endpoints) : List (String × Json) :=
  [("from", .string e.source), ("to", e.targets.toJson)]

/-- The JSON value of an annotation. -/
def Annotation.toJson (a : Annotation) : Json :=
  .object <| ("family", .string a.family.name) :: match a with
    | .single _ entry => entry.toMembers
    | .group _ entries => [("value", .array (entries.map fun e => .object e.toMembers))]

/-! ## Reading -/

/-- Decodes the targets of an entry. -/
def Targets.decode (v : Json) : Json.Decoded Targets :=
  match v with
  | .string name => return .one name
  | v =>
    match v.asStrings with
    | .ok names => return .many names
    | .error _ => Json.misfit (.noShape "Target")

namespace Endpoints

/-- The parts of an entry that have been read. -/
structure Draft where
  source : Option String := none
  targets : Option Targets := none

/-- Reads a member of the object that an entry is written as. -/
def Draft.step (d : Draft) (member : String × Json) : Json.Decoded Draft := do
  match member.1 with
  | "from" =>
    Json.once "from" d.source
    return { d with source := some (← member.2.asString) }
  | "to" =>
    Json.once "to" d.targets
    return { d with targets := some (← Targets.decode member.2) }
  | _ => return d

/-- The wording of what an array of too few items should have been. -/
def wanted : String := "struct Endpoints with 2 elements"

/-- Decodes an entry. -/
def decode : Json → Json.Decoded Endpoints
  | .object members => do
    let d ← members.foldlM Draft.step {}
    return ⟨← Json.required "from" d.source, ← Json.required "to" d.targets⟩
  | .array items => do
    let (source, items) ← Json.nextItem Json.asString 0 wanted items
    let (targets, items) ← Json.nextItem Targets.decode 1 wanted items
    Json.noMore 2 items
    return ⟨source, targets⟩
  | v => v.refuse "struct Endpoints"

end Endpoints

namespace Family

/-- Decodes the name of a family. -/
def decodeName (name : String) : Json.Decoded Family :=
  match ofName? name with
  | some family => return family
  | none => Json.misfit (.unknownVariant name (all.map Family.name))

/-- Decodes the tag of an annotation: the name of its family, or its number. -/
def decode : Json → Json.Decoded Family
  | .string name => decodeName name
  | .number (.natural n) =>
    match all[n]? with
    | some family => return family
    | none => Json.misfit (.wrongIndex n all.length)
  | v => v.refuse "variant identifier"

/-- Decodes the tag of an annotation that stands on its own: the name of its family. -/
def decodeReading : Json.Reading → Json.Decoded Family
  | .string name => decodeName name
  | r => r.refuse "variant identifier"

end Family

namespace Annotation

/-- Decodes the entries of a group. -/
def decodeEntries (family : Family) : Json → Json.Decoded (List Endpoints)
  | .object members => do
    let entries ← members.foldlM (fun entries member => do
      if member.1 = "value" then
        Json.once "value" entries
        return some (← member.2.asListOf Endpoints.decode)
      else
        return entries) none
    Json.required "value" entries
  | .array items => do
    let wanted := "struct variant Annotation::" ++ family.name ++ " with 1 element"
    let (entries, items) ← Json.nextItem (Json.asListOf Endpoints.decode) 0 wanted items
    Json.noMore 1 items
    return entries
  | v => v.refuse ("struct variant Annotation::" ++ family.name)

/-- Decodes the rest of an annotation of a family. -/
def decodeRest (family : Family) (rest : Json) : Json.Decoded Annotation := do
  if family.grouped then
    return .group family.channel (← decodeEntries family rest)
  else
    return .single family.channel (← Endpoints.decode rest)

/-- The wording of what should have been an annotation. -/
def wanted : String := "internally tagged enum Annotation"

/-- Decodes an annotation. -/
def decode (v : Json) : Json.Decoded Annotation := do
  let (family, rest) ← v.asTagged "family" wanted Family.decode
  decodeRest family rest

/-- Decodes an annotation that stands in a text on its own. -/
def decodeReading (levels : Nat) (r : Json.Reading) : Json.Decoded Annotation := do
  let (family, rest) ← r.asTagged "family" wanted Family.decodeReading levels
  decodeRest family rest

end Annotation

end JavaUml
