/-
# Documents in JSON

Each node is written as an object: its type and identifier, a reference to its parent, its name, its
fields, and its collections with the nodes in them. A collection is an array; a singular one is its
first node as it is, and is left out if it is empty.
-/
import JavaUml.Document.Basic
import JavaUml.Json.Printer

namespace JavaUml

/-- The JSON value of a reference to a node. -/
def NodeId.toJson (id : NodeId) : Json := .object [("$ref", .string id.text)]

/-- The JSON value of a field. A name that was not replaced is a text. -/
def Value.toJson : Value → Json
  | .text s => .string s
  | .flag b => .boolean b
  | .reference id => id.toJson
  | .symbol name => .string name

/-- The members of the object of a node that come before its collections. -/
def Node.headMembers (node : Node) : List (String × Json) :=
  [("_type", .string node.kind.tag), ("_id", .string node.id.text)]
    ++ (node.parent.map fun parent => ("_parent", parent.toJson)).toList
    ++ (node.name.map fun name => ("name", .string name)).toList
    ++ node.fields.map fun field => (field.1, field.2.toJson)

/-- The member for a collection, given the JSON values of the nodes in it. -/
def Slot.toMember? (slot : Slot) (members : List Json) : Option (String × Json) :=
  if slot.isSingular then members.head?.map fun first => (slot.key, first)
  else some (slot.key, .array members)

namespace Document

/-- The JSON value of a node with a number of levels below it. -/
def nodeJson (doc : Document) : Nat → Node → Json
  | 0, node => .object node.headMembers
  | levels + 1, node =>
    .object <| node.headMembers ++ node.slots.filterMap fun slot =>
      slot.toMember? (((node.children.filterMap doc.get?).filter fun child =>
        child.slot == some slot).map (doc.nodeJson levels))

/-- The JSON value of a document. There are fewer levels in the tree than nodes. -/
def toJson (doc : Document) : Json := doc.nodeJson doc.size doc.rootNode

/-- The JSON text of a document, indented or on one line. -/
def text (doc : Document) (indented : Bool) : String :=
  if indented then doc.toJson.pretty else doc.toJson.compact

end Document

end JavaUml
