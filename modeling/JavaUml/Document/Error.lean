/-
# What can go wrong with a model

An annotation that cannot be used, identifiers that are used up, a node that does not exist, or a
rule of the document that is broken.
-/
import JavaUml.Annotation
import JavaUml.Document.Ids

namespace JavaUml

/-- A rule of documents and of stores that is broken. -/
inductive Violation
  | outOfOrder (id : NodeId)
  | noParent (id : NodeId)
  | listedTimes (id : NodeId) (times : Nat) (parent : NodeId)
  | notParent (id child : NodeId)
  | unregisteredState (name : String)
  | unregisteredParticipant (name : String)
deriving DecidableEq, Repr

/-- The wording of a broken rule. -/
def Violation.text : Violation → String
  | outOfOrder id => "node " ++ id.text ++ " is out of identifier order"
  | noParent id => "node " ++ id.text ++ " has no parent"
  | listedTimes id times parent =>
    "node " ++ id.text ++ " appears " ++ toString times ++ " times under " ++ parent.text
  | notParent id child => "node " ++ id.text ++ " lists " ++ child.text ++ " but is not its parent"
  | unregisteredState name => "state '" ++ name ++ "' is not in the registry"
  | unregisteredParticipant name => "participant '" ++ name ++ "' is not in the registry"

/-- Why a model cannot be built. -/
inductive ModelError
  | malformed (e : MalformedAnnotation)
  | idsExhausted (seed : UInt64)
  | unknownNode (id : NodeId)
  | integrity (v : Violation)
deriving DecidableEq, Repr

/-- The message of an error. -/
def ModelError.message : ModelError → String
  | malformed e => e.message
  | idsExhausted seed =>
    "Identifier space exhausted: no ids left above seed " ++ toString seed.toNat
  | unknownNode id => "Unknown node " ++ id.text
  | integrity v => "Document integrity violated: " ++ v.text

end JavaUml
