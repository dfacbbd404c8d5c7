/-
# The vocabulary of a document

The types of the nodes of a document, the collections in which a node keeps its children, and the
words that stand in the fields of a node.
-/
import JavaUml.Text.Blank

namespace JavaUml

/-- The type of a node. -/
inductive NodeKind
  | project
  | model
  | classDiagram
  | classNode
  | interfaceNode
  | attributeNode
  | operation
  | parameter
  | generalization
  | interfaceRealization
  | association
  | associationEnd
  | stateMachine
  | region
  | state
  | pseudostate
  | finalState
  | transition
  | event
  | collaboration
  | interaction
  | sequenceDiagram
  | lifeline
  | message
deriving DecidableEq, Repr

namespace NodeKind

/-- The name of a type in a document. -/
def tag : NodeKind → String
  | project => "Project"
  | model => "UMLModel"
  | classDiagram => "UMLClassDiagram"
  | classNode => "UMLClass"
  | interfaceNode => "UMLInterface"
  | attributeNode => "UMLAttribute"
  | operation => "UMLOperation"
  | parameter => "UMLParameter"
  | generalization => "UMLGeneralization"
  | interfaceRealization => "UMLInterfaceRealization"
  | association => "UMLAssociation"
  | associationEnd => "UMLAssociationEnd"
  | stateMachine => "UMLStateMachine"
  | region => "UMLRegion"
  | state => "UMLState"
  | pseudostate => "UMLPseudostate"
  | finalState => "UMLFinalState"
  | transition => "UMLTransition"
  | event => "UMLEvent"
  | collaboration => "UMLCollaboration"
  | interaction => "UMLInteraction"
  | sequenceDiagram => "UMLSequenceDiagram"
  | lifeline => "UMLLifeline"
  | message => "UMLMessage"

/-- All types of nodes. -/
def all : List NodeKind :=
  [project, model, classDiagram, classNode, interfaceNode, attributeNode, operation, parameter,
    generalization, interfaceRealization, association, associationEnd, stateMachine, region, state,
    pseudostate, finalState, transition, event, collaboration, interaction, sequenceDiagram,
    lifeline, message]

/-- The type with a name. -/
def ofTag? (tag : String) : Option NodeKind := all.find? fun kind => kind.tag == tag

/-- A class or interface, which a name can be bound to. -/
def isClassifier (kind : NodeKind) : Bool := kind == classNode || kind == interfaceNode

/-- A relationship with a source and a target. -/
def isDirectedRelationship (kind : NodeKind) : Bool :=
  kind == generalization || kind == interfaceRealization

/-- A vertex of a state machine. -/
def isVertex (kind : NodeKind) : Bool :=
  kind == state || kind == pseudostate || kind == finalState

end NodeKind

/-- A collection in which a node keeps children. -/
inductive Slot
  | ownedElements
  | attributes
  | operations
  | parameters
  | regions
  | vertices
  | transitions
  | triggers
  | participants
  | messages
  | endOne
  | endTwo
deriving DecidableEq, Repr

namespace Slot

/-- The key of a collection in a document. -/
def key : Slot → String
  | ownedElements => "ownedElements"
  | attributes => "attributes"
  | operations => "operations"
  | parameters => "parameters"
  | regions => "regions"
  | vertices => "vertices"
  | transitions => "transitions"
  | triggers => "triggers"
  | participants => "participants"
  | messages => "messages"
  | endOne => "end1"
  | endTwo => "end2"

/-- All collections. -/
def all : List Slot :=
  [ownedElements, attributes, operations, parameters, regions, vertices, transitions, triggers,
    participants, messages, endOne, endTwo]

/-- The collection with a key. -/
def ofKey? (key : String) : Option Slot := all.find? fun slot => slot.key == key

/-- A collection of which only the first child is written, not as an array but as it is. -/
def isSingular (slot : Slot) : Bool := slot == endOne || slot == endTwo

end Slot

/-- How far a member can be seen. -/
inductive Visibility
  | everywhere
  | inherited
  | within
deriving DecidableEq, Repr

namespace Visibility

/-- The word for a visibility. -/
def word : Visibility → String
  | everywhere => "public"
  | inherited => "protected"
  | within => "private"

/-- All visibilities. -/
def all : List Visibility := [everywhere, inherited, within]

/-- The visibility that a modifier stands for, white space around it aside. -/
def ofModifier? (modifier : String) : Option Visibility :=
  all.find? fun visibility => visibility.word == Text.trim modifier

/-- The visibility that the first modifier of a list which has one stands for. -/
def ofModifiers? (modifiers : List String) : Option Visibility :=
  modifiers.findSome? ofModifier?

end Visibility

/-- How the thing at an end of an association belongs to the other end. -/
inductive Aggregation
  | none
  | shared
  | composite
deriving DecidableEq, Repr

/-- The word for an aggregation. -/
def Aggregation.word : Aggregation → String
  | none => "none"
  | shared => "shared"
  | composite => "composite"

/-- All aggregations. -/
def Aggregation.all : List Aggregation := [none, shared, composite]

/-- Whether a parameter goes into an operation or comes out of it. -/
inductive Direction
  | inward
  | outward
deriving DecidableEq, Repr

/-- The word for a direction. -/
def Direction.word : Direction → String
  | inward => "in"
  | outward => "return"

/-- All directions. -/
def Direction.all : List Direction := [inward, outward]

/-- What a pseudostate is for. -/
inductive PseudostateKind
  | initial
deriving DecidableEq, Repr

/-- The word for a kind of pseudostate. -/
def PseudostateKind.word : PseudostateKind → String
  | initial => "initial"

/-- All kinds of pseudostates. -/
def PseudostateKind.all : List PseudostateKind := [initial]

end JavaUml
