/-
# State machines

The transitions of a state machine come from trigger annotations. Two names are special: the initial
state and the final state. The machine has one region with its vertices and transitions; a state
that no transition mentions is not drawn.
-/
import JavaUml.Document.Drawing
import JavaUml.Registry

namespace JavaUml

/-- The kind of a state. -/
inductive VertexKind
  | initial
  | final
  | state
deriving DecidableEq, Repr

namespace VertexKind

/-- The name of the initial state. -/
def initialName : String := "InitState"

/-- The name of the final state. -/
def finalName : String := "FinalState"

/-- The kind of state that a name stands for. -/
def ofName (name : String) : VertexKind :=
  if name = initialName then initial else if name = finalName then final else state

/-- The word for a kind. -/
def word : VertexKind → String
  | initial => "initial"
  | final => "final"
  | state => "state"

/-- What the node of a state starts with. -/
def draft (name : String) : VertexKind → NodeDraft
  | initial =>
    { kind := .pseudostate, name := some name
      fields := [("kind", .text PseudostateKind.initial.word)] }
  | final => { kind := .finalState, name := some name }
  | state => { kind := .state, name := some name }

end VertexKind

/-- States and the transitions between them. -/
abbrev StateRegistry := Registry VertexKind

namespace StateRegistry

/-- Adds a state, whose kind is told by its name. -/
def add (states : StateRegistry) (name : String) : StateRegistry :=
  states.register name (VertexKind.ofName name)

/-- Adds a transition. -/
def addTransition (states : StateRegistry) (e : Edge) : StateRegistry :=
  states.connect VertexKind.ofName e

end StateRegistry

namespace StateMachine

/-- What drawing state machines is called. -/
def passName : String := "state-machine"

/-- Draws a state in a region. -/
def drawVertex (states : StateRegistry) (region : NodeId) (name : String) : Drawing NodeId :=
  match states.kind? name with
  | some kind => Drawing.attach region .vertices (kind.draft name)
  | none => throw (.integrity (.unregisteredState name))

/-- Draws a transition in a region, with the event that triggers it. -/
def drawTransition (region source target : NodeId) (label : String) : Drawing Unit := do
  let transition ← Drawing.attach region .transitions
    { kind := .transition, name := some label
      fields := [("source", .reference source), ("target", .reference target)] }
  let _ ← Drawing.attach transition .triggers { kind := .event, name := some label }

/-- Draws a state machine under the root, or nothing if there are no transitions. -/
def draw (name : String) (states : StateRegistry) : Drawing (Option NodeId) := do
  if states.isEmpty then return none
  let machine ← Drawing.attach (← Drawing.root) .ownedElements
    { kind := .stateMachine, name := some name }
  let region ← Drawing.attach machine .regions
    { kind := .region, slots := [.vertices, .transitions] }
  let _ ← Drawing.edges (drawVertex states region) (drawTransition region) .empty states.edges
  return some machine

end StateMachine

end JavaUml
