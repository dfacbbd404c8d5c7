/-
# Assembling a model

A model is assembled from declarations in one pass: the project with its model and class diagram,
the declarations, the relationships, the state machine and the interaction, if there are any. At
last the types of fields and methods that are declared classes become references.
-/
import JavaUml.ClassModel.Mapping
import JavaUml.ClassModel.Relationships
import JavaUml.Document.Json
import JavaUml.Document.Resolve
import JavaUml.Declaration.Json
import JavaUml.Interaction
import JavaUml.StateMachine

namespace JavaUml

/-- What can be chosen about a model. -/
structure AssemblyConfig where
  seed : UInt64 := defaultSeed
  project : String := "projectName"
  model : String := "Model"
  diagram : String := "Main"
  stateMachine : String := "StateMachine"
  interaction : Interaction.Names := {}
  /-- Whether relationships that are dropped are told. -/
  reporting : Bool := false
deriving DecidableEq, Repr

/-- A model that has been assembled. -/
structure Assembly where
  document : Document
  model : NodeId
  stateMachine : Option NodeId
  collaboration : Option NodeId
  diagnostics : List UnresolvedRelationship
  resolved : Nat

/-- The edges of a channel, in order. -/
def RoutedEdge.onChannel (channel : Channel) (edges : List RoutedEdge) : List Edge :=
  edges.filterMap fun e => if e.channel = channel then some e.edge else none

namespace Assembly

/-- Draws the model and its class diagram. -/
def drawModel (config : AssemblyConfig) : Drawing NodeId := do
  let model ← Drawing.attach (← Drawing.root) .ownedElements
    { kind := .model, name := some config.model }
  let _ ← Drawing.attach model .ownedElements
    { kind := .classDiagram, name := some config.diagram
      fields := [("defaultDiagram", .flag true)] }
  return model

/-- Maps declarations into a model, and gives the edges of all annotations. -/
def mapAll (model : NodeId) (ds : List Declaration) : Mapping (List RoutedEdge) := do
  let mapped ← ds.mapM (Mapping.mapDeclaration model)
  return mapped.flatMap MappedDeclaration.edges

/-- What the diagrams of an assembly are. -/
structure Diagrams where
  report : RelationshipReport
  stateMachine : Option NodeId
  collaboration : Option NodeId

/-- Draws the relationships, the state machine and the interaction. -/
def drawDiagrams (config : AssemblyConfig) (classes : ClassStore) (edges : List RoutedEdge) :
    Drawing Diagrams := do
  let report ← Relationship.drawAll config.reporting classes
  let states := (RoutedEdge.onChannel .trigger edges).foldl StateRegistry.addTransition .empty
  let stateMachine ← StateMachine.draw config.stateMachine states
  let participants :=
    (RoutedEdge.onChannel .message edges).foldl ParticipantRegistry.addMessage .empty
  let collaboration ← Interaction.draw config.interaction participants
  return ⟨report, stateMachine, collaboration⟩

end Assembly

/-- Assembles a model from declarations. -/
def assemble (config : AssemblyConfig) (ds : List Declaration) : Except ModelError Assembly := do
  let document ← Document.new (.new config.seed) .project config.project
  let (outcome, document) := (Assembly.drawModel config).run document
  let model ← outcome
  let (outcome, ⟨document, classes⟩) := (Assembly.mapAll model ds).run { document }
  let edges ← outcome
  let (outcome, document) := (Assembly.drawDiagrams config classes edges).run document
  let diagrams ← outcome
  let (document, resolved) := document.resolveSymbols model classes.bindings
  return {
    document, model, resolved
    stateMachine := diagrams.stateMachine
    collaboration := diagrams.collaboration
    diagnostics := diagrams.report.unresolved }

/-! ## From text to text -/

/-- Why a JSON text cannot be turned into a document. -/
inductive RenderError
  | input (e : Json.DecodeError)
  | model (e : ModelError)
deriving DecidableEq, Repr

/-- The indented text of the document that is assembled from declarations. -/
def documentText (ds : List Declaration) : Except ModelError String := do
  return (← assemble {} ds).document.text true

/-- Reads declarations from a JSON text and writes the document that is assembled from them. -/
def renderJson (text : String) : Except RenderError String := do
  let ds ← (Declaration.listOfText text).mapError .input
  (documentText ds).mapError .model

end JavaUml
