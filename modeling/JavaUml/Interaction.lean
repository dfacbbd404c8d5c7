/-
# Interactions

The messages of an interaction come from message annotations. The interaction belongs to a
collaboration and has one sequence diagram, a lifeline for every participant that a message
mentions, and the messages.
-/
import JavaUml.Document.Drawing
import JavaUml.Registry

namespace JavaUml

/-- Participants and the messages between them. -/
abbrev ParticipantRegistry := Registry Unit

namespace ParticipantRegistry

/-- Adds a participant. -/
def add (participants : ParticipantRegistry) (name : String) : ParticipantRegistry :=
  participants.register name ()

/-- Adds a message. -/
def addMessage (participants : ParticipantRegistry) (e : Edge) : ParticipantRegistry :=
  participants.connect (fun _ => ()) e

end ParticipantRegistry

namespace Interaction

/-- What drawing interactions is called. -/
def passName : String := "sequence"

/-- The names of the nodes around an interaction. -/
structure Names where
  collaboration : String := "Collaboration"
  interaction : String := "Interaction"
  diagram : String := "SequenceDiagram"
deriving DecidableEq, Repr

/-- Draws the lifeline of a participant. -/
def drawLifeline (participants : ParticipantRegistry) (interaction : NodeId) (name : String) :
    Drawing NodeId :=
  match participants.kind? name with
  | some () => Drawing.attach interaction .participants { kind := .lifeline, name := some name }
  | none => throw (.integrity (.unregisteredParticipant name))

/-- Draws a message. -/
def drawMessage (interaction source target : NodeId) (label : String) : Drawing Unit := do
  let _ ← Drawing.attach interaction .messages
    { kind := .message, name := some label
      fields := [("source", .reference source), ("target", .reference target)] }

/-- Draws a collaboration with its interaction under the root, or nothing if there are no
messages. -/
def draw (names : Names) (participants : ParticipantRegistry) : Drawing (Option NodeId) := do
  if participants.isEmpty then return none
  let collaboration ← Drawing.attach (← Drawing.root) .ownedElements
    { kind := .collaboration, name := some names.collaboration }
  let interaction ← Drawing.attach collaboration .ownedElements
    { kind := .interaction, name := some names.interaction }
  let _ ← Drawing.attach interaction .ownedElements
    { kind := .sequenceDiagram, name := some names.diagram }
  Drawing.declareSlot interaction .participants
  Drawing.declareSlot interaction .messages
  let _ ← Drawing.edges (drawLifeline participants interaction) (drawMessage interaction) .empty
    participants.edges
  return some collaboration

end Interaction

end JavaUml
