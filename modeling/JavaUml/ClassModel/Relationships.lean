/-
# Drawing relationships

A relationship is drawn if both its names are declared. A generalization or realization belongs to
its source. An association belongs to the type that is used, and has an end for this type and an end
for the class that uses it. A relationship with a name that is not declared is dropped.
-/
import JavaUml.ClassModel.Store
import JavaUml.Document.Drawing

namespace JavaUml

/-- A relationship that was dropped, with its names that are not declared. -/
structure UnresolvedRelationship where
  relationship : Relationship
  missing : List String
deriving DecidableEq, Repr

/-- The message about a relationship that was dropped. -/
def UnresolvedRelationship.text (u : UnresolvedRelationship) : String :=
  "dropped " ++ u.relationship.kind.word ++ " " ++ u.relationship.source ++ " -> "
    ++ u.relationship.target ++ ": unknown " ++ ", ".intercalate u.missing

/-- How many relationships were drawn and how many dropped. -/
structure RelationshipReport where
  emitted : Nat := 0
  dropped : Nat := 0
  unresolved : List UnresolvedRelationship := []
deriving DecidableEq, Repr

namespace Relationship

/-- What drawing relationships is called. -/
def passName : String := "relationships"

/-- The names of a relationship that are not declared. -/
def missing (r : Relationship) (bindings : NameTable) : List String :=
  [r.source, r.target].filter fun name => !bindings.contains name

/-- Draws a relationship with a direction. -/
def drawDirected (kind : NodeKind) (source target : NodeId) : Drawing Unit := do
  let _ ← Drawing.attach source .ownedElements
    { kind, fields := [("source", .reference source), ("target", .reference target)] }

/-- Draws the association of a type that is used with the class that uses it. -/
def drawAssociation (part whole : NodeId) : Drawing Unit := do
  let association ← Drawing.attach part .ownedElements { kind := .association }
  let _ ← Drawing.attach association .endOne
    { kind := .associationEnd, fields := [("reference", .reference part)] }
  let _ ← Drawing.attach association .endTwo
    { kind := .associationEnd
      fields := [("reference", .reference whole), ("aggregation", .text Aggregation.shared.word)] }

/-- Draws a relationship of a kind. -/
def drawBetween (source target : NodeId) : RelationshipKind → Drawing Unit
  | .generalization => drawDirected .generalization source target
  | .realization => drawDirected .interfaceRealization source target
  | .aggregation => drawAssociation source target

/-- Draws a relationship or drops it, and counts it. -/
def draw (bindings : NameTable) (reporting : Bool) (report : RelationshipReport)
    (r : Relationship) : Drawing RelationshipReport := do
  match bindings.resolvePair r.source r.target with
  | some (source, target) =>
    drawBetween source target r.kind
    return { report with emitted := report.emitted + 1 }
  | none =>
    let unresolved := if reporting then [⟨r, r.missing bindings⟩] else []
    return { report with
      dropped := report.dropped + 1
      unresolved := report.unresolved ++ unresolved }

/-- Draws the relationships of a store in order. Those that are dropped are told if `reporting`. -/
def drawAll (reporting : Bool) (store : ClassStore) : Drawing RelationshipReport :=
  store.relationships.foldlM (draw store.bindings reporting) {}

end Relationship

end JavaUml
