/-
# Mapping declarations

A class or interface becomes a node with an attribute for every field and an operation for every
method. The first parameter of an operation has no name and stands for what it returns. The
relationships of the declaration go to the store, and the annotations of its methods are turned into
edges.
-/
import JavaUml.ClassModel.Store
import JavaUml.Document.Drawing

namespace JavaUml

/-- A document together with the store of its classes. -/
structure ClassModel where
  document : Document
  classes : ClassStore := .empty

/-- A computation that adds to a class model and may fail. What it has added so far remains. -/
abbrev Mapping (α : Type) := ExceptT ModelError (StateM ClassModel) α

namespace Mapping

/-- Draws in the document. -/
def draw {α : Type} (drawing : Drawing α) : Mapping α :=
  ExceptT.mk fun model =>
    let (outcome, document) := drawing.run model.document
    (outcome, { model with document })

/-- Changes the store. -/
def store (f : ClassStore → ClassStore) : Mapping Unit :=
  ExceptT.mk fun model => (.ok (), { model with classes := f model.classes })

/-- Goes on with a result, or fails without a change. -/
def outcome {α : Type} (result : Except ModelError α) : Mapping α :=
  ExceptT.mk fun model => (result, model)

/-- The outcome of a mapping on a class model. -/
def run {α : Type} (mapping : Mapping α) (model : ClassModel) : Except ModelError α × ClassModel :=
  StateT.run (ExceptT.run mapping) model

end Mapping

/-! ## What the nodes start with -/

/-- The type of the node for a declaration. -/
def ClassifierKind.nodeKind : ClassifierKind → NodeKind
  | .classType => .classNode
  | .interfaceType => .interfaceNode

/-- A field that is there with the value true, or not there. -/
def flagField (key : String) (present : Bool) : FieldList :=
  if present then [(key, .flag true)] else []

/-- The field for the visibility that modifiers give, if they give one. -/
def visibilityField (modifiers : List String) : FieldList :=
  match Visibility.ofModifiers? modifiers with
  | some visibility => [("visibility", .text visibility.word)]
  | none => []

/-- The field for a type, as a name that may become a reference. -/
def typeField (t : TypeRef) : String × Value := ("type", .symbol t.text)

/-- What the node for a declaration starts with. That an interface is abstract is not told. -/
def Declaration.draft (d : Declaration) : NodeDraft :=
  { kind := d.kind.nodeKind, name := some d.name
    slots := [.attributes, .operations]
    fields := flagField "isAbstract" (d.kind == .classType && d.modifiers.contains "abstract") }

/-- What the node for a field starts with. -/
def Field.draft (f : Field) : NodeDraft :=
  { kind := .attributeNode, name := some f.name
    fields := visibilityField f.modifiers ++ flagField "isStatic" (f.modifiers.contains "static")
      ++ [typeField f.type] }

/-- What the node for a method starts with. -/
def Method.draft (m : Method) : NodeDraft :=
  { kind := .operation, name := some m.name
    slots := [.parameters]
    fields := visibilityField m.modifiers ++ flagField "isStatic" (m.hasModifier "static")
      ++ flagField "isAbstract" (m.hasModifier "abstract") }

/-- What the node for the result of a method starts with. -/
def returnDraft (t : TypeRef) : NodeDraft :=
  { kind := .parameter, fields := [typeField t, ("direction", .text Direction.outward.word)] }

/-- What the node for a parameter starts with. -/
def Parameter.draft (p : Parameter) : NodeDraft :=
  { kind := .parameter, name := some p.name, fields := [typeField p.type] }

/-! ## Relationships -/

/-- The relationships to the types that a declaration extends and implements. -/
def Declaration.supertypes (d : Declaration) : List Relationship :=
  d.parents.map (⟨.generalization, d.name, ·⟩) ++ d.interfaces.map (⟨.realization, d.name, ·⟩)

/-- The relationships to the types that a field of a class mentions, the outermost first. -/
def Field.aggregations (f : Field) (className : String) : List Relationship :=
  f.type.referenceNames.map (⟨.aggregation, ·, className⟩)

/-! ## Mapping -/

/-- What has become of a declaration: its node, and the edges of its annotations. -/
structure MappedDeclaration where
  id : NodeId
  edges : List RoutedEdge
deriving DecidableEq, Repr

namespace Mapping

/-- Draws parameters of an operation. -/
def drawParameters (operation : NodeId) (ps : List Parameter) : Drawing Unit :=
  ps.forM fun p => do
    let _ ← Drawing.attach operation .parameters p.draft

/-- Draws a method. -/
def drawMethod (classNode : NodeId) (m : Method) : Drawing Unit := do
  let operation ← Drawing.attach classNode .operations m.draft
  let _ ← Drawing.attach operation .parameters (returnDraft m.returnType)
  drawParameters operation m.parameters

/-- The edges of the annotations of a method. -/
def annotationEdges (m : Method) : Except ModelError (List RoutedEdge) :=
  match m.annotations.mapM (fun a => a.edges m.name) with
  | .ok edges => .ok edges.flatten
  | .error e => .error (.malformed e)

/-- Maps a member of a class, and gives the edges of its annotations. -/
def mapMember (className : String) (classNode : NodeId) : Member → Mapping (List RoutedEdge)
  | .field f => do
    let _ ← draw (Drawing.attach classNode .attributes f.draft)
    store (·.addRelationships (f.aggregations className))
    return []
  | .method m => do
    draw (drawMethod classNode m)
    outcome (annotationEdges m)
  | .other => return []

/-- Maps a declaration into the children of a node. -/
def mapDeclaration (owner : NodeId) (d : Declaration) : Mapping MappedDeclaration := do
  let id ← draw (Drawing.attach owner .ownedElements d.draft)
  store (·.addClass ⟨d.name, d.kind, id⟩)
  store (·.addRelationships d.supertypes)
  let edges ← d.members.mapM (mapMember d.name id)
  return ⟨id, edges.flatten⟩

end Mapping

end JavaUml
