/-
# Drawing

A drawing is a computation that adds nodes to a document. If it fails, the nodes that it has added
so far remain.
-/
import JavaUml.Annotation
import JavaUml.Document.Basic

namespace JavaUml

/-- A computation that adds nodes to a document and may fail. -/
abbrev Drawing (α : Type) := ExceptT ModelError (StateM Document) α

namespace Drawing

/-- A step that gives a result and a new document, or fails and leaves the document as it is. -/
def step {α : Type} (f : Document → Except ModelError (α × Document)) : Drawing α :=
  ExceptT.mk fun doc =>
    match f doc with
    | .ok (a, doc) => (.ok a, doc)
    | .error e => (.error e, doc)

/-- Adds a node to a collection of its parent. -/
def attach (parent : NodeId) (slot : Slot) (draft : NodeDraft) : Drawing NodeId :=
  step fun doc => doc.attach parent slot draft

/-- Makes a collection of a node appear even without children. -/
def declareSlot (id : NodeId) (slot : Slot) : Drawing Unit :=
  step fun doc => (doc.declareSlot id slot).map ((), ·)

/-- The root of the document. -/
def root : Drawing NodeId := step fun doc => .ok (doc.root, doc)

/-- The outcome of a drawing on a document. -/
def run {α : Type} (drawing : Drawing α) (doc : Document) : Except ModelError α × Document :=
  StateT.run (ExceptT.run drawing) doc

/-! ## Drawing edges

The nodes at the ends of edges are made when their names first occur, right before the edge. -/

/-- Draws an edge between nodes that are looked up by name, or made by `vertex` if they are new. -/
def edge (vertex : String → Drawing NodeId) (link : NodeId → NodeId → String → Drawing Unit)
    (vertices : NameTable) (e : Edge) : Drawing NameTable := do
  let (source, vertices) ← vertices.getOrBind e.source (vertex e.source)
  let (target, vertices) ← vertices.getOrBind e.target (vertex e.target)
  link source target e.label
  return vertices

/-- Draws edges in order. -/
def edges (vertex : String → Drawing NodeId) (link : NodeId → NodeId → String → Drawing Unit)
    (vertices : NameTable) : List Edge → Drawing NameTable
  | [] => return vertices
  | e :: es => do
    let vertices ← edge vertex link vertices e
    edges vertex link vertices es

end Drawing

end JavaUml
