/-
# Trigger and message annotations

A method can say which state transitions it triggers and which messages it sends. An annotation
holds one entry, or a group of them; an entry leads from one name to one name or to a list of names.
Each annotation stands for a list of edges, one for every target of every entry in order, which all
carry the name of the method and go to one channel.
-/
import JavaUml.Text.Blank

namespace JavaUml

/-- Where the edges of an annotation belong. -/
inductive Channel
  /-- Transitions of the state machine. -/
  | trigger
  /-- Messages between participants. -/
  | message
deriving DecidableEq, Repr

/-- The names that an entry leads to. One name and a list of one name are written differently. -/
inductive Targets
  | one (name : String)
  | many (names : List String)
deriving DecidableEq, Repr

/-- The targets as a list. -/
def Targets.names : Targets → List String
  | .one name => [name]
  | .many names => names

/-- An entry of an annotation. -/
structure Endpoints where
  source : String
  targets : Targets
deriving DecidableEq, Repr

/-- The name under which an annotation stands in a source: its channel, and whether it is a
group. -/
structure Family where
  channel : Channel
  grouped : Bool
deriving DecidableEq, Repr

/-- The name of a family. -/
def Family.name : Family → String
  | ⟨.trigger, false⟩ => "Trigger"
  | ⟨.trigger, true⟩ => "Triggers"
  | ⟨.message, false⟩ => "SendMessage"
  | ⟨.message, true⟩ => "SendMessages"

/-- All families. -/
def Family.all : List Family :=
  [⟨.trigger, false⟩, ⟨.trigger, true⟩, ⟨.message, false⟩, ⟨.message, true⟩]

/-- The family with a name. -/
def Family.ofName? (name : String) : Option Family :=
  all.find? fun family => family.name == name

/-- An annotation of a method. -/
inductive Annotation
  | single (channel : Channel) (entry : Endpoints)
  | group (channel : Channel) (entries : List Endpoints)
deriving DecidableEq, Repr

/-- A labelled edge between two names. -/
structure Edge where
  source : String
  target : String
  label : String
deriving DecidableEq, Repr

/-- An edge with its channel. -/
structure RoutedEdge where
  channel : Channel
  edge : Edge
deriving DecidableEq, Repr

/-! ## What can be wrong with an annotation -/

/-- Why an annotation cannot be used. -/
inductive AnnotationFault
  | blankSource
  | blankTarget
  | missingBoth
  | missingSource
  | missingTarget
  | sourceNotString
  | targetsNotStrings
  | missingList
  | notAList
  | entryOfOtherKind
deriving DecidableEq, Repr

/-- The wording of a fault. -/
def AnnotationFault.reason : AnnotationFault → String
  | .blankSource => "`from` is blank"
  | .blankTarget => "`to` contains a blank name"
  | .missingBoth => "missing `from` and `to`"
  | .missingSource => "missing `from`"
  | .missingTarget => "missing `to`"
  | .sourceNotString => "`from` is not a string literal"
  | .targetsNotStrings => "`to` is neither a string literal nor an array of string literals"
  | .missingList => "missing annotation list"
  | .notAList => "value is not a list of annotations"
  | .entryOfOtherKind => "list entry is not an annotation"

/-- An annotation of a method that cannot be used. -/
structure MalformedAnnotation where
  family : Family
  method : String
  fault : AnnotationFault
deriving DecidableEq, Repr

/-- The message about an annotation that cannot be used. -/
def MalformedAnnotation.message (e : MalformedAnnotation) : String :=
  "Malformed @" ++ e.family.name ++ " annotation on " ++ e.method ++ "(): " ++ e.fault.reason

/-! ## Edges -/

/-- The edges of an entry. No name may be blank. -/
def Endpoints.edges (label : String) (e : Endpoints) : Except AnnotationFault (List Edge) := do
  if Text.isBlank e.source then throw .blankSource
  e.targets.names.mapM fun name =>
    if Text.isBlank name then throw .blankTarget else return ⟨e.source, name, label⟩

namespace Annotation

/-- The channel of an annotation. -/
def channel : Annotation → Channel
  | .single channel _ => channel
  | .group channel _ => channel

/-- The family of an annotation. -/
def family : Annotation → Family
  | .single channel _ => ⟨channel, false⟩
  | .group channel _ => ⟨channel, true⟩

/-- The entries of an annotation. -/
def entries : Annotation → List Endpoints
  | .single _ entry => [entry]
  | .group _ entries => entries

/-- The label that the edges of a method carry. -/
def label (method : String) : String := method ++ "()"

/-- The edges that an annotation of a method stands for. -/
def edges (method : String) (a : Annotation) : Except MalformedAnnotation (List RoutedEdge) :=
  match a.entries.mapM (Endpoints.edges (label method)) with
  | .ok edges => .ok (edges.flatten.map (⟨a.channel, ·⟩))
  | .error fault => .error ⟨a.family, method, fault⟩

end Annotation

end JavaUml
