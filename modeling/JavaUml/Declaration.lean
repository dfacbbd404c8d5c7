/-
# Declarations

A declaration is a class or an interface with its members in order. Constructors, initializers and
nested types are members without content.
-/
import JavaUml.Annotation
import JavaUml.TypeRef.Basic

namespace JavaUml

/-- Class or interface. -/
inductive ClassifierKind
  | classType
  | interfaceType
deriving DecidableEq, Repr

/-- The word for a kind. -/
def ClassifierKind.word : ClassifierKind → String
  | .classType => "class"
  | .interfaceType => "interface"

/-- The kind with a word. -/
def ClassifierKind.ofWord? (word : String) : Option ClassifierKind :=
  if word = "class" then some .classType
  else if word = "interface" then some .interfaceType
  else none

/-- A field. -/
structure Field where
  name : String
  modifiers : List String := []
  type : TypeRef
deriving DecidableEq, Repr

/-- A parameter of a method. -/
structure Parameter where
  name : String
  type : TypeRef
deriving DecidableEq, Repr

/-- A method. -/
structure Method where
  name : String
  modifiers : List String := []
  returnType : TypeRef
  parameters : List Parameter := []
  annotations : List Annotation := []
deriving DecidableEq, Repr

/-- A member of a class or interface. -/
inductive Member
  | field (f : Field)
  | method (m : Method)
  | other
deriving DecidableEq, Repr

/-- A class or interface: its modifiers, its members, the names that it extends and the names that
it implements. -/
structure Declaration where
  kind : ClassifierKind
  name : String
  modifiers : List String := []
  members : List Member := []
  parents : List String := []
  interfaces : List String := []
deriving DecidableEq, Repr

/-- The field that a member is, if it is one. -/
def Member.field? : Member → Option Field
  | .field f => some f
  | _ => none

/-- The method that a member is, if it is one. -/
def Member.method? : Member → Option Method
  | .method m => some m
  | _ => none

/-- Whether a method has a modifier, spelled exactly so. -/
def Method.hasModifier (m : Method) (modifier : String) : Bool := m.modifiers.contains modifier

namespace Declaration

/-- Whether a declaration is an interface. -/
def isInterface (d : Declaration) : Bool := d.kind == .interfaceType

/-- The fields in order. -/
def fields (d : Declaration) : List Field := d.members.filterMap Member.field?

/-- The methods in order. -/
def methods (d : Declaration) : List Method := d.members.filterMap Member.method?

end Declaration

/-! ## Building declarations step by step -/

/-- Replaces the modifiers of a field. -/
def Field.withModifiers (f : Field) (modifiers : List String) : Field := { f with modifiers }

namespace Method

/-- Replaces the modifiers. -/
def withModifiers (m : Method) (modifiers : List String) : Method := { m with modifiers }

/-- Adds a parameter at the end. -/
def withParameter (m : Method) (name : String) (type : TypeRef) : Method :=
  { m with parameters := m.parameters ++ [⟨name, type⟩] }

/-- Adds an annotation at the end. -/
def withAnnotation (m : Method) (a : Annotation) : Method :=
  { m with annotations := m.annotations ++ [a] }

end Method

namespace Declaration

/-- Adds a modifier at the end. -/
def withModifier (d : Declaration) (modifier : String) : Declaration :=
  { d with modifiers := d.modifiers ++ [modifier] }

/-- Adds a member at the end. -/
def withMember (d : Declaration) (member : Member) : Declaration :=
  { d with members := d.members ++ [member] }

/-- Adds a name that the declaration extends. -/
def extending (d : Declaration) (name : String) : Declaration :=
  { d with parents := d.parents ++ [name] }

/-- Adds a name that the declaration implements. -/
def implementing (d : Declaration) (name : String) : Declaration :=
  { d with interfaces := d.interfaces ++ [name] }

end Declaration

end JavaUml
