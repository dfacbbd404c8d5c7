/-
# Scanning Java

The classes and interfaces at the top of a source become declarations. Their fields and methods are
kept, every other member becomes a member without content. Only annotations of methods that tell of
triggers or messages are looked at; one of these that cannot be understood is an error.
-/
import JavaUml.Java.StringLiteral
import JavaUml.Java.Syntax
import JavaUml.Text.Blank
import JavaUml.TypeRef.Reader

namespace JavaUml.Java

/-! ## Types -/

/-- The type that a text stands for, with some dimensions more. A text that cannot be parsed becomes
the name of the type as it is, apart from its white space. -/
def typeOfText (text : String) (dimensions : Nat) : TypeRef :=
  let collapsed := Text.collapse text
  ((TypeRef.parse? collapsed).getD (.named collapsed)).addDimensions dimensions

/-- The number of dimensions that are written in a text. -/
def bracketCount (text : String) : Nat := text.toList.count '['

/-- The name of a class type: its text up to the first type arguments, without white space. -/
def baseName (text : String) : String :=
  Text.squeeze (String.ofList (text.toList.takeWhile (· != '<')))

/-- The name of a type that a class extends or implements. -/
def SupertypeSyntax.name? : SupertypeSyntax → Option String
  | named text => some (baseName text)
  | unnamed => none

/-! ## Modifiers and fields -/

/-- The word that a modifier is, if it is one. -/
def ModifierSyntax.word? : ModifierSyntax → Option String
  | word text => some text
  | mark _ => none

/-- The annotation that a modifier is, if it is one. -/
def ModifierSyntax.mark? : ModifierSyntax → Option AnnotationSyntax
  | word _ => none
  | mark a => some a

/-- The fields of a declaration, one for each variable. -/
def FieldSyntax.fields (f : FieldSyntax) : List Field :=
  f.declarators.map fun d =>
    { name := d.name
      modifiers := f.modifiers.filterMap ModifierSyntax.word?
      type := typeOfText f.type (bracketCount d.dimensions) }

/-! ## Annotations -/

/-- The value of a string literal. -/
def ElementValue.string? : ElementValue → Option String
  | string literal => literalValue? literal
  | _ => none

/-- The targets that a value gives: one string, or an array of strings. -/
def ElementValue.targets? : ElementValue → Option Targets
  | string literal => (literalValue? literal).map .one
  | array values => (values.mapM ElementValue.string?).map .many
  | _ => none

/-- What an annotation has told so far about where it leads. -/
structure EndpointsDraft where
  source : Option String := none
  targets : Option Targets := none

/-- Takes an argument of an annotation. Of two arguments with the same key the later one counts. -/
def EndpointsDraft.take (d : EndpointsDraft) :
    AnnotationArgument → Except AnnotationFault EndpointsDraft
  | .pair "from" v =>
    match v.string? with
    | some source => .ok { d with source := some source }
    | none => .error .sourceNotString
  | .pair "to" v =>
    match v.targets? with
    | some targets => .ok { d with targets := some targets }
    | none => .error .targetsNotStrings
  | _ => .ok d

/-- The entry that is told. -/
def EndpointsDraft.finish (d : EndpointsDraft) : Except AnnotationFault Endpoints :=
  match d.source, d.targets with
  | some source, some targets => .ok ⟨source, targets⟩
  | none, _ => .error .missingSource
  | some _, none => .error .missingTarget

/-- The entry of an annotation. -/
def AnnotationSyntax.endpoints (a : AnnotationSyntax) : Except AnnotationFault Endpoints := do
  match a.arguments with
  | none => throw .missingBoth
  | some arguments => (← arguments.foldlM EndpointsDraft.take {}).finish

/-- The value of the argument with a key. -/
def valueOf? (key : String) : List AnnotationArgument → Option ElementValue
  | [] => none
  | .pair k v :: arguments => if k = key then some v else valueOf? key arguments
  | .value _ :: arguments => valueOf? key arguments

/-- The list in a group: the argument `value`, or else what stands there without a key. -/
def listValue? (arguments : List AnnotationArgument) : Option ElementValue :=
  match valueOf? "value" arguments, arguments with
  | some v, _ => some v
  | none, .value v :: _ => some v
  | none, _ => none

/-- The entry that an element of a group gives. -/
def ElementValue.entry : ElementValue → Except AnnotationFault Endpoints
  | mark a => if a.arguments.isSome then a.endpoints else .error .entryOfOtherKind
  | _ => .error .entryOfOtherKind

/-- The entries that the value of a group gives. An annotation stands for a list of itself. -/
def ElementValue.entries : ElementValue → Except AnnotationFault (List Endpoints)
  | array values => values.mapM ElementValue.entry
  | mark a => if a.arguments.isSome then return [← a.endpoints] else throw .notAList
  | _ => throw .notAList

/-- The entries of a group. -/
def AnnotationSyntax.group (a : AnnotationSyntax) : Except AnnotationFault (List Endpoints) :=
  match a.arguments.bind listValue? with
  | some v => v.entries
  | none => .error .missingList

/-- The part of a name behind its last dot. -/
def simpleName (name : String) : String :=
  String.ofList (name.toList.reverse.takeWhile (· != '.')).reverse

/-- The annotation of a method, if it belongs to a family. -/
def AnnotationSyntax.decode (method : String) (a : AnnotationSyntax) :
    Except MalformedAnnotation (Option Annotation) :=
  match Family.ofName? (simpleName a.name) with
  | none => .ok none
  | some family =>
    let result :=
      if family.grouped then a.group.map (.group family.channel)
      else a.endpoints.map (.single family.channel)
    match result with
    | .ok a => .ok (some a)
    | .error fault => .error ⟨family, method, fault⟩

/-! ## Methods and classes -/

/-- The parameter of a method. One that takes any number of arguments is an array. -/
def ParameterSyntax.parameter : ParameterSyntax → Parameter
  | single type name dimensions => ⟨name, typeOfText type (bracketCount dimensions)⟩
  | rest type name => ⟨name, typeOfText type 1⟩

/-- The method of a method declaration. -/
def MethodSyntax.method (m : MethodSyntax) : Except MalformedAnnotation Method := do
  let marks := m.modifiers.filterMap ModifierSyntax.mark?
  let annotations ← marks.mapM (AnnotationSyntax.decode m.name)
  return {
    name := m.name
    modifiers := m.modifiers.filterMap ModifierSyntax.word?
    returnType := typeOfText m.type (bracketCount m.dimensions)
    parameters := m.parameters.map ParameterSyntax.parameter
    annotations := annotations.filterMap id }

/-- The members that a member of a source gives. -/
def MemberSyntax.members : MemberSyntax → Except MalformedAnnotation (List Member)
  | field f => return f.fields.map .field
  | method m => return [.method (← m.method)]
  | other => return [.other]

/-- The declaration of a class or interface. -/
def ClassifierSyntax.declaration (c : ClassifierSyntax) :
    Except MalformedAnnotation Declaration := do
  let members ← c.members.mapM MemberSyntax.members
  return {
    kind := c.kind
    name := c.name
    modifiers := c.modifiers.filterMap ModifierSyntax.word?
    members := members.flatten
    parents := c.parents.filterMap SupertypeSyntax.name?
    interfaces := c.interfaces.filterMap SupertypeSyntax.name? }

/-- The declarations of a source, or nothing if its syntax is not correct. -/
def scanSource (source : String) : Except MalformedAnnotation (Option (List Declaration)) :=
  match readSource? source with
  | none => .ok none
  | some classifiers => (classifiers.mapM ClassifierSyntax.declaration).map some

end JavaUml.Java
