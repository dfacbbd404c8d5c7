/-
# Declarations in a syntax tree

What a model needs of a source is read from its tree: the classes and interfaces at the top with
their members, and the annotations of methods. Types and dimensions are kept as they are written.
-/
import JavaUml.Declaration
import JavaUml.Java.Grammar
import JavaUml.Java.Lexer

namespace JavaUml.Java

/-! ## Syntax -/

mutual

/-- A value in an annotation. -/
inductive ElementValue
  /-- A string literal with its quotes. -/
  | string (literal : String)
  | mark (a : AnnotationSyntax)
  | array (values : List ElementValue)
  /-- Any other expression. -/
  | other

/-- What is between the parentheses of an annotation, one piece of it. -/
inductive AnnotationArgument
  | pair (key : String) (value : ElementValue)
  | value (v : ElementValue)

/-- An annotation. One without parentheses has no arguments, not even an empty list of them. -/
inductive AnnotationSyntax
  | mk (name : String) (arguments : Option (List AnnotationArgument))

end

namespace AnnotationSyntax

/-- The name of an annotation, as it is written. -/
def name : AnnotationSyntax → String
  | mk name _ => name

/-- What is between the parentheses of an annotation, if it has some. -/
def arguments : AnnotationSyntax → Option (List AnnotationArgument)
  | mk _ arguments => arguments

end AnnotationSyntax

/-- A modifier: a word or an annotation. -/
inductive ModifierSyntax
  | word (text : String)
  | mark (a : AnnotationSyntax)

/-- One of the variables of a field declaration, with the dimensions behind its name. -/
structure DeclaratorSyntax where
  name : String
  dimensions : String := ""

/-- A declaration of fields of one type. -/
structure FieldSyntax where
  modifiers : List ModifierSyntax := []
  type : String
  declarators : List DeclaratorSyntax

/-- A parameter of a method. -/
inductive ParameterSyntax
  | single (type name dimensions : String)
  /-- A parameter that takes any number of arguments. -/
  | rest (type name : String)

/-- A method, with the dimensions behind its parameters. -/
structure MethodSyntax where
  modifiers : List ModifierSyntax := []
  type : String
  name : String
  parameters : List ParameterSyntax := []
  dimensions : String := ""

/-- A member of a class or interface. -/
inductive MemberSyntax
  | field (f : FieldSyntax)
  | method (m : MethodSyntax)
  | other

/-- A type that a class extends or implements: the text of a class type without annotations, or
something that has no name, such as an array. -/
inductive SupertypeSyntax
  | named (text : String)
  | unnamed

/-- A class or interface. -/
structure ClassifierSyntax where
  kind : ClassifierKind
  modifiers : List ModifierSyntax := []
  name : String
  parents : List SupertypeSyntax := []
  interfaces : List SupertypeSyntax := []
  members : List MemberSyntax := []

/-! ## Looking into trees -/

/-- A tree of the grammar. -/
abbrev JavaTree := Tree Rule

/-- The children of the first tree of a rule. -/
def child? (r : Rule) : List JavaTree → Option (List JavaTree)
  | [] => none
  | .node r' children :: trees => if r' = r then some children else child? r trees
  | .leaf _ :: trees => child? r trees

/-- The children of the first tree of a rule, or nothing. -/
def child (r : Rule) (trees : List JavaTree) : List JavaTree := (child? r trees).getD []

/-- The source text of some trees that stand side by side. -/
def textOf (trees : List JavaTree) : String := Fragment.text (Tree.tokensOfAll trees)

/-- The source text of the first tree of a rule, or nothing. -/
def childText (r : Rule) (trees : List JavaTree) : String := textOf (child r trees)

/-! ## Annotations -/

mutual

/-- Reads a value in an annotation. -/
def readElement : JavaTree → ElementValue
  | .leaf _ => .other
  | .node r children =>
    if r = .mark then .mark (readMark children)
    else if r = .valueArray then .array (readElements children)
    else
      match Tree.tokensOfAll children with
      | [t] => if t.kind = .string then .string t.text else .other
      | _ => .other

/-- Reads the values among some trees. -/
def readElements : List JavaTree → List ElementValue
  | [] => []
  | .leaf _ :: trees => readElements trees
  | .node r children :: trees => readElement (.node r children) :: readElements trees

/-- Reads the value of a pair. -/
def readPairValue : List JavaTree → ElementValue
  | [] => .other
  | .leaf _ :: trees => readPairValue trees
  | .node r children :: trees =>
    if r = .declaredName then readPairValue trees else readElement (.node r children)

/-- Reads the arguments of an annotation. -/
def readArguments : List JavaTree → List AnnotationArgument
  | [] => []
  | .leaf _ :: trees => readArguments trees
  | .node r children :: trees =>
    (if r = .elementPair then .pair (childText .declaredName children) (readPairValue children)
      else .value (readElement (.node r children))) :: readArguments trees

/-- Reads what is between the parentheses of an annotation. -/
def readParentheses : List JavaTree → Option (List AnnotationArgument)
  | [] => none
  | .leaf _ :: trees => readParentheses trees
  | .node r children :: trees =>
    if r = .annotationArguments then some (readArguments children) else readParentheses trees

/-- Reads an annotation. -/
def readMark : List JavaTree → AnnotationSyntax
  | trees => .mk (childText .qualifiedName trees) (readParentheses trees)

end

/-! ## Members -/

/-- Reads a modifier. -/
def readModifier : JavaTree → ModifierSyntax
  | .node .mark children => .mark (readMark children)
  | tree => .word tree.text

/-- Reads the modifiers of a declaration. -/
def readModifiers (trees : List JavaTree) : List ModifierSyntax :=
  (child .modifiers trees).map readModifier

/-- Reads a variable of a field declaration. -/
def readDeclarator? : JavaTree → Option DeclaratorSyntax
  | .node .variableDeclarator children =>
    some ⟨childText .declaredName children, childText .dimensions children⟩
  | _ => none

/-- Reads a field declaration. -/
def readField (trees : List JavaTree) : FieldSyntax where
  modifiers := readModifiers trees
  type := childText .plainType trees
  declarators := trees.filterMap readDeclarator?

/-- The first comment before a tree. -/
def commentBefore? (trees : List JavaTree) : Option String := do
  let t ← (Tree.tokensOfAll trees).head?
  (← t.gap.find? Trivia.isComment).text

/-- Whether a token stands among some trees. -/
def hasSymbol (s : String) (trees : List JavaTree) : Bool :=
  trees.any fun
    | .leaf t => t.text == s
    | .node _ _ => false

/-- Reads a parameter. For one that takes any number of arguments, a comment between its modifiers
and its type is taken for the type. -/
def readParameter? : JavaTree → Option ParameterSyntax
  | .node .parameter children =>
    let type := childText .plainType children
    if hasSymbol "..." children then
      let name := childText .declaredName (child .variableDeclarator children)
      let comment? :=
        if (child? .modifiers children).isSome then commentBefore? (child .plainType children)
        else none
      some (.rest (comment?.getD type) name)
    else
      some (.single type (childText .declaredName children) (childText .dimensions children))
  | _ => none

/-- Reads a method. -/
def readMethod (trees : List JavaTree) : MethodSyntax where
  modifiers := readModifiers trees
  type := childText .plainType trees
  name := childText .declaredName trees
  parameters := (child .formalParameters trees).filterMap readParameter?
  dimensions := childText .dimensions trees

/-- Reads a member of a class or interface. Semicolons are not members. -/
def readMember? : JavaTree → Option MemberSyntax
  | .node .fieldDeclaration children => some (.field (readField children))
  | .node .methodDeclaration children => some (.method (readMethod children))
  | .node _ _ => some .other
  | .leaf _ => none

/-! ## Classes and interfaces -/

/-- Reads a type that a class extends or implements. -/
def readSupertype? : JavaTree → Option SupertypeSyntax
  | .node .plainType [.node .classType children] => some (.named (textOf children))
  | .node _ _ => some .unnamed
  | .leaf _ => none

/-- Reads the types of a clause. -/
def readSupertypes (r : Rule) (trees : List JavaTree) : List SupertypeSyntax :=
  (child r trees).filterMap readSupertype?

/-- Reads a class or interface. -/
def readClassifier? : JavaTree → Option ClassifierSyntax
  | .node .classDeclaration children =>
    some {
      kind := .classType
      modifiers := readModifiers children
      name := childText .declaredName children
      parents := readSupertypes .superclass children
      interfaces := readSupertypes .superInterfaces children
      members := (child .classBody children).filterMap readMember? }
  | .node .interfaceDeclaration children =>
    some {
      kind := .interfaceType
      modifiers := readModifiers children
      name := childText .declaredName children
      parents := readSupertypes .parentInterfaces children
      members := (child .interfaceBody children).filterMap readMember? }
  | _ => none

/-- Looks below a statement. -/
def statementTree? : JavaTree → Option JavaTree
  | .node .statement (tree :: _) => some tree
  | _ => none

/-- The classes and interfaces at the top of a source, if its syntax is correct. -/
def readSource? (source : String) : Option (List ClassifierSyntax) := do
  match ← Grammar.parse? (← lex source) with
  | .node _ trees => return (trees.filterMap statementTree?).filterMap readClassifier?
  | .leaf _ => return []

end JavaUml.Java
