/-
# The grammar of Java

The grammar of declarations, statements and expressions. A source is a sequence of statements and
methods; types, imports and the like count as statements. A word is a keyword only where the grammar
has a use for the keyword, so that most keywords can also be names.

Expressions are matched as flat rows of operands and operators: how strongly an operator binds makes
no difference for whether a source is correct. What can be assigned to is a name, a field or an
element of an array; this is why the rules for what follows an operand come in two sorts.
-/
import JavaUml.Java.Phrase

namespace JavaUml.Java

/-- The rules of the grammar. Where an expression may not end in a lambda, as in front of the arrow
of a case, the rules for expressions have `arrow` set to false. -/
inductive Rule
  | source
  -- names and types
  | qualifiedName
  | declaredName
  | dimensions
  | primitiveType
  | classType
  | plainType
  | annotatedType
  | typeArguments
  | typeParameters
  -- annotations and modifiers
  | mark
  | annotationArguments
  | elementPair
  | valueArray
  | nonSealed
  | modifiers
  -- declarations
  | classDeclaration
  | interfaceDeclaration
  | enumDeclaration
  | recordDeclaration
  | annotationDeclaration
  | annotationElement
  | enumConstant
  | superclass
  | superInterfaces
  | parentInterfaces
  | permits
  | classBody
  | interfaceBody
  | fieldDeclaration
  | variableDeclarator
  | arrayInitializer
  | methodDeclaration
  | formalParameters
  | receiver
  | parameter
  | throws
  | constructor
  | constructorBody
  | compactConstructor
  | staticInitializer
  | packageDeclaration
  | importDeclaration
  | moduleDeclaration
  | moduleDirective
  -- statements
  | block
  | statement
  | parenthesized
  | tryStatement
  | resource
  | catchClause
  | switchBlock
  | switchLabel
  | pattern
  -- expressions
  | expression (arrow : Bool)
  | afterTarget (arrow : Bool)
  | afterValue (arrow : Bool)
  | operators (arrow : Bool)
  | arguments
  | creation
  | creationRest
  | selected (arrow : Bool)
deriving DecidableEq, Repr

namespace Grammar

/-- A phrase of the grammar. -/
abbrev JavaPhrase := Phrase Rule

instance : Coe Rule JavaPhrase := ⟨.rule⟩

/-- A keyword. -/
def key (w : String) : JavaPhrase := .token (.word w)

/-- A symbol. -/
def sym (s : String) : JavaPhrase := .token (.symbol s)

/-- A symbol right behind the token before it. -/
def glued (s : String) : JavaPhrase := .token (.gluedSymbol s)

/-- Phrases in order. -/
def seq (ps : List JavaPhrase) : JavaPhrase := Phrase.sequence ps

/-- The first phrase that fits. -/
def alt (p : JavaPhrase) (ps : List JavaPhrase) : JavaPhrase := Phrase.choice p ps

/-- A phrase that does not have to be there. -/
def opt (p : JavaPhrase) : JavaPhrase := Phrase.optional p

/-- A phrase any number of times. -/
def many (p : JavaPhrase) : JavaPhrase := .many p

/-- A phrase once or more. -/
def repeated (p : JavaPhrase) : JavaPhrase := Phrase.repeated p

/-- A phrase once or more, separated by commas. -/
def list (p : JavaPhrase) : JavaPhrase := Phrase.separated (sym ",") p

/-- A keyword of some. -/
def keyOf (w : String) (ws : List String) : JavaPhrase := alt (key w) (ws.map key)

/-- A symbol of some. -/
def symOf (s : String) (ss : List String) : JavaPhrase := alt (sym s) (ss.map sym)

/-- A phrase between braces. -/
def braces (p : JavaPhrase) : JavaPhrase := seq [sym "\x7b", p, sym "\x7d"]

/-- A phrase between parentheses. -/
def parens (p : JavaPhrase) : JavaPhrase := seq [sym "(", p, sym ")"]

/-! ## Words -/

/-- Any word. -/
def anyWord : JavaPhrase := .token (.kind .word)

/-- A word other than some. -/
def wordExcept (ws : List String) : JavaPhrase := .append (.unless ws) anyWord

/-- The words for modifiers. -/
def modifierWords : List String :=
  ["public", "protected", "private", "abstract", "static", "final", "strictfp", "default",
    "synchronized", "native", "transient", "volatile", "sealed"]

/-- The words for primitive types. -/
def primitiveWords : List String :=
  ["void", "byte", "short", "int", "long", "char", "float", "double", "boolean"]

/-- The words that start a declaration of a type. -/
def declarationWords : List String := ["class", "interface", "enum", "record"]

/-- The words with a meaning of their own at the start of a member. -/
def memberWords : List String := modifierWords ++ declarationWords

/-- The words that start a statement, and those that go on with one. -/
def statementWords : List String :=
  ["if", "else", "while", "for", "do", "assert", "break", "continue", "return", "yield",
    "synchronized", "throw", "try", "catch", "finally", "switch", "case", "default", "import",
    "package"]

/-- The words with a meaning of their own in expressions. -/
def expressionWords : List String :=
  ["new", "this", "super", "true", "false", "null", "switch", "instanceof"]

/-- A word that can be the name of a variable in an expression. -/
def variableName : JavaPhrase := wordExcept (expressionWords ++ primitiveWords)

/-! ## Types -/

/-- Any number of annotations. -/
def annotations : JavaPhrase := many Rule.mark

/-- A type that may have annotations before it. -/
def anyType : JavaPhrase := alt (Rule.plainType : JavaPhrase) [Rule.annotatedType]

/-- A type without dimensions. -/
def elementType : JavaPhrase := alt (Rule.primitiveType : JavaPhrase) [Rule.classType]

/-- The bound of a wildcard. -/
def wildcardBound : JavaPhrase := seq [keyOf "extends" ["super"], anyType]

/-- An argument of a type. -/
def typeArgument : JavaPhrase := alt (seq [annotations, sym "?", opt wildcardBound]) [anyType]

/-- A parameter of a type or method that stands for a type. -/
def typeParameter : JavaPhrase :=
  seq [annotations, anyWord,
    opt (seq [key "extends", Phrase.separated (sym "&") anyType])]

/-! ## Annotations -/

/-- A value in an annotation. -/
def elementValue : JavaPhrase :=
  alt (Rule.mark : JavaPhrase) [Rule.valueArray, Rule.expression true]

/-! ## Declarations -/

/-- The beginning of a declaration of a type. -/
def declarationHead (keyword : JavaPhrase) : JavaPhrase :=
  seq [opt Rule.modifiers, keyword, Rule.declaredName]

/-- A declaration of a type. -/
def typeDeclaration : JavaPhrase :=
  alt (Rule.classDeclaration : JavaPhrase)
    [Rule.interfaceDeclaration, Rule.enumDeclaration, Rule.recordDeclaration,
      Rule.annotationDeclaration]

/-- A member of a class. -/
def classMember : JavaPhrase :=
  alt typeDeclaration
    [Rule.methodDeclaration, Rule.fieldDeclaration, Rule.constructor, Rule.compactConstructor,
      Rule.staticInitializer, Rule.block, sym ";"]

/-- A member of an interface. -/
def interfaceMember : JavaPhrase :=
  alt typeDeclaration [Rule.methodDeclaration, Rule.fieldDeclaration, sym ";"]

/-- A member of an annotation type. -/
def annotationMember : JavaPhrase :=
  alt typeDeclaration [Rule.annotationElement, Rule.fieldDeclaration, sym ";"]

/-- The type of a member or variable. -/
def declaredType (words : List String) : JavaPhrase := .append (.unless words) Rule.plainType

/-- The variables of a declaration. -/
def declarators : JavaPhrase := list Rule.variableDeclarator

/-- The value of a variable when it is declared. -/
def initializer : JavaPhrase :=
  alt (Rule.arrayInitializer : JavaPhrase) [Rule.expression true]

/-- The call of another constructor at the beginning of a constructor. -/
def constructorCall : JavaPhrase :=
  alt (seq [opt Rule.typeArguments, keyOf "this" ["super"], Rule.arguments, sym ";"])
    [seq [Rule.qualifiedName, sym ".", opt Rule.typeArguments, key "super", Rule.arguments,
      sym ";"]]

/-! ## Statements -/

/-- An expression. -/
def expression : JavaPhrase := Rule.expression true

/-- The declaration of local variables. -/
def localDeclaration : JavaPhrase :=
  seq [opt Rule.modifiers, declaredType (memberWords ++ statementWords ++ expressionWords),
    declarators, sym ";"]

/-- The beginning of a loop over the elements of a collection. -/
def elementLoop : JavaPhrase :=
  seq [opt Rule.modifiers, Rule.plainType, Rule.declaredName, opt Rule.dimensions, sym ":",
    expression]

/-- The beginning of a loop with a condition. -/
def conditionLoop : JavaPhrase :=
  seq [alt localDeclaration [seq [opt (list expression), sym ";"]], opt expression, sym ";",
    opt (list expression)]

/-- A statement that consists of an expression. -/
def expressionStatement : JavaPhrase :=
  seq [.unless (statementWords ++ modifierWords ++ ["class", "interface", "enum"]), expression,
    sym ";"]

/-- A statement that throws. -/
def throwStatement : JavaPhrase := seq [key "throw", expression, sym ";"]

/-- A switch, which can stand as a statement or in an expression. -/
def switch : JavaPhrase := seq [key "switch", Rule.parenthesized, Rule.switchBlock]

/-- A case with an arrow. -/
def arrowCase : JavaPhrase :=
  seq [Rule.switchLabel, sym "->",
    alt (Rule.block : JavaPhrase) [throwStatement, expressionStatement]]

/-- Cases with colons and the statements that they lead to. -/
def colonCase : JavaPhrase :=
  seq [repeated (seq [Rule.switchLabel, sym ":"]), many Rule.statement]

/-! ## Expressions -/

/-- The parameters of a lambda. -/
def lambdaParameters : JavaPhrase :=
  alt variableName [parens (list variableName), Rule.formalParameters]

/-- A lambda. -/
def lambda : JavaPhrase :=
  seq [lambdaParameters, sym "->",
    alt (seq [Rule.block, Rule.operators true]) [expression]]

/-- An operator in front of an operand. -/
def prefixOperator : JavaPhrase := symOf "+" ["-", "!", "~", "++", "--"]

/-- An operator between two operands. -/
def infixOperator : JavaPhrase :=
  alt (seq [sym ">", glued "="])
    [seq [sym ">", glued ">", glued ">"], seq [sym ">", glued ">"],
      symOf ">" ["+", "-", "*", "/", "%", "&&", "||", "&", "|", "^", "==", "!=", "<=", "<<", "<"]]

/-- An operator that assigns. -/
def assignmentOperator : JavaPhrase :=
  alt (symOf "=" ["+=", "-=", "*=", "/=", "&=", "|=", "^=", "%=", "<<="])
    [seq [sym ">", glued ">", glued "="], seq [sym ">", glued ">", glued ">", glued "="]]

/-- The types of a cast. -/
def castTypes : JavaPhrase := parens (Phrase.separated (sym "&") anyType)

/-- A reference to a method, after its two colons. -/
def methodReference : JavaPhrase := seq [sym "::", opt Rule.typeArguments, anyWord]

/-- A type that is used like a value. -/
def typeValue : JavaPhrase :=
  seq [.unless expressionWords, Rule.plainType,
    alt (seq [sym ".", key "class"]) [methodReference]]

/-- A value that is written as one token. -/
def literal : JavaPhrase :=
  alt (keyOf "true" ["false", "null"])
    ([.number, .string, .textBlock, .character].map fun k => .token (.kind k))

/-- The name of a field or method after a dot. -/
def memberName : JavaPhrase := wordExcept ["new", "super", "class"]

/-! ## The phrases of the rules -/

/-- The phrase of a rule. -/
def body : Rule → JavaPhrase
  | .source => many (alt (Rule.statement : JavaPhrase) [Rule.methodDeclaration])
  | .qualifiedName => Phrase.separated (sym ".") anyWord
  | .declaredName => wordExcept ["this"]
  | .dimensions => repeated (seq [annotations, sym "[", sym "]"])
  | .primitiveType => keyOf "void" primitiveWords
  | .classType =>
    seq [wordExcept primitiveWords, opt Rule.typeArguments,
      many (seq [sym ".", annotations, wordExcept ["class", "new", "this", "super"],
        opt Rule.typeArguments])]
  | .plainType => seq [elementType, opt Rule.dimensions]
  | .annotatedType => seq [repeated Rule.mark, Rule.plainType]
  | .typeArguments => seq [sym "<", opt (list typeArgument), sym ">"]
  | .typeParameters => seq [sym "<", list typeParameter, sym ">"]
  | .mark => seq [sym "@", Rule.qualifiedName, opt Rule.annotationArguments]
  | .annotationArguments =>
    alt (parens (list Rule.elementPair)) [parens elementValue, parens .empty]
  | .elementPair => seq [Rule.declaredName, sym "=", elementValue]
  | .valueArray => braces (seq [opt (list elementValue), opt (sym ",")])
  | .nonSealed => seq [key "non", glued "-", .token (.gluedWord "sealed")]
  | .modifiers =>
    repeated (alt (Rule.mark : JavaPhrase) [keyOf "public" modifierWords, Rule.nonSealed])
  | .classDeclaration =>
    seq [declarationHead (key "class"), opt Rule.typeParameters, opt Rule.superclass,
      opt Rule.superInterfaces, opt Rule.permits, Rule.classBody]
  | .interfaceDeclaration =>
    seq [declarationHead (key "interface"), opt Rule.typeParameters, opt Rule.parentInterfaces,
      opt Rule.permits, Rule.interfaceBody]
  | .enumDeclaration =>
    seq [declarationHead (key "enum"), opt Rule.superInterfaces,
      braces (seq [opt (list Rule.enumConstant), opt (sym ","),
        opt (seq [sym ";", many classMember])])]
  | .recordDeclaration =>
    seq [declarationHead (key "record"), opt Rule.typeParameters, Rule.formalParameters,
      opt Rule.superInterfaces, Rule.classBody]
  | .annotationDeclaration =>
    seq [declarationHead (sym "@interface"), braces (many annotationMember)]
  | .annotationElement =>
    seq [opt Rule.modifiers, declaredType memberWords, Rule.declaredName, sym "(", sym ")",
      opt Rule.dimensions, opt (seq [key "default", elementValue]), sym ";"]
  | .enumConstant =>
    seq [opt Rule.modifiers, Rule.declaredName, opt Rule.arguments, opt Rule.classBody]
  | .superclass => seq [key "extends", anyType]
  | .superInterfaces => seq [key "implements", list anyType]
  | .parentInterfaces => seq [key "extends", list anyType]
  | .permits => seq [key "permits", list anyType]
  | .classBody => braces (many classMember)
  | .interfaceBody => braces (many interfaceMember)
  | .fieldDeclaration =>
    seq [opt Rule.modifiers, declaredType memberWords, declarators, sym ";"]
  | .variableDeclarator =>
    seq [Rule.declaredName, opt Rule.dimensions, opt (seq [sym "=", initializer])]
  | .arrayInitializer => braces (seq [opt (list initializer), opt (sym ",")])
  | .methodDeclaration =>
    seq [opt Rule.modifiers, opt (seq [Rule.typeParameters, annotations]),
      declaredType memberWords, Rule.declaredName, Rule.formalParameters, opt Rule.dimensions,
      opt Rule.throws, alt (Rule.block : JavaPhrase) [sym ";"]]
  | .formalParameters =>
    parens (alt (seq [Rule.receiver, opt (seq [sym ",", list Rule.parameter])])
      [opt (list Rule.parameter)])
  | .receiver => seq [annotations, Rule.plainType, many (seq [anyWord, sym "."]), key "this"]
  | .parameter =>
    seq [opt Rule.modifiers, Rule.plainType,
      alt (seq [sym "...", annotations, Rule.variableDeclarator])
        [seq [Rule.declaredName, opt Rule.dimensions]]]
  | .throws => seq [key "throws", list anyType]
  | .constructor =>
    seq [opt Rule.modifiers, opt Rule.typeParameters, wordExcept memberWords,
      Rule.formalParameters, opt Rule.throws, Rule.constructorBody]
  | .constructorBody => braces (seq [opt constructorCall, many Rule.statement])
  | .compactConstructor => seq [opt Rule.modifiers, wordExcept memberWords, Rule.block]
  | .staticInitializer => seq [key "static", Rule.block]
  | .packageDeclaration => seq [annotations, key "package", Rule.qualifiedName, sym ";"]
  | .importDeclaration =>
    seq [key "import", opt (key "static"), Rule.qualifiedName, opt (seq [sym ".", sym "*"]),
      sym ";"]
  | .moduleDeclaration =>
    seq [annotations, opt (key "open"), key "module", Rule.qualifiedName,
      braces (many Rule.moduleDirective)]
  | .moduleDirective =>
    alt (seq [key "requires", many (keyOf "transitive" ["static"]), Rule.qualifiedName, sym ";"])
      [seq [keyOf "exports" ["opens"], Rule.qualifiedName,
        opt (seq [key "to", list Rule.qualifiedName]), sym ";"],
      seq [key "uses", Rule.qualifiedName, sym ";"],
      seq [key "provides", Rule.qualifiedName, key "with", list Rule.qualifiedName, sym ";"]]
  | .block => braces (many Rule.statement)
  | .statement =>
    alt (Rule.block : JavaPhrase)
      [sym ";",
      seq [key "if", Rule.parenthesized, Rule.statement, opt (seq [key "else", Rule.statement])],
      seq [key "while", Rule.parenthesized, Rule.statement],
      seq [key "do", Rule.statement, key "while", Rule.parenthesized, sym ";"],
      seq [key "for", parens (alt elementLoop [conditionLoop]), Rule.statement],
      seq [key "assert", expression, opt (seq [sym ":", expression]), sym ";"],
      seq [keyOf "break" ["continue"], opt anyWord, sym ";"],
      seq [key "return", opt expression, sym ";"],
      seq [key "yield", expression, sym ";"],
      throwStatement,
      seq [key "synchronized", Rule.parenthesized, Rule.block],
      Rule.tryStatement,
      switch,
      Rule.packageDeclaration, Rule.importDeclaration, Rule.moduleDeclaration,
      typeDeclaration,
      localDeclaration,
      seq [wordExcept (statementWords ++ expressionWords), sym ":", Rule.statement],
      expressionStatement]
  | .parenthesized => parens expression
  | .tryStatement =>
    alt (seq [key "try",
        parens (seq [Phrase.separated (sym ";") Rule.resource, opt (sym ";")]),
        Rule.block, many Rule.catchClause, opt (seq [key "finally", Rule.block])])
      [seq [key "try", Rule.block,
        alt (seq [repeated Rule.catchClause, opt (seq [key "finally", Rule.block])])
          [seq [key "finally", Rule.block]]]]
  | .resource =>
    alt (seq [opt Rule.modifiers, Rule.plainType, Rule.declaredName, opt Rule.dimensions, sym "=",
        expression])
      [Rule.qualifiedName]
  | .catchClause =>
    seq [key "catch", parens (seq [opt Rule.modifiers, Phrase.separated (sym "|") Rule.plainType,
      Rule.declaredName, opt Rule.dimensions]), Rule.block]
  | .switchBlock => alt (braces (many colonCase)) [braces (many arrowCase)]
  | .switchLabel =>
    alt (seq [key "case", alt (Rule.pattern : JavaPhrase) [list (Rule.expression false)],
        opt (seq [key "when", Rule.expression false])])
      [key "default"]
  | .pattern =>
    alt (seq [Rule.plainType, wordExcept ["when"]])
      [seq [anyWord, opt Rule.typeArguments, parens (opt (list Rule.pattern))]]
  | .expression arrow =>
    alt (if arrow then lambda else seq [prefixOperator, Rule.expression arrow])
      [seq [prefixOperator, Rule.expression arrow],
      seq [castTypes, Rule.expression arrow],
      seq [switch, Rule.operators arrow],
      seq [typeValue, Rule.afterValue arrow],
      seq [literal, Rule.afterValue arrow],
      seq [key "this", Rule.afterValue arrow],
      seq [key "super", alt (seq [sym ".", Rule.selected arrow])
        [seq [methodReference, Rule.afterValue arrow]]],
      seq [Rule.creation, Rule.afterValue arrow],
      seq [Rule.parenthesized, Rule.afterValue arrow],
      seq [variableName, Rule.arguments, Rule.afterValue arrow],
      seq [variableName, Rule.afterTarget arrow]]
  | .afterTarget arrow =>
    alt (seq [assignmentOperator, Rule.expression arrow]) [Rule.afterValue arrow]
  | .afterValue arrow =>
    alt (seq [sym ".", Rule.selected arrow])
      [seq [sym "[", expression, sym "]", Rule.afterTarget arrow],
      seq [methodReference, Rule.afterValue arrow],
      Rule.operators arrow]
  | .selected arrow =>
    alt (seq [Rule.creation, Rule.afterValue arrow])
      [seq [key "super", alt (seq [sym ".", Rule.selected arrow])
        [seq [methodReference, Rule.afterValue arrow]]],
      seq [Rule.typeArguments, memberName, Rule.arguments, Rule.afterValue arrow],
      seq [memberName, Rule.arguments, Rule.afterValue arrow],
      seq [memberName, Rule.afterTarget arrow]]
  | .operators arrow =>
    seq [many (symOf "++" ["--"]),
      alt (seq [infixOperator, Rule.expression arrow])
        [seq [key "instanceof", opt (key "final"),
          alt (seq [anyWord, opt Rule.typeArguments, parens (opt (list Rule.pattern))])
            [seq [anyType, opt (wordExcept ["instanceof", "when"])]],
          Rule.operators arrow],
        seq [sym "?", expression, sym ":", Rule.expression arrow],
        .empty]]
  | .arguments => parens (opt (list expression))
  | .creation =>
    seq [key "new", annotations, opt (seq [Rule.typeArguments, annotations]), elementType,
      Rule.creationRest]
  | .creationRest =>
    alt (seq [Rule.arguments, opt Rule.classBody])
      [seq [Rule.dimensions, Rule.arrayInitializer],
      seq [repeated (seq [annotations, sym "[", expression, sym "]"]), opt Rule.dimensions]]

/-- An upper bound on how many rules can be entered one after the other without a token in between,
as no rule can come back to itself without one. -/
def ruleCount : Nat := 80

/-- The tree of a source, if the grammar covers all of it. -/
def parse? (ts : List Token) : Option (Tree Rule) :=
  match (Phrase.rule Rule.source).match? body ((ts.length + 1) * ruleCount) ts with
  | some ([tree], []) => some tree
  | _ => none

end Grammar

end JavaUml.Java
