/-!
# Syntax trees of scripts

A node keeps apart only what decides a dependency: calls, members, functions, string values
and module declarations. Every other construct is a `group` of a certain kind. The parts of a
node stand in the order in which it is visited, which is not always the order of the text: a
class has its body before what it extends, a call its arguments before its type arguments.
-/

namespace Requisite.Script

/-- What a `group` stands for. -/
inductive Kind where
  -- values and operators
  | this | superKeyword | importKeyword | literal | privateName | metaProperty
  | paren | sequence | unary | delete | update | binary | logical | conditional
  | assignment | compoundAssignment | await | yield | construct | optionalChain | optionalCall
  | superMember | taggedTemplate | classExpression | element
  | nonNull | asType | asConst | satisfies | typeAssertion | instantiation
  -- object literals and names
  | object | property | shorthand | shorthandDefault | method | accessor
  | key | computed | hole | trailingComma
  -- patterns
  | binding | objectPattern | arrayPattern | defaultPattern | rest | parameter
  -- statements, declarations and types
  | expressionStatement | emptyStatement | statement | block | declaration | declarator
  | functionDeclaration | classDeclaration | classMember | constructor | decorator
  | type | keywordType | restType | optionalType | ascribedType | typeParameters | typeArguments
  deriving DecidableEq, Repr

/-- A string value is `none` if it has a lone surrogate, so that it is no text. -/
inductive Node where
  | ident (name : String)
  /-- A property name after a dot. -/
  | propName (name : String)
  | str (value : Option String)
  /-- `text` is the value of a template without substitutions. -/
  | template (text : Option String) (substitutions : List Node)
  | array (elements : List Node)
  | spread (argument : Node)
  /-- A function, with its parameters, decorators, body, type parameters and result type. -/
  | func (parts : List Node)
  | arrow (parts : List Node)
  | call (callee : Node) (arguments : List Node) (typeArguments : List Node)
  | member (object : Node) (property : Node)
  | importDecl (typeOnly : Bool) (source : Option String) (attributes : List Node)
  /-- An export that names the module it takes its bindings from. -/
  | exportFrom (typeOnly : Bool) (source : Option String) (attributes : List Node)
  | exportDecl (parts : List Node)
  /-- `import a = …`; the target is `some` if it is an external module. -/
  | importEquals (typeOnly : Bool) (target : Option (Option String))
  /-- The type `import('…')`. -/
  | importType (source : Option String) (parts : List Node)
  | group (kind : Kind) (parts : List Node)
  deriving Repr

namespace Node

/-- The nodes right below, in visiting order. -/
def children : Node → List Node
  | .ident _ | .propName _ | .str _ | .importEquals _ _ => []
  | .template _ parts | .array parts | .func parts | .arrow parts | .importDecl _ _ parts
  | .exportFrom _ _ parts | .exportDecl parts | .importType _ parts | .group _ parts => parts
  | .spread argument => [argument]
  | .call callee arguments typeArguments => callee :: (arguments ++ typeArguments)
  | .member object property => [object, property]

/-- An import or export declaration, in any of its forms. -/
def isModuleDecl : Node → Bool
  | .importDecl .. | .exportFrom .. | .exportDecl _ | .importEquals .. => true
  | _ => false

def isKind (kind : Kind) : Node → Bool
  | .group k _ => k == kind
  | _ => false

end Node

/-- How a program is to be run. -/
inductive Goal where
  | module
  | script
  deriving DecidableEq, Repr

structure Program where
  goal : Goal
  items : List Node
  deriving Repr

end Requisite.Script
