import Requisite.Script.Grammar.Type

/-!
# Functions and their bodies
-/

namespace Requisite.Script

/-- The value of a string that is a statement. -/
def Node.directive? : Node → Option (Option String)
  | .group .expressionStatement [.str value] => some value
  | _ => none

/-- A block that asks for strict code among the strings it starts with. -/
def Node.asksStrict : Node → Bool
  | .group .block items =>
    (items.takeWhile (·.directive?.isSome)).any (·.directive? == some useStrict)
  | _ => false

def Scope.body (s : Scope) (isAsync isGenerator isArrow : Bool) : Scope :=
  { s with
    async := isAsync, generator := isGenerator, inFunction := true, topLevel := false,
    inPlainFunction := s.inPlainFunction || !isArrow, inStaticBlock := false,
    breakAllowed := false, continueAllowed := false, inForHead := false }

namespace Read

/-- Labels are not seen inside a function. -/
def withoutLabels (read : Read α) : Read α := do
  let labels := (← get).labels
  modify ({ · with labels := [] })
  let a ← read
  modify ({ · with labels })
  return a

/-- A block as the body of a function. Only a plain list of names may go with strict code. -/
def bodyBlock (directives simple : Bool) : Read Node := do
  let block ← call (.blockBody directives)
  faultIf (!simple && block.asksStrict)
  return block

/-- The body of a function, which types allow to leave out. -/
def functionBody (isAsync isGenerator simple : Bool) : Read (Option Node) := do
  let s ← scope
  faultIf (s.inDeclare && s.types && (← isSym .lbrace))
  within (Scope.body · isAsync isGenerator false) <| withoutLabels do
    if s.types && !(← isSym .lbrace) then
      if ← eatSemi then return none
    return some (← within ({ · with inAllowed := true }) (bodyBlock true simple))

def arrowBody (isAsync simple : Bool) : Read Node := do
  let s ← scope
  faultIf (s.inDeclare && s.types && (← isSym .lbrace))
  within (Scope.body · isAsync false true) <| withoutLabels do
    if ← isSym .lbrace then
      within ({ · with inAllowed := true }) (bodyBlock false simple)
    else call .assignment

structure FunctionParts where
  params : List Node
  body : Option Node
  typeParams : List Node
  result : List Node

def FunctionParts.node (f : FunctionParts) (decorators : List Node) : Node :=
  .func (f.params ++ decorators ++ f.body.toList ++ f.typeParams ++ f.result)

def hasDefault : Node → Bool
  | .group .parameter parts => parts.getLast?.any (·.isKind .defaultPattern)
  | _ => false

def functionParts (isAsync isGenerator : Bool) (params : Read (List Node)) : Read FunctionParts :=
  within ({ · with async := isAsync, generator := isGenerator, colonExpected := false }) do
    let typeParams ← optionalTypeParameters false true
    expectSym .lparen
    let params ← within
      ({ · with inParameters := true, inFunction := false, inAllowed := true, inForHead := false })
      params
    expectSym .rparen
    let result ← optionalResultType
    let body ← functionBody isAsync isGenerator (params.all Node.isSimpleParameter)
    faultIf (body.isNone && params.any hasDefault)
    return ⟨params, body, typeParams, result⟩

def optionalBinding (required letBarred : Bool) : Read (Option String) := do
  if required then return some (← bindingIdentifier letBarred)
  if isBindable (← scope) (← token) then return some (← bindingIdentifier letBarred)
  return none

def functionFromKeyword (isAsync isExpression nameRequired : Bool) (decorators : List Node) :
    Read Node := do
  expectWord "function"
  let isGenerator ← eatSym .star
  let _ ←
    if isExpression then
      within ({ · with async := isAsync, generator := isGenerator })
        (optionalBinding nameRequired false)
    else optionalBinding nameRequired false
  let f ← within ({ · with superAllowed := false, inClassField := false })
    (functionParts isAsync isGenerator formalParameters)
  stopIf (isExpression && f.body.isNone)
  return f.node decorators

def functionDeclaration (isAsync nameRequired : Bool) (decorators : List Node) : Read Node := do
  return .group .functionDeclaration
    [← functionFromKeyword isAsync false nameRequired decorators]

/-- `async function`, with nothing but blanks in between. -/
def startsAsyncFunction : Read Bool := do
  unless ← isWord "async" do return false
  let (follower, newline) ← next
  return follower == .word "function" false && !newline

/-! ## Accessors -/

def getterParameters : Read (List Node) := do
  let params ← formalParameters
  faultIf (params.any (!·.isThisParameter))
  return params

def setterParameters : Read (List Node) := do
  let params ← formalParameters
  faultIf ((params.filter (!·.isThisParameter)).length != 1)
  faultIf (params.head?.any fun p =>
    match p with
    | .group .parameter parts => parts.getLast?.any (·.isKind .rest)
    | _ => false)
  return params

end Read

end Requisite.Script
