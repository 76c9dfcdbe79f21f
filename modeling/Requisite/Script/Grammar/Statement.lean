import Requisite.Script.Grammar.Declaration

/-!
# Statements
-/

namespace Requisite.Script

namespace Read

/-! ## Lists of statements -/

/-- Statements up to `close`. Code is strict if the first of them starts with a string that says
so, and after an import or export declaration. -/
def itemsUntil (close : Read Bool) (directives : Bool) (item : Read Node) : Read (List Node) := do
  let asked := directives && (← token) matches .str _ _ true
  let change : Scope → Scope := fun s => { s with strict := s.strict || asked }
  let (items, _) ← iterate (fun (items, change) => do
    if ← close then return .done (items, change)
    let node ← within change item
    let change : Scope → Scope :=
      if node.isModuleDecl then fun s => { s with strict := true, inModule := true }
      else change
    return .yield (node :: items, change)) ([], change)
  return items.reverse

def blockBody (directives : Bool) : Read Node := do
  expectSym .lbrace
  let items ← within ({ · with topLevel := false, colonExpected := false })
    (itemsUntil (isSym .rbrace) directives (call (.statement true)))
  expectSym .rbrace
  return .group .block items

def namespaceBody : Read Node := do
  expectSym .lbrace
  let items ← within ({ · with topLevel := true })
    (itemsUntil (isSym .rbrace) false (call .moduleItem))
  expectSym .rbrace
  return .group .block items

def block : Read Node := call (.blockBody false)

def governed : Read Node := within ({ · with topLevel := false }) (call (.statement false))

def loopBody : Read Node :=
  within ({ · with breakAllowed := true, continueAllowed := true }) governed

def parenthesized : Read Node := do
  expectSym .lparen
  let e ← expressionIn
  expectSym .rparen
  return e

/-! ## Jumps -/

def jump (isBreak : Bool) : Read Node := do
  advance
  let s ← scope
  let label ← if ← eatSemi then pure none else
    let name ← identifier true true
    expectSemi
    pure (some name)
  let labels := (← get).labels
  faultIf (label.any (!labels.contains ·))
  if isBreak then faultIf (label.isNone && !s.breakAllowed)
  else faultIf !s.continueAllowed
  return .group .statement []

def returnStatement : Read Node := do
  advance
  faultIf !(← scope).inFunction
  if ← eatSemi then return .group .statement []
  let e ← expressionIn
  expectSemi
  return .group .statement [e]

def throwStatement : Read Node := do
  advance
  stopIf (← newline)
  let e ← expressionIn
  expectSemi
  return .group .statement [e]

/-! ## Branches -/

def ifStatement : Read Node := do
  advance
  let test ← parenthesized
  let yes ← governed
  if ← eatWord "else" then
    return .group .statement [test, yes, ← governed]
  return .group .statement [test, yes]

def caseClause : Read (Option (Node × Bool)) := do
  if ← eatSym .rbrace then return none
  let isDefault ← isWord "default"
  let test ← if ← eatWord "case" then pure [← expressionIn] else
    expectWord "default"
    pure []
  expectSym .colon
  let atEnd := do return (← isAnyWord ["case", "default"]) || (← isSym .rbrace)
  let items ← within ({ · with topLevel := false }) <|
    itemsUntil atEnd false (call (.statement true))
  return some (.group .statement (test ++ items), isDefault)

def switchStatement : Read Node := do
  advance
  let value ← parenthesized
  expectSym .lbrace
  let cases ← within ({ · with breakAllowed := true }) (gather caseClause)
  faultIf (2 ≤ (cases.filter (·.2)).length)
  return .group .statement (value :: cases.map (·.1))

/-- The parameter of a `catch` may only have the types that say nothing. -/
def catchParameter : Read (List Node) := do
  unless ← eatSym .lparen do return []
  let target ← bindingTarget false
  let ascribed ← optionalAscription
  let fits := match ascribed with
    | [.group .ascribedType [.group .keywordType [.propName name]]] =>
      name == "any" || name == "unknown"
    | [] => true
    | _ => false
  faultIf !fits
  expectSym .rparen
  return [target.ascribe ascribed]

def tryStatement : Read Node := do
  advance
  let body ← block
  let handler ← if ← eatWord "catch" then
    let param ← catchParameter
    pure [Node.group .statement (param ++ [← block])]
    else pure []
  let finally_ ← if ← eatWord "finally" then pure [← block] else pure []
  faultIf (handler.isEmpty && finally_.isEmpty)
  return .group .statement (body :: handler ++ finally_)

/-! ## Loops -/

def whileStatement : Read Node := do
  advance
  let test ← parenthesized
  return .group .statement [test, ← loopBody]

/-- The test is visited before the body. -/
def doStatement : Read Node := do
  advance
  let body ← loopBody
  expectWord "while"
  let test ← parenthesized
  let _ ← eatSemi
  return .group .statement [test, body]

def withStatement : Read Node := do
  advance
  faultIf (← types)
  strictFault
  let object ← parenthesized
  return .group .statement [object, ← governed]

structure LoopHead where
  parts : List Node
  overElements : Bool := false

/-- The rest of a head that goes over the elements or keys of something. -/
def eachHead (target : Node) : Read LoopHead := do
  if ← eatWord "of" then
    return { parts := [target, ← assignmentIn], overElements := true }
  expectWord "in"
  return { parts := [target, ← expressionIn] }

/-- The rest of a head with semicolons. The one after the test may be left out. -/
def countingHead (start : List Node) : Read LoopHead := do
  let test ← if ← eatSym .semi then pure [] else
    let e ← expressionIn
    let _ ← eatSym .semi
    pure [e]
  let step ← if ← isSym .rparen then pure [] else pure [← expressionIn]
  return { parts := start ++ test ++ step }

/-- A variable in the head of a loop over elements or keys has no value and no type. -/
def checkEachVariable (declaration : Node) : Read Unit := do
  let s ← scope
  match declaration with
  | .group .declaration [.group .declarator (target :: value)] =>
    faultIf (!value.isEmpty && (s.strict || (← isWord "of")))
    faultIf (s.types && match target with
      | .group _ parts => parts.getLast?.any (·.isKind .ascribedType)
      | _ => false)
  | _ => fault

def forHead : Read LoopHead := do
  if let some word ← variableWord? then
    let declaration ← variableList true word
    if ← isAnyWord ["of", "in"] then
      checkEachVariable declaration
      return ← eachHead declaration
    expectSym .semi
    return ← countingHead [declaration]
  if ← eatSym .semi then return ← countingHead []
  let s ← scope
  if s.types then
    let isUsing ← lookAhead do
      let _ ← eatWord "await"
      unless ← startsUsing do return false
      advance
      if ← isWord "of" then return false
      advance
      isAnyWord ["of", "in"]
    if isUsing then
      let _ ← eatWord "await"
      advance
      let name ← bindingIdentifier false
      faultIf (← isWord "in")
      return ← eachHead (.group .declaration [.group .declarator [.group .binding [.ident name]]])
  let start ← within ({ · with inAllowed := false, inForHead := true }) (call .expression)
  if ← isAnyWord ["of", "in"] then
    let target ← toPattern .assigned start
    faultIf (s.types && (← isWord "in")
      && (target.isKind .objectPattern || target.isKind .arrayPattern))
    return ← eachHead target
  expectSym .semi
  countingHead [← settle start]

def forStatement : Read Node := do
  advance
  let isAwait ← eatWord "await"
  expectSym .lparen
  let head ← within ({ · with inForAwaitHead := isAwait }) forHead
  -- Only a loop over elements can wait for them.
  stopIf (isAwait && !head.overElements)
  expectSym .rparen
  return .group .statement (head.parts ++ [← loopBody])

/-! ## Labels and expressions -/

def labelled (name : String) : Read Node := do
  faultIf ((← get).labels.contains name)
  modify fun s => { s with labels := name :: s.labels }
  let body ← within ({ · with breakAllowed := true }) do
    if ← isWord "function" then
      faultIf (← scope).strict
      stopIf (← nextIsSym .star)
      functionDeclaration false true []
    else governed
  modify fun s => { s with labels := s.labels.erase name }
  return .group .statement [body]

def expressionStatement : Read Node := do
  let e ← expressionIn
  match e with
  | .ident name =>
    if ← eatSym .colon then return ← labelled name
    strictFaultIf (name == "enum" || name == "interface")
  | _ => let _ ← settle e
  expectSemi
  return .group .expressionStatement [e]

/-! ## All statements -/

def startsAwaitUsing : Read Bool := do
  unless ← isWord "await" do return false
  lookAhead do
    advance
    startsUsing

def wordStatement? (name : String) (declarations : Bool) (decorators : List Node) :
    Read (Option Node) := do
  match name with
  | "break" => return some (← jump true)
  | "continue" => return some (← jump false)
  | "debugger" =>
    advance
    expectSemi
    return some (.group .statement [])
  | "do" => return some (← doStatement)
  | "for" => return some (← forStatement)
  | "function" => return some (← functionDeclaration false true decorators)
  | "class" =>
    faultIf !declarations
    return some (← classFromKeyword .classDeclaration true false decorators)
  | "if" => return some (← ifStatement)
  | "return" => return some (← returnStatement)
  | "switch" => return some (← switchStatement)
  | "throw" => return some (← throwStatement)
  | "try" => return some (← tryStatement)
  | "with" => return some (← withStatement)
  | "while" => return some (← whileStatement)
  | "var" => return some (← variableList false "var")
  | _ => return none

/-- Declarations that may not stand alone under an `if` or a loop. -/
def declaration? : Read (Option Node) := do
  if ← startsAwaitUsing then
    advance
    return some (← usingDeclaration)
  match ← variableWord? with
  | some word => return some (← variableList false word)
  | none =>
    if ← startsUsing then return some (← usingDeclaration)
    return none

/-- A statement after its decorators. At the top level, one that starts with `await` makes the
program a module. -/
def statementAfter (declarations : Bool) (decorators : List Node) : Read Node := do
  if (← types) && (← isWord "const") && (← nextIsWord "enum") then
    advance
    advance
    return ← enumeration
  match ← token with
  | .word name false =>
    if name == "await" && (← scope).topLevel then modify ({ · with isModule := true })
    if let some node ← wordStatement? name declarations decorators then return node
    if declarations then
      if let some node ← declaration? then return node
    if ← startsAsyncFunction then
      advance
      return ← functionDeclaration true true decorators
    if let some node ← typedDeclaration? decorators then return node
    expressionStatement
  | .sym .lbrace => block
  | .sym .semi =>
    advance
    return .group .emptyStatement []
  | _ => expressionStatement

/-- `import(…)` and `import.meta` start an expression. No semicolon need end it. -/
def importStatement? : Read (Option Node) := do
  unless ← isWord "import" do return none
  let follower ← nextToken
  unless follower == .sym .lparen || follower == .sym .dot do return none
  let e ← expressionIn
  let _ ← eatSemi
  return some (.group .expressionStatement [e])

def statement (declarations : Bool) : Read Node := do
  if let some node ← importStatement? then return node
  let decorators ← decorators
  stopIf (← isAnyWord ["import", "export"])
  statementAfter declarations decorators

end Read

end Requisite.Script
