import Requisite.Script.Grammar.Statement

/-!
# Import and export declarations
-/

namespace Requisite.Script

namespace Read

/-- The name of an export, which may be a string. -/
structure ExportName where
  name : String
  isString : Bool := false

def exportName : Read ExportName := do
  if ← isString then
    match ← stringLiteral with
    | some name => return { name, isString := true }
    | none => stop
  return { name := ← identifierName }

def importAttributes : Read (List Node) := do
  if ← newline then return []
  if (← eatWord "with") || (← eatWord "assert") then return [← call .objectLiteral]
  return []

/-! ## Imports -/

def importedBinding : Read String :=
  within ({ · with async := false, generator := false }) (bindingIdentifier false)

def importSource (typeOnly : Bool) : Read Node := do
  let source ← stringLiteral
  let attributes ← if ← types then importAttributes else pure []
  expectSemi
  return .importDecl typeOnly source attributes

/-- `= require('…')` or `= a.b`. -/
def importEquals (typeOnly : Bool) : Read Node := do
  expectSym .eq
  let target ←
    if (← isWord "require") && (← nextIsSym .lparen) then
      advance
      advance
      let source ← stringLiteral
      expectSym .rparen
      pure (some source)
    else
      entityName false
      pure none
  expectSemi
  return .importEquals typeOnly target

/-- The words after `type` in a specifier, when it is a modifier or may be one. The result
is a name that is still to be followed by `as`. -/
def typeSpecifier (typeOnly : Bool) (binding : Read String) : Read (Option String) := do
  let name ← identifierName
  if name == "as" then
    unless isWordToken (← token) do
      faultIf typeOnly
      return none
    let second ← binding
    if second == "as" && isWordToken (← token) then
      let _ ← binding
      faultIf typeOnly
    return none
  faultIf typeOnly
  return some name

def importSpecifier (typeOnly : Bool) : Read Node := do
  let first ← exportName
  let isType := (← types) && first.name == "type" && !first.isString && isWordToken (← token)
  let name ← if isType then typeSpecifier typeOnly (bindingIdentifier false)
    else pure (some first.name)
  match name with
  | none => return .group .key []
  | some name =>
    if ← eatWord "as" then
      let _ ← bindingIdentifier false
      return .group .key []
    stopIf (first.isString || (← scope).reserves name)
    return .group .key []

/-- The rest of an import after its default name. -/
def importNames (typeOnly : Bool) : Read Node := do
  if ← eatSym .star then
    expectWord "as"
    let _ ← importedBinding
  else if ← eatSym .lbrace then
    let _ ← commaList (isSym .rbrace) (importSpecifier typeOnly)
    expectSym .rbrace
  expectWord "from"
  importSource typeOnly

/-- A modifier comes before a brace, a star, or a name that is not the word `from`. -/
def startsImportClause : Read Bool := do
  if (← isSym .lbrace) || (← isSym .star) then return true
  if ← isWord "from" then return ← nextIsWord "from"
  return isWordToken (← token)

def importItem : Read Node := do
  expectWord "import"
  if ← isString then return ← importSource false
  unless isBindable (← scope) (← token) do return ← importNames false
  let mut local_ ← importedBinding
  let mut typeOnly := false
  if (← types) && local_ == "type" then
    if ← startsImportClause then
      typeOnly := true
      if (← isSym .lbrace) || (← isSym .star) then return ← importNames true
      local_ ← importedBinding
    else if (← isWord "from") && (← nextIsSym .eq) then
      typeOnly := true
      local_ ← identifierName
  if (← types) && (← isSym .eq) then return ← importEquals typeOnly
  if local_ == "source" || local_ == "defer" then
    if ← startsImportClause then
      if (← isSym .lbrace) || (← isSym .star) then return ← importNames typeOnly
      local_ ← importedBinding
  unless ← isWord "from" do expectSym .comma
  importNames typeOnly

/-! ## Exports -/

/-- `from '…'`, with its attributes. -/
def exportSource (typeOnly : Bool) : Read Node := do
  expectWord "from"
  let source ← stringLiteral
  let attributes ← importAttributes
  let _ ← eatSemi
  return .exportFrom typeOnly source attributes

/-- A specifier. It is `false` if it needs the module it comes from. -/
def exportSpecifier (typeOnly : Bool) : Read Bool := do
  let first ← exportName
  let isType := (← types) && first.name == "type" && !first.isString && isWordToken (← token)
  let name ← if isType then typeSpecifier typeOnly identifierName else pure (some first.name)
  match name with
  | none => return true
  | some name =>
    if ← eatWord "as" then let _ ← exportName
    return !(first.isString || reservedWords.contains name)

/-- Specifiers in braces, and the module they come from, if any. -/
def exportSpecifiers (typeOnly needsSource : Bool) : Read Node := do
  expectSym .lbrace
  let local_ ← gather do
    if ← isSym .rbrace then return none
    let ok ← exportSpecifier typeOnly
    unless ← isSym .rbrace do expectSym .comma
    return some ok
  expectSym .rbrace
  if ← isWord "from" then return ← exportSource typeOnly
  faultIf (needsSource || local_.any (!·))
  let _ ← eatSemi
  return .exportDecl []

def exportStar (typeOnly : Bool) : Read Node := do
  if ← isWord "from" then return ← exportSource typeOnly
  expectWord "as"
  let _ ← exportName
  unless ← types do
    if ← eatSym .comma then return ← exportSpecifiers typeOnly true
  exportSource typeOnly

/-- After a default name that is exported from another module. -/
def exportDefaultFrom : Read Node := do
  if ← isWord "from" then return ← exportSource false
  expectSym .comma
  if ← eatSym .star then
    expectWord "as"
    let _ ← exportName
    unless ← eatSym .comma do return ← exportSource false
  exportSpecifiers false true

/-- Decorators stand before `export` or after it, not on both sides. -/
def laterDecorators (earlier : List Node) : Read (List Node) := do
  unless ← isSym .at do return earlier
  let later ← Read.decorators
  stopIf !earlier.isEmpty
  return later

def exportDefault (decorators : List Node) : Read Node := do
  let decorators ← laterDecorators decorators
  let hasTypes ← types
  if hasTypes then
    if ← isWord "abstract" then
      let (follower, newline) ← next
      if follower == .word "class" false && !newline then
        advance
        return .exportDecl [← classFromKeyword .classDeclaration false true decorators]
    if ← eatWord "interface" then return .exportDecl [← interface]
  if ← isWord "class" then
    return .exportDecl [← classFromKeyword .classDeclaration false false decorators]
  if ← startsAsyncFunction then
    advance
    return .exportDecl [← functionDeclaration true false decorators]
  if ← isWord "function" then
    return .exportDecl [← functionDeclaration false false decorators]
  unless hasTypes do
    let follower ← nextToken
    if (← isWord "from")
        || ((← isSym .comma) && (follower == .sym .lbrace || follower == .sym .star)) then
      return ← exportDefaultFrom
  let e ← assignmentIn
  expectSemi
  return .exportDecl [e]

/-- Forms of exports that only types have. -/
def typedExport? (decorators : List Node) : Read (Option Node) := do
  unless ← types do return none
  if ← eatWord "declare" then
    if let some node ← declared? decorators then return some (.exportDecl [node])
  if let .word word false ← token then
    if declarationWords.contains word then
      let node ← attempt do
        advance
        declarationAfter word true decorators
      if let some node := node then return some (.exportDecl [node])
  if ← eatWord "import" then
    let typeOnly := (← isWord "type") && (← nextIsReference)
    if typeOnly then advance
    let _ ← identifierName
    return some (← importEquals typeOnly)
  if ← eatSym .eq then
    let e ← call .expression
    expectSemi
    return some (.exportDecl [e])
  if ← eatWord "as" then
    expectWord "namespace"
    let _ ← identifier false false
    expectSemi
    return some (.exportDecl [])
  return none

def exportedDeclaration? (decorators : List Node) : Read (Option Node) := do
  if ← isWord "class" then
    return some (← classFromKeyword .classDeclaration true false decorators)
  if ← startsAsyncFunction then
    advance
    return some (← functionDeclaration true true decorators)
  if ← isWord "function" then return some (← functionDeclaration false true decorators)
  if (← types) && (← isWord "const") && (← nextIsWord "enum") then
    advance
    advance
    return some (← enumeration)
  match ← variableWord? with
  | some word => return some (← variableList false word)
  | none => return none

def exportItem (decorators : List Node) : Read Node := do
  expectWord "export"
  if let some node ← typedExport? decorators then return node
  let typeOnly ← if ← types then eatWord "type" else pure false
  if ← eatSym .star then return ← exportStar typeOnly
  unless typeOnly do
    if ← eatWord "default" then return ← exportDefault decorators
    let decorators ← laterDecorators decorators
    if let some node ← exportedDeclaration? decorators then return .exportDecl [node]
    if !(← types) && isWordToken (← token) then
      let _ ← identifier false false
      return ← exportDefaultFrom
  exportSpecifiers typeOnly false

def moduleItem : Read Node := do
  if let some node ← importStatement? then return node
  let decorators ← decorators
  if ← isWord "import" then
    return ← within ({ · with strict := true, inModule := true }) importItem
  if ← isWord "export" then
    stopIf (!decorators.isEmpty && !(← types))
    return ← within ({ · with strict := true, inModule := true }) (exportItem decorators)
  statementAfter true decorators

end Read

end Requisite.Script
