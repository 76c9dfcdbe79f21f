import Requisite.Script.Grammar.Expression

/-!
# Declarations of variables, types and namespaces
-/

namespace Requisite.Script

namespace Read

/-! ## Variables -/

def declarator (inForHead : Bool) (word : String) : Read Node := do
  let target ← bindingTarget (word == "let" || word == "const")
  if (← types) && target.isKind .binding then let _ ← eatSym .bang
  let target := target.ascribe (← optionalAscription)
  if inForHead then
    if ← isAnyWord ["in", "of"] then return .group .declarator [target]
  if ← eatSym .eq then
    return .group .declarator [target, ← settle (← call .assignment)]
  let s ← scope
  unless s.inDeclare do
    if word == "const" && s.strict then fault
    else stopIf !(target.isKind .binding)
  return .group .declarator [target]

/-- Variables from the given keyword on. In the head of a `for` no semicolon ends them. -/
def variableList (inForHead : Bool) (word : String) : Read Node := do
  expectWord word
  let declarators ← within
    ({ · with inAllowed := word != "var" || !inForHead, inForHead := false }) do
    let first ← declarator inForHead word
    let others ← gather do
      unless ← eatSym .comma do return none
      return some (← declarator inForHead word)
    return first :: others
  unless inForHead do
    unless ← eatSemi do stop
  return .group .declaration declarators

/-- The token after `let` makes it a keyword. -/
def followsLet : Token → Bool
  | .sym .lbrace | .sym .lbracket => true
  | .word name _ =>
    !reservedWords.contains name
  | _ => false

/-- The keyword of a declaration of variables that starts here. -/
def variableWord? : Read (Option String) := do
  if ← isWord "var" then return some "var"
  if ← isWord "const" then return some "const"
  if ← isWord "let" then
    if followsLet (← nextToken) then return some "let"
  return none

/-- `using` is a keyword only before a name on the same line. -/
def startsUsing : Read Bool := do
  unless ← isWord "using" do return false
  let (follower, newline) ← next
  return isBindable (← scope) follower && !newline

def usingDeclaration : Read Node := do
  expectWord "using"
  let first ← declarator false "var"
  let others ← gather do
    unless ← eatSym .comma do return none
    return some (← declarator false "var")
  let s ← scope
  faultIf !s.types
  for d in first :: others do
    match d with
    | .group .declarator (target :: value) =>
      faultIf (!target.isKind .binding || value.isEmpty)
    | _ => fault
  expectSemi
  return .group .declaration (first :: others)

/-! ## Types -/

def enumMember : Read Node := do
  match ← token with
  | .str .. => let _ ← stringLiteral
  | .number _ | .bigint =>
    advance
    fault
  | .sym .lbracket =>
    advance
    let e ← call .expression
    let isName := match e with
      | .str _ => true
      | .template _ parts => parts.isEmpty
      | _ => false
    faultIf !isName
    expectSym .rbracket
  | _ => let _ ← identifierName
  if ← eatSym .eq then return .group .classMember [← call .assignment]
  return .group .classMember []

def enumeration : Read Node := do
  let _ ← identifierName
  expectSym .lbrace
  let members ← commaList (isSym .rbrace) enumMember
  expectSym .rbrace
  return .group .declaration members

def interface : Read Node := do
  let name ← identifierName
  faultIf (takenTypeNames.contains name)
  let typeParams ← optionalTypeParameters true false
  let bases ← if ← eatWord "extends" then heritage else pure []
  faultIf (← isAnyWord ["extends", "implements"])
  let members ← typeMembers
  return .group .declaration (typeParams ++ bases ++ [members])

def typeAlias : Read Node := do
  let _ ← identifierName
  let typeParams ← optionalTypeParameters true false
  expectSym .eq
  let type ← call .type
  expectSemi
  return .group .declaration (typeParams ++ [type])

/-! ## Namespaces -/

def namespaceNamed : Read Node := do
  let _ ← identifierName
  let _ ← gather do
    unless ← eatSym .dot do return none
    return some (← identifierName)
  return .group .declaration [← call .namespaceBody]

/-- The module of another file, or the global scope. -/
def ambientModule : Read Node := do
  unless ← eatWord "global" do let _ ← stringLiteral
  if ← isSym .lbrace then return .group .declaration [← call .namespaceBody]
  expectSemi
  return .group .declaration []

/-! ## Words that may start a declaration -/

def declarationWords : List String :=
  ["abstract", "enum", "interface", "module", "namespace", "type"]

/-- A declaration that starts with the given word, which has been read. Without `certain`, the
word may also have been a variable. -/
def declarationAfter (word : String) (certain : Bool) (decorators : List Node) :
    Read (Option Node) := do
  if word == "abstract" then
    if certain || ((← isWord "class") && !(← newline)) then
      return some (← classFromKeyword .classDeclaration true true decorators)
  if word == "enum" then
    if certain || (← atReference) then return some (← enumeration)
  if word == "interface" then
    if certain || (← atReference) then return some (← interface)
  if word == "module" && !(← newline) then
    if ← isString then return some (← ambientModule)
    if certain || (← atReference) then return some (← namespaceNamed)
  if word == "namespace" then
    if certain || (← atReference) then return some (← namespaceNamed)
  if word == "type" then
    if certain || (!(← newline) && (← atReference)) then return some (← typeAlias)
  return none

def declared? (decorators : List Node) : Read (Option Node) :=
  within ({ · with inDeclare := true }) do
    if ← isWord "function" then return some (← functionDeclaration false true decorators)
    if ← isWord "class" then
      return some (← classFromKeyword .classDeclaration true false decorators)
    if (← isWord "const") && (← nextIsWord "enum") then
      advance
      advance
      return some (← enumeration)
    if ← isAnyWord ["const", "var", "let"] then
      match ← wordName? with
      | some word => return some (← variableList false word)
      | none => stop
    if ← isWord "global" then return some (← ambientModule)
    match ← token with
    | .word word false =>
      unless declarationWords.contains word do return none
      advance
      declarationAfter word true decorators
    | _ => return none

/-- A declaration that a plain script does not have, if one starts here. -/
def typedDeclaration? (decorators : List Node) : Read (Option Node) := do
  unless ← types do return none
  match ← token with
  | .word word false =>
    let (follower, newline) ← next
    -- `type as T` is an expression.
    if !newline && (follower == .word "as" false || follower == .word "satisfies" false) then
      return none
    if word == "declare" then
      attempt? do
        advance
        declared? decorators
    else if word == "global" && follower == .sym .lbrace then
      return some (← ambientModule)
    else if word == "interface" && newline then return none
    else if declarationWords.contains word then
      attempt? do
        advance
        declarationAfter word false decorators
    else return none
  | _ => return none
where
  /-- Nothing has happened if the reading gives nothing. -/
  attempt? (read : Read (Option Node)) : Read (Option Node) := do
    let state ← get
    let node ← read
    if node.isNone then set state
    return node

end Read

end Requisite.Script
