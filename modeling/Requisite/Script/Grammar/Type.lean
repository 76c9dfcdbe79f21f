import Requisite.Script.Grammar.Parameter

/-!
# Types
-/

namespace Requisite.Script

namespace Read

def keywordTypes : List String :=
  ["any", "boolean", "bigint", "never", "number", "object", "string", "symbol", "unknown",
   "undefined", "void", "null", "intrinsic"]

/-! ## Arguments and parameters of types -/

def typeArguments : Read (List Node) := do
  expectLt
  let args ← commaList isGt (call .type)
  expectGt
  faultIf args.isEmpty
  return [.group .typeArguments args]

def optionalTypeArguments : Read (List Node) := do
  if ← newline then return []
  if ← isLt then typeArguments else return []

def typeParameter (inOut const : Bool) : Read Node := do
  let modifiers ← gather (modifier? ["in", "out", "const"] false)
  faultIf (modifiers.any fun m => if m == "const" then !const else !inOut)
  let _ ← identifierName
  let bound ← if ← eatWord "extends" then pure [← call .type] else pure []
  let default ← if ← eatSym .eq then pure [← call .type] else pure []
  return .group .type (bound ++ default)

def typeParameters (inOut const : Bool) : Read (List Node) := do
  expectSym .lt
  let params ← commaList isGt (typeParameter inOut const)
  expectGt
  return [.group .typeParameters params]

def optionalTypeParameters (inOut const : Bool) : Read (List Node) := do
  unless ← types do return []
  if ← isSym .lt then typeParameters inOut const else return []

/-! ## Result types -/

/-- A result type, or what it tells about an argument: `x is T`, `asserts x`. -/
def resultType : Read Node := do
  let asserts ← pure ((← isWord "asserts") && (← nextIsReference))
  if asserts then advance
  let (follower, newline) ← next
  let named := (← atReference) && follower == .word "is" false && !newline
  unless asserts || named do return .group .ascribedType [← call .type]
  let _ ← identifierName
  if named then
    advance
    return .group .ascribedType [← call .type]
  return .group .ascribedType []

def optionalResultType : Read (List Node) := do
  if ← types then
    if ← eatSym .colon then return [← resultType]
  return []

def signatureParameters : Read (List Node) := do
  expectSym .lparen
  let params ← formalParameters
  expectSym .rparen
  stopIf (params.any fun p =>
    match p with
    | .group .parameter parts => parts.getLast?.any (·.isKind .defaultPattern)
    | _ => true)
  return params

/-! ## Function types -/

/-- A parameter can start here. It is passed over. -/
def skipParameterStart : Read Bool := do
  let _ ← eatParameterModifier
  if isWordToken (← token) then
    advance
    return true
  if (← isSym .lbrace) || (← isSym .lbracket) then
    let _ ← call .bindingTarget
    return true
  return false

/-- After an opening parenthesis: this can only be the parameters of a function type. -/
def startsParameters : Read Bool := do
  advance
  if (← isSym .rparen) || (← isSym .ellipsis) then return true
  if ← skipParameterStart then
    if ← isAnySym [.colon, .comma, .question, .eq] then return true
    if ← eatSym .rparen then return ← isSym .arrow
  return false

def functionType : Read Node := do
  let parameters ← optionalTypeParameters false true
  let params ← signatureParameters
  expectSym .arrow
  let result ← resultType
  return .group .type (params ++ parameters ++ [result])

/-! ## Members of object types -/

def endTypeMember : Read Unit := do
  unless ← eatSym .comma do expectSemi

def typePropertyName : Read Node := do
  if (← token) matches .privateName _ then stop
  propertyName

/-- `[key: T]: U`, in an object type or a class. -/
def indexSignature? : Read (Option Node) := do
  unless ← isSym .lbracket do return none
  let starts ← lookAhead do
    advance
    unless ← atReference do return false
    advance
    isAnySym [.colon, .comma]
  unless starts do return none
  advance
  let _ ← identifierName
  if ← eatSym .comma then fault else expectSym .colon
  let key ← call .type
  expectSym .rbracket
  let value ← optionalAscription
  endTypeMember
  return some (.group .type (key :: value))

def callSignature : Read Node := do
  let parameters ← optionalTypeParameters false true
  let params ← signatureParameters
  let result ← optionalResultType
  endTypeMember
  return .group .type (params ++ result ++ parameters)

def accessorSignature : Read Node := do
  let isGetter ← eatWord "get"
  unless isGetter do expectWord "set"
  let key ← typePropertyName
  if isGetter then
    expectSym .lparen
    expectSym .rparen
    let result ← optionalAscription
    endTypeMember
    return .group .type (key :: result)
  let params ← signatureParameters
  stopIf params.isEmpty
  let _ ← optionalAscription
  endTypeMember
  return .group .type (key :: params.take 1)

def typeMember : Read Node := do
  if (← isSym .lparen) || (← isSym .lt) then return ← callSignature
  if ← isWord "new" then
    let follower ← nextToken
    if follower == .sym .lparen || follower == .sym .lt then
      advance
      return ← callSignature
  let readonly := (← modifier? ["readonly"] false).isSome
  if let some node ← indexSignature? then return node
  unless readonly do
    if let some node ← attempt (some <$> accessorSignature) then return node
  let key ← typePropertyName
  let _ ← eatSym .question
  if (← isSym .lparen) || (← isSym .lt) then
    stopIf readonly
    let parameters ← optionalTypeParameters false true
    let params ← signatureParameters
    let result ← optionalResultType
    endTypeMember
    return .group .type (key :: params ++ result ++ parameters)
  let ascribed ← optionalAscription
  endTypeMember
  return .group .type (key :: ascribed)

def typeMembers : Read Node := do
  expectSym .lbrace
  let members ← gather do
    if ← eatSym .rbrace then return none
    return some (← typeMember)
  return .group .type members

/-! ## Mapped types -/

def startsMappedType : Read Bool := do
  advance
  if (← eatSym .plus) || (← eatSym .minus) then return ← isWord "readonly"
  let _ ← eatWord "readonly"
  unless ← eatSym .lbracket do return false
  unless ← atReference do return false
  advance
  isWord "in"

def mappedType : Read Node := do
  expectSym .lbrace
  if (← eatSym .plus) || (← eatSym .minus) then expectWord "readonly"
  else let _ ← eatWord "readonly"
  expectSym .lbracket
  let _ ← identifierName
  expectWord "in"
  let keys ← call .type
  let renamed ← if ← eatWord "as" then pure [← call .type] else pure []
  expectSym .rbracket
  if (← eatSym .plus) || (← eatSym .minus) then expectSym .question
  else let _ ← eatSym .question
  let value ← optionalAscription
  expectSemi
  expectSym .rbrace
  return .group .type (keys :: renamed ++ value)

/-! ## Tuples -/

def tupleLabel : Read (Option Unit) := do
  let _ ← eatSym .ellipsis
  let _ ← identifierName
  let _ ← eatSym .question
  expectSym .colon
  return some ()

def tupleElement : Read Node := do
  let rest ← isSym .ellipsis
  if (← attempt tupleLabel).isSome then
    let type ← call .type
    return if rest then .group .restType [type] else .group .ascribedType [type]
  if ← eatSym .ellipsis then return .group .restType [← call .type]
  let type ← call .type
  if ← eatSym .question then return .group .optionalType [type]
  return type

/-- A required element must not follow an optional one. -/
def requiredAfterOptional : List Node → Bool
  | [] => false
  | e :: es =>
    (e.isKind .optionalType && es.any fun n =>
      !(n.isKind .optionalType || n.isKind .restType || n.isKind .ascribedType))
      || requiredAfterOptional es

def tupleType : Read Node := do
  expectSym .lbracket
  let elements ← commaList (isSym .rbracket) tupleElement
  expectSym .rbracket
  stopIf (requiredAfterOptional elements)
  return .group .type elements

/-! ## Names, imports and templates -/

def entityName (reservedAllowed : Bool) : Read Unit := do
  if reservedAllowed then let _ ← identifierName
  else let _ ← identifier false false
  let _ ← gather do
    unless ← eatSym .dot do return none
    return some (← identifierName)

def importType : Read Node := do
  expectWord "import"
  expectSym .lparen
  let source ←
    if ← isString then stringLiteral
    else
      advance
      fault
      pure (some "")
  let attributes ←
    if ← eatSym .comma then
      if ← eatSym .lbrace then
        expectWord "with"
        expectSym .colon
        let value ← call .objectLiteral
        let _ ← eatSym .comma
        expectSym .rbrace
        pure [value]
      else pure []
    else pure []
  expectSym .rparen
  if ← eatSym .dot then entityName false
  let args ← if ← isLt then typeArguments else pure []
  return .importType source (args ++ attributes)

/-- A template whose substitutions are read by `part`. -/
def templateParts (part : Read Node) : Read (List Node × List Chunk) := do
  unless ← isSym .backtick do stop
  let start ← match chunkFrom (some []) 0 (← get).rest with
    | some chunk => pure chunk
    | none => stop
  let (parts, chunks) ← iterate (fun (parts, chunks) => do
    match chunks with
    | chunk :: _ =>
      resume chunk.rest
      if chunk.last then return .done (parts, chunks)
      let part ← part
      unless ← isSym .rbrace do stop
      match chunkFrom (some []) 0 (← get).rest with
      | some chunk => return .yield (part :: parts, chunk :: chunks)
      | none => stop
    | [] => stop) ([], [start])
  return (parts.reverse, chunks.reverse)

def templateType : Read Node := do
  let (parts, chunks) ← templateParts (call .type)
  stopIf (chunks.any (·.units.isNone))
  return .group .type parts

/-! ## From the smallest types to the largest -/

def typeQuery : Read Node := do
  expectWord "typeof"
  let name ← if ← isWord "import" then pure [← importType] else
    entityName true
    pure []
  return .group .type (name ++ (← optionalTypeArguments))

def typeReference : Read Node := do
  entityName true
  return .group .type (← optionalTypeArguments)

/-- After `this`, perhaps with what it is asserted to be. -/
def thisType : Read Node := do
  expectWord "this"
  unless ← newline do
    if ← eatWord "is" then return .group .type [← call .type]
  return .group .type []

def wordType (name : String) : Read Node := do
  if name == "import" then return ← importType
  if name == "this" then return ← thisType
  if name == "typeof" then return ← typeQuery
  if name == "true" || name == "false" then
    advance
    return .group .type []
  if name == "asserts" then
    if ← nextIsWord "this" then
      advance
      return ← thisType
  if keywordTypes.contains name then
    unless ← nextIsSym .dot do
      advance
      return .group .keywordType [.propName name]
  stopIf (reservedWords.contains name && name != "void" && name != "null")
  typeReference

def primaryType : Read Node := do
  match ← token with
  | .word name _ => wordType name
  | .str .. =>
    let _ ← stringLiteral
    return .group .type []
  | .number _ | .bigint =>
    let _ ← numberLiteral
    return .group .type []
  | .sym .minus =>
    advance
    let _ ← numberLiteral
    return .group .type []
  | .sym .backtick => templateType
  | .sym .lbrace => if ← lookAhead startsMappedType then mappedType else typeMembers
  | .sym .lbracket => tupleType
  | .sym .lparen =>
    advance
    let type ← call .type
    expectSym .rparen
    return .group .type [type]
  | _ => stop

/-- A type with any number of `[]` and `[K]` after it, on the same line. -/
def arrayType : Read Node := do
  let type ← primaryType
  iterate (fun type => do
    if ← newline then return .done type
    unless ← eatSym .lbracket do return .done type
    if ← eatSym .rbracket then return .yield (.group .type [type])
    let index ← call .type
    expectSym .rbracket
    return .yield (.group .type [type, index])) type

/-- Types between operators, of which one may also lead. -/
def operatorTypes (operator : Sym) (operand : Read Node) : Read Node := do
  let _ ← eatSym operator
  let first ← operand
  let others ← gather do
    unless ← eatSym operator do return none
    return some (← operand)
  return if others.isEmpty then first else .group .type (first :: others)

def startsFunctionType : Read Bool := do
  if ← isSym .lt then return true
  if ← isSym .lparen then return ← lookAhead startsParameters
  return false

def nonConditionalType : Read Node := do
  if ← startsFunctionType then return ← functionType
  if ← isWord "new" then
    advance
    return ← functionType
  if (← isWord "abstract") && (← nextIsWord "new") then
    advance
    advance
    return ← functionType
  operatorTypes .bar (operatorTypes .amp (call .unaryType))

/-- The bound of an inferred type, unless it starts a conditional type. -/
def inferBound : Read (Option Node) := do
  expectWord "extends"
  let bound ← nonConditionalType
  if (← scope).noConditionalType || !(← isSym .question) then return some bound
  return none

def unaryType : Read Node := do
  if ← isAnyWord ["keyof", "unique", "readonly"] then
    advance
    return .group .type [← call .unaryType]
  if ← eatWord "infer" then
    let _ ← identifierName
    let bound ← attempt inferBound
    return .group .type bound.toList
  arrayType

def type : Read Node := within ({ · with noConditionalType := false }) do
  let check ← nonConditionalType
  if ← newline then return check
  unless ← eatWord "extends" do return check
  let bound ← within ({ · with noConditionalType := true }) nonConditionalType
  expectSym .question
  let yes ← call .type
  expectSym .colon
  let no ← call .type
  return .group .type [check, bound, yes, no]

end Read

end Requisite.Script
