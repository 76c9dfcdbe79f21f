import Requisite.Script.Grammar.Class
import Requisite.Script.Grammar.Markup

/-!
# Expressions
-/

namespace Requisite.Script

/-- How tightly an operator binds. -/
def Sym.precedence? : Sym → Option Nat
  | .barBar | .nullish => some 1
  | .ampAmp => some 2
  | .bar => some 3
  | .caret => some 4
  | .amp => some 5
  | .eqEq | .notEq | .eqEqEq | .notEqEq => some 6
  | .lt | .gt | .le | .ge => some 7
  | .shl | .shr | .ushr => some 8
  | .plus | .minus => some 9
  | .star | .slash | .percent => some 10
  | .starStar => some 11
  | _ => none

/-- The precedence of `in` and `instanceof`, and of `as` among the operators. -/
def relationalPrecedence : Nat := 7

def Sym.isCompoundAssignment (s : Sym) : Bool :=
  [Sym.plusEq, .minusEq, .starEq, .slashEq, .percentEq, .starStarEq, .shlEq, .shrEq, .ushrEq,
    .ampEq, .barEq, .caretEq, .ampAmpEq, .barBarEq, .nullishEq].contains s

namespace Node

def isArrow : Node → Bool
  | .arrow _ => true
  | _ => false

/-- Part of an optional chain, so that what follows is part of it too. -/
def isChain : Node → Bool
  | .group .optionalChain _ | .group .optionalCall _ => true
  | .group .nonNull (e :: _) => e.isChain
  | _ => false

def callOf (callee : Node) (arguments typeArguments : List Node) : Node :=
  if callee.isChain then .group .optionalCall (callee :: (arguments ++ typeArguments))
  else .call callee arguments typeArguments

def memberOf (object property : Node) : Node :=
  if object.isChain then .group .optionalChain [.member object property]
  else .member object property

mutual

/-- An object literal has a default value that only a pattern may have. Functions are left
out: their bodies have been looked at on their own. -/
def hasStrayDefault : Node → Bool
  | .group .shorthandDefault _ => true
  | .ident _ | .propName _ | .str _ | .importEquals _ _ | .func _ | .arrow _ => false
  | .template _ parts | .array parts | .importDecl _ _ parts | .exportFrom _ _ parts
  | .exportDecl parts | .importType _ parts | .group _ parts => anyStrayDefault parts
  | .spread e => e.hasStrayDefault
  | .call callee args types =>
    callee.hasStrayDefault || anyStrayDefault args || anyStrayDefault types
  | .member object property => object.hasStrayDefault || property.hasStrayDefault

def anyStrayDefault : List Node → Bool
  | [] => false
  | n :: ns => n.hasStrayDefault || anyStrayDefault ns

end

/-- The object literal itself has such a default value. -/
def isStrayObject : Node → Bool
  | .group .object properties => properties.any (·.isKind .shorthandDefault)
  | _ => false

end Node

namespace Read

/-- An expression that is no pattern after all. -/
def settle (e : Node) : Read Node := do
  faultIf e.hasStrayDefault
  return e

def expressionIn : Read Node := within ({ · with inAllowed := true }) (call .expression)

def assignmentIn : Read Node := within ({ · with inAllowed := true }) (call .assignment)

/-! ## Literals -/

def spreadOrAssignment : Read Node := do
  if ← eatSym .ellipsis then return .spread (← assignmentIn)
  assignmentIn

def arrayLiteral : Read Node := do
  expectSym .lbracket
  let elements ← within ({ · with colonExpected := false }) <| gather do
    if ← isSym .rbracket then return none
    if ← eatSym .comma then return some [Node.group .hole []]
    let element ← spreadOrAssignment
    if ← isSym .rbracket then return some [element]
    expectSym .comma
    if ← isSym .rbracket then return some [element, .group .trailingComma []]
    return some [element]
  expectSym .rbracket
  return .array elements.flatten

def methodProperty (key : Node) (isAsync isGenerator : Bool) : Read Node := do
  let f ← within ({ · with superAllowed := true, inClassField := false })
    (functionParts isAsync isGenerator formalParameters)
  return .group .method [key, f.node []]

/-- An accessor of an object is no function of its own. -/
def accessorProperty (name : String) (key : Node) : Read Node := do
  let f ← within ({ · with superAllowed := true, inClassField := false })
    (functionParts false false (if name == "get" then getterParameters else setterParameters))
  let parts := if name == "get" then f.result else f.params
  return .group .accessor (key :: parts ++ f.body.toList)

/-- A property after a word that is neither a method's name nor followed by a colon. -/
def wordProperty (name : String) : Read Node := do
  faultIf (← eatSym .question)
  if ← isAnySym [.eq, .comma, .rbrace] then
    faultIf ((← scope).reserves name)
    if ← eatSym .eq then return .group .shorthandDefault [.propName name, ← assignmentIn]
    return .group .shorthand [.ident name]
  if name == "get" || name == "set" then
    return ← accessorProperty name (← propertyName)
  if name == "async" then
    let isGenerator ← eatSym .star
    return ← methodProperty (← propertyName) true isGenerator
  stop

def objectProperty : Read Node := do
  if ← eatSym .ellipsis then return .spread (← assignmentIn)
  if ← eatSym .star then return ← methodProperty (← propertyName) false true
  faultIf (← eatParameterModifier)
  let key ← propertyName
  if ← eatSym .colon then return .group .property [key, ← assignmentIn]
  if ← startsMethod then return ← methodProperty key false false
  match key with
  | .propName name => wordProperty name
  | _ => stop

def objectLiteral : Read Node := do
  expectSym .lbrace
  let properties ← within ({ · with colonExpected := false, inForHead := false }) <| gather do
    if ← isSym .rbrace then return none
    let property ← objectProperty
    if ← isSym .rbrace then return some [property]
    expectSym .comma
    if ← isSym .rbrace then return some [property, .group .trailingComma []]
    return some [property]
  expectSym .rbrace
  return .group .object properties.flatten

/-- The value of a template that is one stretch of text. -/
def chunksText : List Chunk → Option String
  | [chunk] => chunk.units.bind textOfReversed?
  | _ => none

def template (tagged : Bool) : Read Node := do
  let (parts, chunks) ← templateParts
    (within ({ · with colonExpected := false }) expressionIn)
  stopIf (!tagged && chunks.any (·.units.isNone))
  return .template (chunksText chunks) parts

def regexLiteral : Read Node := do
  match regex? ((← get).here.drop 1) with
  | some rest =>
    resume rest
    return .group .literal []
  | none => stop

/-! ## Arrow functions and parentheses -/

def arrowFunction (isAsync : Bool) (params typeParams result : List Node) : Read Node := do
  let body ← arrowBody isAsync (params.all (·.isKind .binding))
  return .arrow (params ++ [body] ++ typeParams ++ result)

/-- Something between parentheses. A pattern cannot be taken as an expression any more. -/
structure Item where
  node : Node
  isPattern : Bool := false

/-- An assignment, once its left side has been read. -/
def finishAssignment (left : Node) : Read Node := do
  match ← token with
  | .sym .eq =>
    let target ← toPattern .assigned left
    stopIf !target.isTargetForm
    advance
    return .group .assignment [target, ← call .assignment]
  | .sym s =>
    unless s.isCompoundAssignment do return left
    let scope ← scope
    faultIf !(left.isSimpleTarget scope.strict)
    if scope.types then
      strictFaultIf (match left with | .ident name => isStrictName name | _ => false)
    stopIf !left.isTargetForm
    advance
    return .group .compoundAssignment [left, ← call .assignment]
  | _ => return left

def conditionalBranches (test : Node) : Read Node := do
  let yes ← within ({ · with inConditional := true, colonExpected := true, inAllowed := true })
    (call .assignment)
  expectSym .colon
  let no ← within ({ · with inConditional := true, colonExpected := false }) (call .assignment)
  return .group .conditional [test, yes, no]

/-- With types, `x?: T` must not be read as the start of a conditional expression. -/
def itemExpression : Read Node := do
  let follower ← nextToken
  let startsName := (← atReference) || ((← isSym .ellipsis) && isReference (← scope) follower)
  if (← types) && startsName then
    if ← eatSym .ellipsis then
      return .spread (← within ({ · with inAllowed := true }) (call (.binary 0)))
    let e ← call (.binary 0)
    if e.isArrow then return e
    finishAssignment e
  else spreadOrAssignment

def isIdent : Node → Bool
  | .ident _ => true
  | _ => false

/-- The mark of an optional parameter, or the rest of a conditional expression. -/
def itemQuestion (item : Node) : Read (Node × Bool) := do
  unless (← types) && (← isSym .question) do return (item, false)
  match ← nextToken with
  | .sym .comma | .sym .colon | .sym .rparen | .sym .eq =>
    advance
    match item with
    | .spread e =>
      fault
      stopIf !(isIdent e)
    | e => stopIf !(isIdent e)
    return (item, true)
  | _ =>
    match item with
    | .spread _ => return (item, false)
    | test =>
      expectSym .question
      return (← conditionalBranches test, false)

def parenItem : Read Item := do
  modify ({ · with arrowStart := true })
  let modified ← eatParameterModifier
  if modified then modify ({ · with arrowStart := true })
  let (item, optional) ← itemQuestion (← itemExpression)
  let item ←
    if optional || ((← types) && (← isSym .colon)) then
      let pattern ← match item with
        | .spread e => pure (Node.group .rest [← toPattern .bound e])
        | e => toPattern .bound e
      let pattern := pattern.ascribe (← optionalAscription)
      if ← eatSym .eq then
        pure { node := .group .defaultPattern [pattern, ← call .assignment], isPattern := true }
      else pure { node := pattern, isPattern := true }
    else pure { node := item }
  faultIf modified
  return item

/-- The things between parentheses, and whether a comma ends them. -/
def parenItems : Read (List Item × Bool) := do
  expectSym .lparen
  let (items, trailing) ← iterate (fun (items, trailing) => do
    if ← isSym .rparen then return .done (items, trailing)
    let item ← parenItem
    if ← isSym .rparen then return .yield (item :: items, false)
    expectSym .comma
    return .yield (item :: items, ← isSym .rparen)) ([], false)
  expectSym .rparen
  return (items.reverse, trailing)

/-- The things between parentheses as the parameters of an arrow function. -/
def itemsToParams (trailing : Bool) : List Item → Read (List Node)
  | [] => return []
  | item :: items => do
    let last := items.isEmpty
    let param ←
      if item.isPattern then
        faultIf (item.node.isKind .rest && (!last || trailing))
        pure item.node
      else
        match item.node with
        | .spread e =>
          faultIf (!last || trailing || e.isKind .assignment)
          pure (Node.group .rest [← toPattern .bound e])
        | e => toPattern .bound e
    return param :: (← itemsToParams trailing items)

/-- An arrow function with a result type, inside a conditional expression that also has a
colon. -/
def conditionalArrow (items : List Item) (trailing isAsync : Bool) : Read (Option Node) := do
  let colonExpected := (← scope).colonExpected
  attempt do
    expectSym .colon
    let result ← resultType
    expectSym .arrow
    let params ← itemsToParams trailing items
    let arrow ← arrowFunction isAsync params [] [result]
    if colonExpected then
      unless ← isSym .colon do stop
    return some arrow

def arrowResultType : Read (Option Node) :=
  attempt do
    expectSym .colon
    let result ← resultType
    unless ← isSym .arrow do stop
    return some result

/-- Things between parentheses that are no parameters. -/
def parenExpression (items : List Item) (isAsync : Bool) : Read Node := do
  stopIf (items.any (·.isPattern))
  let nodes := items.map (·.node)
  faultIf (nodes.any Node.isStrayObject)
  if isAsync then return .call (.ident "async") nodes []
  stopIf (nodes.isEmpty || nodes.any fun n => match n with | .spread _ => true | _ => false)
  match nodes with
  | [e] => return .group .paren [e]
  | es => return .group .paren [.group .sequence es]

/-- An expression in parentheses, or an arrow function. -/
def parenOrArrow (canBeArrow isAsync : Bool) : Read Node := do
  let (items, trailing) ← within
    ({ · with colonExpected := false, inAllowed := true, inForHead := false }) parenItems
  let s ← scope
  if s.types && s.inConditional && (← isSym .colon) then
    if let some arrow ← conditionalArrow items trailing isAsync then return arrow
  let result ←
    if s.types && !s.colonExpected && (← isSym .colon) then arrowResultType else pure none
  if result.isSome || items.any (·.isPattern) || (← isSym .arrow) then
    stopIf ((← newline) || !canBeArrow)
    expectSym .arrow
    let params ← itemsToParams trailing items
    let simple := params.all (·.isKind .binding)
    let body ← arrowBody isAsync simple
    return .arrow (params ++ [body] ++ result.toList)
  parenExpression items isAsync

/-! ## Words -/

/-- `async x => …`, once `async` has been read, or the name `async` itself. -/
def afterAsync : Read Node := do
  let s ← scope
  if s.inForHead && (← isWord "of") && !(← nextIsSym .arrow) then
    faultIf !s.inForAwaitHead
    return .ident "async"
  let name ← bindingIdentifier false
  if s.types && name == "as" && !(← isSym .arrow) then
    return .group .asType [.ident "async", ← call .type]
  expectSym .arrow
  arrowFunction true [.group .binding [.ident name]] [] []

def identifierExpression (canBeArrow : Bool) : Read Node := do
  let s ← scope
  let isAsyncWord ← isWord "async"
  let name ← identifier (!s.generator) (!s.async)
  if canBeArrow && isAsyncWord && !(← newline) && isBindable s (← token) then
    return ← afterAsync
  if canBeArrow && !(← newline) then
    if ← eatSym .arrow then
      strictFaultIf (s.strict && isStrictName name)
      return ← arrowFunction false [.group .binding [.ident name]] [] []
  return .ident name

/-- `<T>(x) => …` after `async`. -/
def genericAsyncArrow : Read (Option Node) := do
  let head ← attempt do
    let typeParams ← typeParameters false false
    expectSym .lparen
    let params ← formalParameters
    expectSym .rparen
    let result ← optionalResultType
    expectSym .arrow
    return some (typeParams, params, result)
  match head with
  | some (typeParams, params, result) =>
    within ({ · with async := true, generator := false }) do
      let body ← arrowBody true (params.all Node.isSimpleParameter)
      return some (.arrow (params ++ [body] ++ typeParams ++ result))
  | none => return none

def wordExpression (name : String) (canBeArrow : Bool) : Read Node := do
  if name == "this" then
    advance
    return .group .this []
  if name == "null" || name == "true" || name == "false" then
    advance
    return .group .literal []
  if name == "function" then return ← functionFromKeyword false true false []
  if name == "class" then return ← classFromKeyword .classExpression false false []
  if name == "async" then
    let (follower, newline) ← next
    unless newline do
      if follower == .word "function" false then
        advance
        return ← functionFromKeyword true true false []
    if canBeArrow && (← types) && follower == .sym .lt then
      let arrow ← attempt do
        advance
        genericAsyncArrow
      if let some arrow := arrow then return arrow
    unless newline do
      if canBeArrow && follower == .sym .lparen then
        advance
        return ← parenOrArrow canBeArrow true
  identifierExpression canBeArrow

def primary : Read Node := do
  let canBeArrow := (← get).arrowStart
  match ← token with
  | .word name escaped =>
    if escaped then identifierExpression canBeArrow else wordExpression name canBeArrow
  | .privateName _ =>
    advance
    unless (← isWord "in") && (← scope).inAllowed do stop
    return .group .privateName []
  | .number _ | .bigint => numberLiteral
  | .str .. => return .str (← stringLiteral)
  | .sym .lparen => parenOrArrow canBeArrow false
  | .sym .lbracket => arrayLiteral
  | .sym .lbrace => objectLiteral
  | .sym .backtick => template false
  | .sym .slash | .sym .slashEq => regexLiteral
  | .sym .at =>
    let decorators ← decorators
    classFromKeyword .classExpression false false decorators
  | _ => stop

/-! ## Members and calls -/

def arguments (isImport : Bool) : Read (List Node) := do
  expectSym .lparen
  let args ← within ({ · with colonExpected := false, inForHead := false }) <| gather do
    if ← isSym .rparen then return none
    let arg ← spreadOrAssignment
    unless ← isSym .rparen do
      expectSym .comma
      if isImport && !(← types) then stopIf (← isSym .rparen)
    return some arg
  expectSym .rparen
  return args

def dotName : Read Node := do
  match ← token with
  | .privateName _ =>
    advance
    return .group .privateName []
  | _ => return .propName (← identifierName)

/-- A call or a template with type arguments. -/
def typedSubscript (noCall : Bool) (object : Node) : Read (Option (ForInStep Node)) :=
  attempt do
    if !noCall && isIdent object then
      if object matches .ident "async" then
        if let some arrow ← genericAsyncArrow then return some (.done arrow)
    let typeArgs ← typeArguments
    if !noCall && (← isSym .lparen) then
      return some (.yield (.callOf object (← arguments false) typeArgs))
    if ← isSym .backtick then
      return some (.yield (.group .taggedTemplate (object :: typeArgs ++ [← template true])))
    if (← isSym .eq) || (← isAnyWord ["as", "satisfies"]) then
      return some (.done (.group .instantiation (object :: typeArgs)))
    stop

def optionalSubscript (noComputed : Bool) (object : Node) : Read Node := do
  expectSym .questionDot
  if !noComputed && (← isSym .lbracket) then
    advance
    let e ← expressionIn
    expectSym .rbracket
    return .group .optionalChain [.member object (.group .computed [e])]
  if (← isSym .lparen) || ((← types) && (← isLt)) then
    let typeArgs ← if ← isSym .lparen then pure [] else typeArguments
    let args ← arguments false
    return .group .optionalCall (object :: (args ++ typeArgs))
  return .group .optionalChain [.member object (← dotName)]

/-- A property of what `super` stands for. -/
def superMember (property : List Node) : Read Node := do
  let s ← scope
  faultIf (!s.superAllowed && !s.types)
  return .group .superMember property

/-- One step after an expression: a property, a call, a template. -/
def subscript (noCall noComputed : Bool) (object : Node) : Read (ForInStep Node) := do
  let isSuper := object.isKind .superKeyword
  let isImport := object.isKind .importKeyword
  if ← types then
    if !(← newline) && (← isSym .bang) then
      advance
      stopIf (isSuper || isImport)
      return .yield (.group .nonNull [object])
    if !isSuper && !isImport && (← isLt) then
      if let some step ← typedSubscript noCall object then return step
  match ← token with
  | .sym .questionDot =>
    stopIf (isSuper || isImport)
    return .yield (← optionalSubscript noComputed object)
  | .sym .lbracket =>
    if noComputed then return .done object
    stopIf isImport
    advance
    let e ← within ({ · with colonExpected := false }) expressionIn
    expectSym .rbracket
    if isSuper then return .yield (← superMember [e])
    return .yield (.memberOf object (.group .computed [e]))
  | .sym .lparen =>
    if noCall then
      stopIf (isSuper || isImport)
      return .done object
    return .yield (.callOf object (← arguments isImport) [])
  | .sym .dot =>
    stopIf isImport
    advance
    let name ← dotName
    if isSuper then
      stopIf (name.isKind .privateName)
      return .yield (← superMember [])
    return .yield (.memberOf object name)
  | .sym .backtick =>
    stopIf (isSuper || isImport || object.isChain)
    return .yield (.group .taggedTemplate [object, ← template true])
  | _ =>
    stopIf (isSuper || isImport)
    return .done object

def subscripts (noCall noComputed : Bool) (object : Node) : Read Node :=
  iterate (subscript noCall noComputed) object

/-- After `import` in an expression: a call, or `import.meta`. -/
def importExpression (noCall : Bool) : Read Node := do
  expectWord "import"
  if ← eatSym .dot then
    modify ({ · with isModule := true })
    let name ← identifierName
    if name == "meta" then return ← subscripts noCall false (.group .metaProperty [])
    stopIf (name != "defer" && name != "source")
  subscripts noCall false (.group .importKeyword [])

def startsExpression : Token → Bool
  | .word name _ =>
    !reservedWords.contains name
      || ["this", "super", "null", "true", "false", "function", "class", "new", "import", "typeof",
        "void", "delete"].contains name
  | .number _ | .bigint | .str .. | .privateName _ => true
  | .sym s =>
    [Sym.lparen, .lbracket, .lbrace, .backtick, .slash, .slashEq, .plus, .minus, .bang, .tilde,
      .plusPlus, .minusMinus, .lt, .at].contains s
  | _ => false

/-- Type arguments that are not those of a call. -/
def instantiationArguments : Read (Option (List Node)) :=
  attempt do
    let args ← typeArguments
    if ← isAnySym [.lt, .gt, .plus, .minus, .lparen, .backtick] then return none
    let operator ← match ← token with
      | .sym s => pure s.precedence?.isSome
      | .word name _ => pure (name == "in" || name == "instanceof")
      | _ => pure false
    if (← newline) || operator || !startsExpression (← token) then return some args
    return none

/-- After `new`: its target, or what to construct. -/
def newExpression (isNew : Bool) : Read Node := do
  expectWord "new"
  if ← eatSym .dot then
    expectWord "target"
    let s ← scope
    faultIf (!s.inPlainFunction && !s.inParameters && !s.inClass)
    return ← subscripts true false (.group .metaProperty [])
  let callee ← call (.memberOrNew true)
  if callee.isArrow then return callee
  stopIf callee.isChain
  let typeArgs ←
    if (← types) && (← isLt) then
      attempt do
        let args ← typeArguments
        unless ← isSym .lparen do stop
        return some args
    else pure none
  let typeArgs := typeArgs.getD []
  if !isNew || (← isSym .lparen) then
    let args ← arguments false
    return ← subscripts true false (.group .construct (callee :: (args ++ typeArgs)))
  return .group .construct (callee :: typeArgs)

def memberOrNew (isNew : Bool) : Read Node := do
  if ← isWord "new" then return ← newExpression isNew
  if ← eatWord "super" then return ← subscripts true false (.group .superKeyword [])
  if ← isWord "import" then return ← importExpression true
  let object ← primary
  if object.isArrow then return object
  let object ←
    if (← types) && (← isLt) then
      match ← instantiationArguments with
      | some args => pure (Node.group .instantiation (object :: args))
      | none => pure object
    else pure object
  subscripts true false object

def leftHandSide : Read Node := do
  if (← scope).markup then
    if ← isSym .lt then
      let e ← call .element
      resume (← get).rest
      return e
  if ← eatWord "super" then return ← subscripts false false (.group .superKeyword [])
  if ← isWord "import" then return ← importExpression false
  let callee ← memberOrNew true
  if callee.isArrow then return callee
  let typeArgs ←
    if (← types) && (← isLt) then
      attempt do
        let args ← typeArguments
        unless ← isSym .lparen do return none
        return some args
    else pure none
  if ← isSym .lparen then
    let args ← arguments false
    return ← subscripts false false (.callOf callee args (typeArgs.getD []))
  return callee

def decorator : Read Node := do
  expectSym .at
  let e ← if ← eatSym .lparen then
    let e ← expressionIn
    expectSym .rparen
    pure e
    else subscripts false true (.ident (← identifier false false))
  if ← isSym .lparen then return .group .decorator [.callOf e (← arguments false) []]
  return .group .decorator [e]

/-! ## Operators -/

/-- `await e`. Outside asynchronous code, where no operand can follow, `await` is a name. -/
def awaitExpression : Read Node := do
  expectWord "await"
  stopIf (← isSym .star)
  let s ← scope
  if !s.async && ((← isSemi) || (← isAnySym [.rparen, .rbracket, .comma])) then
    faultIf s.inModule
    return .ident "await"
  if s.topLevel then modify ({ · with isModule := true })
  faultIf (s.inFunction && !s.async)
  faultIf (s.inParameters && !s.inFunction)
  return .group .await [← call .unary]

/-- `<T>e`, where there is no markup. -/
def typeAssertion : Read Node := do
  expectSym .lt
  if (← isWord "const") && (← nextIsSym .gt) then
    advance
    expectGt
    return .group .asConst [← call .unary]
  let type ← call .type
  expectGt
  return .group .typeAssertion [← call .unary, type]

def prefixOperator? : Token → Option Kind
  | .word "delete" false => some .delete
  | .word "void" false | .word "typeof" false | .sym .plus | .sym .minus | .sym .tilde
  | .sym .bang => some .unary
  | _ => none

def isDeletable : Node → Bool
  | .member _ _ | .group .optionalChain _ => true
  | .group .paren (e :: _) => isDeletable e
  | _ => false

def unary : Read Node := do
  let s ← scope
  if s.types && !s.markup then
    if ← isSym .lt then return ← typeAssertion
  if (← eatSym .plusPlus) || (← eatSym .minusMinus) then
    let e ← call .unary
    checkTarget false e
    return .group .update [e]
  if let some kind := prefixOperator? (← token) then
    advance
    let e ← call .unary
    if kind == .delete then
      strictFaultIf (isIdent e)
      faultIf (s.types && !isDeletable e)
    return .group kind [e]
  if ← isWord "await" then return ← awaitExpression
  let e ← leftHandSide
  if e.isArrow then return e
  if ← newline then return e
  if (← isSym .plusPlus) || (← isSym .minusMinus) then
    checkTarget false e
    advance
    return .group .update [e]
  return e

/-- The operator here, with its precedence and the kind of its node. -/
def operator? : Read (Option (Nat × Kind)) := do
  match ← token with
  | .sym s =>
    let kind := if s == .ampAmp || s == .barBar then Kind.logical else .binary
    return s.precedence?.map (·, kind)
  | .word "instanceof" false => return some (relationalPrecedence, .binary)
  | .word "in" false =>
    return if (← scope).inAllowed then some (relationalPrecedence, .binary) else none
  | _ => return none

/-- Operators that bind tighter than `above`, after their first operand. -/
def operations (above : Nat) (first : Node) : Read Node :=
  iterate (fun left => do
    if (← types) && !(← newline) then
      if above < relationalPrecedence && (← isWord "as") then
        if ← nextIsWord "const" then
          advance
          advance
          return .yield (.group .asConst [left])
        advance
        return .yield (.group .asType [left, ← call .type])
      if ← eatWord "satisfies" then
        return .yield (.group .satisfies [left, ← call .type])
    match ← operator? with
    | some (precedence, kind) =>
      if precedence ≤ above then return .done left
      let isPower ← isSym .starStar
      let isNullish ← isSym .nullish
      stopIf (isPower && [Kind.unary, .delete, .await].any left.isKind)
      advance
      let right ← call (.binary (if isPower then precedence - 1 else precedence))
      faultIf (isNullish && (left.isKind .logical || right.isKind .logical))
      return .yield (.group kind [left, right])
    | none => return .done left) first

def binary (above : Nat) : Read Node := do
  let e ← call .unary
  if e.isArrow then return e
  operations above e

def conditional : Read Node := do
  let test ← binary 0
  if test.isArrow then return test
  if ← eatSym .question then return ← conditionalBranches test
  return test

/-! ## Assignments -/

def yieldExpression : Read Node := do
  expectWord "yield"
  let s ← scope
  faultIf (s.inParameters && !s.inFunction)
  if ← isSemi then return .group .yield []
  if ← eatSym .star then return .group .yield [← call .assignment]
  if startsExpression (← token) then return .group .yield [← call .assignment]
  return .group .yield []

def plainAssignment : Read Node := do
  let s ← scope
  if s.generator && (← isWord "yield") then return ← yieldExpression
  modify ({ · with arrowStart := true })
  let e ← conditional
  if [Kind.conditional, .binary, .logical, .unary, .delete, .update].any e.isKind then return e
  if e.isArrow then return e
  finishAssignment e

/-- The type parameters of an arrow function. Where there is markup, a single plain name would
be a tag. -/
def arrowTypeParameters : Read (List Node) := do
  expectSym .lt
  let (params, trailing) ← iterate (fun (params, trailing) => do
    if ← isGt then return .done (params, trailing)
    let param ← typeParameter false true
    if ← isGt then return .yield (param :: params, false)
    expectSym .comma
    return .yield (param :: params, true)) ([], false)
  expectGt
  let plain := match params with
    | [.group _ parts] => parts.isEmpty
    | _ => false
  stopIf ((← scope).markup && plain && !trailing)
  return [.group .typeParameters params.reverse]

def genericArrow : Read (Option Node) :=
  within ({ · with colonExpected := false }) <| attempt do
    let typeParams ← arrowTypeParameters
    match ← plainAssignment with
    | .arrow parts =>
      -- The result type comes last.
      let (result, others) := parts.partition (·.isKind .ascribedType)
      return some (.arrow (others ++ typeParams ++ result))
    | _ => stop

def assignment : Read Node := do
  let s ← scope
  if s.types && (← isSym .lt) then
    if s.markup then
      if let some e ← attempt (some <$> plainAssignment) then return e
    if isWordToken (← nextToken) then
      if let some e ← genericArrow then return e
  plainAssignment

def expression : Read Node := do
  let first ← call .assignment
  unless ← isSym .comma do return first
  let others ← gather do
    unless ← eatSym .comma do return none
    return some (← call .assignment)
  return .group .sequence (first :: others)

end Read

end Requisite.Script
