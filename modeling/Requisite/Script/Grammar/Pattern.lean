import Requisite.Script.Grammar.Reader

/-!
# Names, binding patterns, and expressions taken as patterns

Whether `[a, b]` is an array or a pattern is known only after it, so it is read as an
expression first and then taken as a pattern.
-/

namespace Requisite.Script

namespace Read

/-! ## Literals and property names -/

def stringLiteral : Read (Option String) := do
  match ← token with
  | .str value octal _ =>
    strictFaultIf octal
    advance
    return value
  | _ => stop

def isString : Read Bool := do
  match ← token with
  | .str .. => return true
  | _ => return false

def numberLiteral : Read Node := do
  match ← token with
  | .number spelling =>
    if spelling == .octal then faultIf (← types)
    strictFaultIf (spelling != .plain)
    advance
    return .group .literal []
  | .bigint =>
    advance
    return .group .literal []
  | _ => stop

/-- The name of a property: a word, a string, a number or an expression in brackets. -/
def propertyName : Read Node := do
  match ← token with
  | .word name _ =>
    advance
    return .propName name
  | .str .. => return .str (← stringLiteral)
  | .number _ | .bigint => numberLiteral
  | .sym .lbracket =>
    advance
    let e ← within ({ · with inAllowed := true }) (call .assignment)
    expectSym .rbracket
    return .group .computed [e]
  | _ => stop

/-! ## Binding patterns -/

def bindingElement : Read Node := do
  let target ← call .bindingTarget
  if ← eatSym .eq then
    let value ← call .assignment
    faultIf (← scope).inDeclare
    return .group .defaultPattern [target, value]
  return target

def arrayPattern : Read Node := do
  expectSym .lbracket
  let elements ← gather do
    if ← isSym .rbracket then return none
    if ← eatSym .comma then return some (.group .hole [])
    let element ←
      if ← eatSym .ellipsis then
        let target ← call .bindingTarget
        faultIf !(← isSym .rbracket)
        pure (Node.group .rest [target])
      else bindingElement
    unless ← isSym .rbracket do expectSym .comma
    return some element
  expectSym .rbracket
  return .group .arrayPattern elements

def objectPatternProperty : Read Node := do
  if ← eatSym .ellipsis then
    let target ← call .bindingTarget
    stopIf !(target.isKind .binding)
    faultIf !(← isSym .rbrace)
    return .group .rest [target]
  let key ← propertyName
  if ← eatSym .colon then return .group .property [key, ← bindingElement]
  match key with
  | .propName name =>
    if ← eatSym .eq then
      return .group .property [key, ← within ({ · with inAllowed := true }) (call .assignment)]
    faultIf ((← scope).reserves name)
    return .group .shorthand [key]
  | _ => stop

def objectPattern : Read Node := do
  expectSym .lbrace
  let properties ← within ({ · with colonExpected := false })
    (commaList (isSym .rbrace) objectPatternProperty)
  expectSym .rbrace
  return .group .objectPattern properties

/-- What a declaration or a parameter binds. -/
def bindingTarget (letBarred : Bool) : Read Node := do
  let node ← match ← token with
    | .word .. => return .group .binding [.ident (← bindingIdentifier letBarred)]
    | .sym .lbracket => arrayPattern
    | .sym .lbrace => objectPattern
    | _ => stop
  if (← scope).inDeclare then let _ ← eatSym .question
  return node

end Read

/-! ## Assignment targets -/

def isStrictName (name : String) : Bool := name == "eval" || name == "arguments"

namespace Node

/-- An expression that a single value can be assigned to. -/
def isSimpleTarget (strict : Bool) : Node → Bool
  | .ident name => !(strict && isStrictName name)
  | .member object _ =>
    match object with
    | .member _ _ => object.isSimpleTarget strict
    | .group .optionalChain _ | .group .optionalCall _ => false
    | _ => true
  | .group .superMember _ => true
  | .group .paren (e :: _) | .group .nonNull (e :: _) | .group .asType (e :: _)
  | .group .satisfies (e :: _) | .group .typeAssertion (e :: _)
  | .group .instantiation (e :: _) => e.isSimpleTarget strict
  | _ => false

/-- Type syntax lets some targets pass that nothing can be assigned to. -/
def isRefusedTarget (callRefused : Bool) : Node → Bool
  | .str _ | .group .literal _ | .group .binary _ | .group .logical _ => false
  | .call .. => callRefused
  | .group .paren (e :: _) => e.isRefusedTarget callRefused
  | _ => true

def isTargetForm : Node → Bool
  | .ident _ | .member _ _ => true
  | .group k _ =>
    [Kind.superMember, .optionalChain, .optionalCall, .paren, .asType, .satisfies, .nonNull,
      .typeAssertion, .instantiation, .objectPattern, .arrayPattern].contains k
  | _ => false

end Node

namespace Read

def checkTarget (callRefused : Bool) (target : Node) : Read Unit := do
  let s ← scope
  let strictName := match target with | .ident name => isStrictName name | _ => false
  strictFaultIf strictName
  faultIf (!strictName && !target.isSimpleTarget s.strict
    && (!s.types || target.isRefusedTarget callRefused))

/-! ## Expressions taken as patterns -/

/-- What an expression is taken as: the whole left side, or an element of it. -/
inductive Target where
  | assigned
  | assignedElement
  | bound
  | boundElement
  deriving DecidableEq

def Target.element : Target → Target
  | .assigned | .assignedElement => .assignedElement
  | .bound | .boundElement => .boundElement

def Target.binds : Target → Bool
  | .bound | .boundElement => true
  | .assigned | .assignedElement => false

/-- An element that is assigned to as it stands. -/
def isElementTarget : Node → Bool
  | .ident _ | .member _ _ | .call .. | .str _ | .func _ | .template .. => true
  | .group k _ =>
    [Kind.superMember, .construct, .literal, .classExpression, .paren, .asType, .satisfies,
      .nonNull].contains k
  | _ => false

mutual

def toPattern (target : Target) : Node → Read Node
  | .ident name => do
    if target.binds then
      if (← scope).strict then strictFaultIf (isStrictName name)
      return .group .binding [.ident name]
    checkTarget true (.ident name)
    return .ident name
  | .array elements => return .group .arrayPattern (← elementPatterns target.element elements)
  | .group .object properties =>
    return .group .objectPattern (← propertyPatterns target.element properties)
  | .group .assignment [left, value] => do
    if target == .assigned then
      checkTarget true (.group .assignment [left, value])
      return .group .assignment [left, value]
    if left.isKind .objectPattern || left.isKind .arrayPattern then
      return .group .defaultPattern [left, value]
    return .group .defaultPattern [← toPattern target left, value]
  | node => do
    match target with
    | .assigned => checkTarget true node
    | .assignedElement =>
      faultIf !(isElementTarget node && node.isSimpleTarget (← scope).strict)
    | _ => fault
    return node

def elementPatterns (target : Target) : List Node → Read (List Node)
  | [] => return []
  | .spread e :: rest => do
    faultIf (!rest.isEmpty || e.isKind .assignment)
    return .group .rest [← toPattern target e] :: (← elementPatterns target rest)
  | .group .hole parts :: rest => return .group .hole parts :: (← elementPatterns target rest)
  | .group .trailingComma _ :: rest => elementPatterns target rest
  | e :: rest => return (← toPattern target e) :: (← elementPatterns target rest)

def propertyPatterns (target : Target) : List Node → Read (List Node)
  | [] => return []
  | .spread e :: rest => do
    let nested := match e with | .ident _ => false | _ => true
    faultIf (!rest.isEmpty || e.isKind .assignment || (target.binds && nested))
    return .group .rest [← toPattern target e] :: (← propertyPatterns target rest)
  | .group .property [key, value] :: rest =>
    return .group .property [key, ← toPattern target value] :: (← propertyPatterns target rest)
  | .group .shorthandDefault parts :: rest =>
    return .group .property parts :: (← propertyPatterns target rest)
  | .group .shorthand parts :: rest =>
    return .group .shorthand parts :: (← propertyPatterns target rest)
  | .group .trailingComma _ :: rest => propertyPatterns target rest
  | _ :: _ => stop

end

end Read

end Requisite.Script
