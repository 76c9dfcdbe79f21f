import Requisite.Script.Grammar.Pattern

/-!
# Modifiers and parameters
-/

namespace Requisite.Script

/-- Puts a type after what a pattern binds. -/
def Node.ascribe (node : Node) (ascribed : List Node) : Node :=
  match node with
  | .group kind parts => .group kind (parts ++ ascribed)
  | node => node

def Node.isSimpleParameter : Node → Bool
  | .group .parameter parts => parts.getLast?.any (·.isKind .binding)
  | _ => false

/-- The parameter that only gives the type of `this`. -/
def Node.isThisParameter : Node → Bool
  | .group .parameter parts =>
    match parts.getLast? with
    | some (.group .binding (.ident name :: _)) => name == "this"
    | _ => false
  | _ => false

namespace Read

/-! ## Modifiers -/

/-- The token can come after a modifier, so that the word before it is one. -/
def followsModifier : Token → Bool
  | .sym s => [Sym.lbracket, .lbrace, .star, .ellipsis].contains s
  | .privateName _ | .word .. | .str .. | .number _ | .bigint => true
  | _ => false

/-- One of the words, if it is used as a modifier here. -/
def modifier? (words : List String) (beforeBlock : Bool) : Read (Option String) := do
  unless ← types do return none
  match ← token with
  | .word name false =>
    unless words.contains name do return none
    let (follower, newline) ← next
    if beforeBlock && name == "static" && follower == .sym .lbrace then return none
    unless followsModifier follower && !newline do return none
    advance
    return some name
  | _ => return none

/-- Passes over a modifier that only a constructor's parameter may have. -/
def eatParameterModifier : Read Bool := do
  unless ← types do return false
  unless ← isAnyWord ["public", "protected", "private", "readonly"] do return false
  let follower ← nextToken
  unless isWordToken follower || follower == .sym .lbrace || follower == .sym .lbracket do
    return false
  let _ ← modifier? ["public", "protected", "private", "readonly"] false
  return true

/-! ## Types after a colon -/

def optionalAscription : Read (List Node) := do
  if ← types then
    if ← eatSym .colon then return [.group .ascribedType [← call .type]]
  return []

/-! ## Decorators -/

def decorators : Read (List Node) := do
  let found ← gather do
    if ← isSym .at then return some (← call .decorator)
    return none
  return found

/-! ## Parameters -/

def parameterPattern : Read Node := do
  let modified ← eatParameterModifier
  let mut pattern ← bindingElement
  let mut optional := false
  if ← types then
    if ← eatSym .question then
      optional := [Kind.binding, .arrayPattern, .objectPattern].any pattern.isKind
      stopIf (!optional && !(← scope).inDeclare)
    let ascribed ← optionalAscription
    faultIf (pattern.isKind .defaultPattern && !ascribed.isEmpty)
    pattern := pattern.ascribe ascribed
  if ← eatSym .eq then
    faultIf optional
    let value ← call .assignment
    faultIf (← scope).inDeclare
    pattern := .group .defaultPattern [pattern, value]
  faultIf modified
  return pattern

def restParameter : Read Node := do
  expectSym .ellipsis
  let target ← call .bindingTarget
  if ← eatSym .eq then
    let _ ← call .assignment
    fault
  let ascribed ← optionalAscription
  if ← types then faultIf (← eatSym .question)
  -- Nothing may follow, not even a comma.
  faultIf !(← isSym .rparen)
  return .group .rest (target :: ascribed)

/-- Parameters up to the closing parenthesis, which is left. -/
def formalParameters : Read (List Node) :=
  commaList (isSym .rparen) do
    let decorators ← decorators
    let pattern ← if ← isSym .ellipsis then restParameter else parameterPattern
    return .group .parameter (decorators ++ [pattern])

/-- A parameter of a constructor may declare a property of the class. -/
def constructorParameters : Read (List Node) :=
  commaList (isSym .rparen) do
    let decorators ← decorators
    if ← isSym .ellipsis then return .group .parameter (decorators ++ [← restParameter])
    let access ← modifier? ["public", "protected", "private"] false
    let override ← modifier? ["override"] false
    let readonly ← modifier? ["readonly"] false
    let pattern ← parameterPattern
    if access.isSome || override.isSome || readonly.isSome then
      stopIf !(pattern.isKind .binding || pattern.isKind .defaultPattern)
      -- It is no plain name, whatever it binds.
      return .group .parameter (decorators ++ [.group .declaration [pattern]])
    return .group .parameter (decorators ++ [pattern])

end Read

end Requisite.Script
