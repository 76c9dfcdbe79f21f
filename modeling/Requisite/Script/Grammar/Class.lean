import Requisite.Script.Grammar.Function

/-!
# Classes
-/

namespace Requisite.Script

def takenTypeNames : List String :=
  ["any", "bigint", "boolean", "intrinsic", "never", "null", "number", "object", "string",
   "symbol", "unknown", "void"]

def Node.namesConstructor : Node → Bool
  | .propName name => name == "constructor"
  | .str value => value == some "constructor"
  | _ => false

namespace Read

/-- What stands before a member's name. -/
structure Modifiers where
  decorators : List Node := []
  access : Bool := false
  declared : Bool := false
  isStatic : Bool := false
  isAccessor : Bool := false
  isAbstract : Bool := false
  isOverride : Bool := false
  isReadonly : Bool := false

/-! ## Members -/

def startsMethod : Read Bool := do
  if ← isSym .lparen then return true
  if ← isSym .lt then return ← types
  return false

def endsPropertyName (implied : Bool) : Read Bool := do
  if ← isAnySym [.bang, .colon] then return ← types
  if ← isAnySym [.eq, .rbrace] then return true
  if implied then isSemi else isSym .semi

def classPropertyName : Read Node := do
  match ← token with
  | .privateName name =>
    advance
    faultIf (name == "constructor")
    return .group .privateName []
  | _ => propertyName

/-- An abstract member is declared in an abstract class and without a value or body. -/
def checkAbstract (m : Modifiers) (key : Node) (hasValue : Bool) : Read Unit := do
  faultIf (m.isAbstract && !key.isKind .privateName && (hasValue || !(← scope).inAbstractClass))

def methodMember (m : Modifiers) (key : Node) (isAsync isGenerator : Bool)
    (params : Read (List Node)) : Read Node := do
  faultIf (m.access && key.isKind .privateName)
  let f ← within ({ · with superAllowed := true, inClassField := false })
    (functionParts isAsync isGenerator params)
  checkAbstract m key f.body.isSome
  return .group .method [key, f.node m.decorators]

def propertyMember (m : Modifiers) (key : Node) (optional : Bool) : Read Node := do
  stopIf key.namesConstructor
  faultIf (key.isKind .privateName && (m.declared || m.access))
  if (← types) && !optional then let _ ← eatSym .bang
  let ascribed ← optionalAscription
  within ({ · with
      inAllowed := true, inClassField := true, superAllowed := true, colonExpected := false }) do
    let value ← if ← eatSym .eq then pure [← call .assignment] else pure []
    unless ← eatSemi do fault
    unless m.isAccessor do checkAbstract m key !value.isEmpty
    return .group .classMember (key :: value ++ ascribed ++ m.decorators)

def constructorMember (m : Modifiers) (key : Node) : Read Node := do
  faultIf (m.isOverride || m.isStatic || m.isAbstract)
  let typeParams ← optionalTypeParameters false true
  faultIf !typeParams.isEmpty
  expectSym .lparen
  let params ← within
    ({ · with
      inParameters := true, inFunction := false, async := false, generator := false,
      superAllowed := true, inClassField := false })
    constructorParameters
  expectSym .rparen
  faultIf !(← optionalAscription).isEmpty
  let body ← within ({ · with superAllowed := true, inClassField := false })
    (functionBody false false (params.all Node.isSimpleParameter))
  faultIf (body.isNone && params.any fun p =>
    hasDefault p ||
      match p with
      | .group .parameter parts => parts.getLast?.any (·.isKind .declaration)
      | _ => false)
  return .group .constructor (key :: params ++ body.toList)

/-- A member whose name is a word that could also have been a modifier. -/
def memberNamed? (m : Modifiers) (name : String) : Read (Option Node) := do
  let key := Node.propName name
  if ← startsMethod then
    return some (← methodMember m key false false formalParameters)
  if (← endsPropertyName false) || ((← types) && (← isSym .question)) then
    let optional ← if ← types then eatSym .question else pure false
    if ← startsMethod then
      return some (← methodMember m key false false formalParameters)
    return some (← propertyMember m key optional)
  return none

/-- Modifiers that only types have, in any order that makes sense. -/
def laterModifiers (m : Modifiers) : Read Modifiers :=
  iterate (fun m => do
    match ← modifier? ["abstract", "readonly", "override", "static"] true with
    | some "abstract" =>
      faultIf (m.isAbstract || m.isOverride)
      return .yield { m with isAbstract := true }
    | some "override" =>
      faultIf (m.isOverride || m.isReadonly || m.declared || !(← scope).hasSuperClass)
      return .yield { m with isOverride := true }
    | some "readonly" =>
      faultIf m.isReadonly
      return .yield { m with isReadonly := true }
    | some _ =>
      faultIf m.isOverride
      return .yield { m with isStatic := true }
    | none => return .done m) m

def staticBlock (m : Modifiers) : Read Node := do
  faultIf (m.declared || m.access)
  within ({ · with
      inStaticBlock := true, inClassField := true, superAllowed := true,
      breakAllowed := false, continueAllowed := false }) <|
    withoutLabels (call (.blockBody false))

def memberAfterKey (m : Modifiers) (key : Node) : Read Node := do
  let hasTypes ← types
  let optional ← if hasTypes then eatSym .question else pure false
  if ← startsMethod then
    faultIf m.declared
    stopIf m.isReadonly
    if key.namesConstructor && (hasTypes || !m.isStatic) then return ← constructorMember m key
    return ← methodMember m key false false formalParameters
  let generatorNext := (← newline) && (← isSym .star)
  let accessor? : Option String ← match key with
    | .propName name =>
      if (name == "get" || name == "set") && !(← endsPropertyName false) && !generatorNext then
        pure (some name)
      else pure none
    | _ => pure none
  if accessor?.isNone then
    if ← endsPropertyName true then return ← propertyMember m key optional
  match key with
  | .propName "async" =>
    if ← newline then stop
    faultIf (← modifier? ["override"] false).isSome
    let isGenerator ← eatSym .star
    let key ← classPropertyName
    stopIf (m.isReadonly || (key.namesConstructor && !m.isStatic))
    if hasTypes then let _ ← eatSym .question
    methodMember m key true isGenerator formalParameters
  | _ =>
    match accessor? with
    | some name =>
      let key ← classPropertyName
      faultIf (m.isReadonly || (key.namesConstructor && !m.isStatic))
      methodMember m key false false (if name == "get" then getterParameters else setterParameters)
    | none => stop

def classMember : Read Node := do
  let decorators ← decorators
  let hasTypes ← types
  let mut m : Modifiers := { decorators }
  if hasTypes then
    m := { m with declared := ← eatWord "declare" }
    if !m.declared then
      m := { m with access := (← modifier? ["public", "protected", "private"] false).isSome }
      if ← isWord "declare" then
        advance
        m := { m with declared := true }
    if m.declared then
      if let some node ← memberNamed? { m with declared := false } "declare" then return node
      unless m.access do
        m := { m with access := (← modifier? ["public", "protected", "private"] false).isSome }
  if ← eatWord "static" then
    if let some node ← memberNamed? m "static" then return node
    m := { m with isStatic := true }
  m := { m with isAccessor := (← modifier? ["accessor"] false).isSome }
  m ← laterModifiers m
  unless m.isAccessor do
    m := { m with isAccessor := (← modifier? ["accessor"] false).isSome }
  if m.isStatic then
    if ← isSym .lbrace then return ← staticBlock m
  if hasTypes && !m.isAbstract && !m.isOverride && !m.access then
    if let some node ← indexSignature? then return node
  if ← eatSym .star then
    let key ← classPropertyName
    faultIf (m.isReadonly || (key.namesConstructor && !m.isStatic))
    return ← methodMember m key false true formalParameters
  memberAfterKey m (← classPropertyName)

def classBody : Read (List Node) := do
  let members ← gather do
    if ← eatSym .rbrace then return none
    if ← eatSym .semi then return some (.group .emptyStatement [])
    return some (← classMember)
  -- Signatures of the constructor do not count.
  let constructors := members.filter fun n =>
    match n with
    | .group .constructor parts => parts.any (·.isKind .block)
    | _ => false
  faultIf (2 ≤ constructors.length)
  return members

/-! ## Heads -/

/-- What a class extends, and its type arguments. -/
def superClass : Read (Node × List Node) := do
  let e ← call .leftHandSide
  match e with
  | .group .instantiation (e :: args) => return (e, args)
  | e =>
    if (← types) && (← isLt) then return (e, ← typeArguments)
    return (e, [])

def heritage : Read (List Node) :=
  commaList (do return (← isSym .lbrace) || (← isAnyWord ["implements", "extends"])) do
    let (e, args) ← superClass
    return .group .type (e :: args)

def classFromKeyword (kind : Kind) (nameRequired isAbstract : Bool) (decorators : List Node) :
    Read Node :=
  within ({ · with inClass := true, strict := true }) do
    expectWord "class"
    let hasTypes ← types
    if nameRequired || !((← isWord "extends") || (hasTypes && (← isWord "implements"))) then
      let name ← optionalBinding nameRequired true
      faultIf (hasTypes && name.any takenTypeNames.contains)
    let typeParams ← optionalTypeParameters true true
    let mut base : List Node := []
    let mut baseArgs : List Node := []
    if ← eatWord "extends" then
      let (e, args) ← superClass
      base := [e]
      baseArgs := args
    faultIf (← isWord "extends")
    let mut implemented : List Node := []
    if hasTypes then
      if ← eatWord "implements" then implemented ← heritage
    expectSym .lbrace
    let members ← within
      ({ · with
        hasSuperClass := !base.isEmpty, inAbstractClass := isAbstract, colonExpected := false,
        inForHead := false, inAllowed := true })
      classBody
    return .group kind (decorators ++ members ++ base ++ typeParams ++ baseArgs ++ implemented)

end Read

end Requisite.Script
