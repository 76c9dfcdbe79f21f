import Requisite.Script.Node
import Requisite.Script.Token

/-!
# Reading scripts token by token

A rule of the grammar is a `Read`: it sees the text from the current token on, and fails or
gives a value and the text that is left. Rules that contain one another meet in `Rule`, so that
each can be written on its own; `Env.rule` says what they are, and has one level less to spend.
-/

namespace Requisite.Script

/-- What the constructs around a place allow there. -/
structure Scope where
  types : Bool := false
  markup : Bool := false
  strict : Bool := false
  /-- In or after an import or export declaration. -/
  inModule : Bool := false
  /-- Not under another statement, nor in a function. -/
  topLevel : Bool := false
  async : Bool := false
  generator : Bool := false
  inFunction : Bool := false
  inPlainFunction : Bool := false
  inParameters : Bool := false
  inClass : Bool := false
  inClassField : Bool := false
  inStaticBlock : Bool := false
  superAllowed : Bool := false
  hasSuperClass : Bool := false
  inAbstractClass : Bool := false
  breakAllowed : Bool := false
  continueAllowed : Bool := false
  /-- `in` is an operator. -/
  inAllowed : Bool := true
  inDeclare : Bool := false
  /-- In the head of a `for`, before its first semicolon. -/
  inForHead : Bool := false
  inForAwaitHead : Bool := false
  inConditional : Bool := false
  /-- A colon here belongs to a conditional expression. -/
  colonExpected : Bool := false
  noConditionalType : Bool := false
  /-- Faults that do not stop the reading are let pass. -/
  lenient : Bool := false

/-- A place in the text, and what has been seen up to it. -/
structure State where
  /-- The text from the current token on. -/
  here : List Char
  token : Token
  rest : List Char
  /-- A line ended right before the current token. -/
  newline : Bool
  /-- An arrow function may start at the current token. -/
  arrowStart : Bool := false
  labels : List String := []
  /-- Something has been seen that only modules have. -/
  isModule : Bool := false
  /-- Something has been seen that modules must not have. -/
  moduleFault : Bool := false

/-- The place of the first token after a gap. -/
def State.after (state : State) (text : List Char) (lineStart lenient : Bool) : State :=
  let gap := gapFrom .blank lineStart false text
  let (token, rest) := if gap.closed then scan gap.rest else (.bad, [])
  { state with
    here := gap.rest, token, rest, newline := gap.newline, arrowStart := false,
    moduleFault := state.moduleFault || (gap.markup && !lenient) }

/-- Words that are never identifiers. -/
def reservedWords : List String :=
  ["break", "case", "catch", "class", "const", "continue", "debugger", "default", "delete", "do",
   "else", "enum", "export", "extends", "false", "finally", "for", "function", "if", "import",
   "in", "instanceof", "new", "null", "return", "super", "switch", "this", "throw", "true", "try",
   "typeof", "var", "void", "while", "with"]

/-- Words that are no identifiers in strict code. -/
def strictWords : List String :=
  ["implements", "interface", "package", "private", "protected", "public", "static"]

/-- The word cannot name a variable in this scope. -/
def Scope.reserves (s : Scope) (name : String) : Bool :=
  reservedWords.contains name
    || (name == "let" && s.strict)
    || (name == "await" && (s.async || s.inStaticBlock || s.inModule))
    || (name == "yield" && (s.generator || s.strict))
    || (s.strict && strictWords.contains name && name != "static")

/-- The rules that contain one another. -/
inductive Rule where
  | expression
  | assignment
  | binary (above : Nat)
  | unary
  | leftHandSide
  | memberOrNew (isNew : Bool)
  | objectLiteral
  | decorator
  | element
  | bindingTarget
  | type
  | unaryType
  | statement (declarations : Bool)
  | blockBody (directives : Bool)
  | moduleItem
  | namespaceBody

structure Env where
  scope : Scope
  /-- How many levels of rules may still be opened. -/
  fuel : Nat
  rule : Rule → Scope → State → Option (Node × State)

abbrev Read := ReaderT Env (StateT State Option)

namespace Read

def call (rule : Rule) : Read Node := fun env state => env.rule rule env.scope state

def within (change : Scope → Scope) (read : Read α) : Read α := fun env state =>
  read { env with scope := change env.scope } state

def scope : Read Scope := return (← read).scope

def stop : Read α := fun _ _ => none

/-- A fault that does not stop the reading where faults are let pass. -/
def fault : Read Unit := do
  if (← scope).lenient then return
  stop

def faultIf (bad : Bool) : Read Unit := if bad then fault else pure ()

def stopIf (bad : Bool) : Read Unit := if bad then stop else pure ()

/-- A fault in strict code. In other code it only bars the text from being a module. -/
def strictFault : Read Unit := do
  let s ← scope
  if s.strict then fault
  else if !s.lenient then modify ({ · with moduleFault := true })

def strictFaultIf (bad : Bool) : Read Unit := if bad then strictFault else pure ()

def types : Read Bool := return (← scope).types

/-! ## Moving on -/

/-- Goes on with the first token of the given text. -/
def resume (text : List Char) : Read Unit := do
  let lenient := (← scope).lenient
  modify (State.after · text false lenient)

def advance : Read Unit := do resume (← get).rest

def token : Read Token := return (← get).token

/-- The token after the current one, and whether a line ends before it. -/
def next : Read (Token × Bool) := do
  let state ← get
  let state := State.after state state.rest false true
  return (state.token, state.newline)

def nextToken : Read Token := return (← next).1

def newline : Read Bool := return (← get).newline

/-- A reading that may fail. If it does, nothing has happened. -/
def attempt (read : Read (Option α)) : Read (Option α) := fun env state =>
  match read { env with scope := { env.scope with lenient := true } } state with
  | some (some a, state) => some (some a, state)
  | _ => some (none, state)

/-- Whether a reading succeeds with `true` from here. Nothing is consumed. -/
def lookAhead (read : Read Bool) : Read Bool := fun env state =>
  match read { env with scope := { env.scope with lenient := true } } state with
  | some (true, _) => some (true, state)
  | _ => some (false, state)

/-- Goes round until the step says that it is done. -/
def iterate (step : α → Read (ForInStep α)) (start : α) : Read α := fun env state =>
  go env.fuel start env state
where
  go : Nat → α → Read α
    | 0, _ => stop
    | fuel + 1, a => do
      match ← step a with
      | .done b => return b
      | .yield b => go fuel b

/-- Items up to the one for which `item` has no successor, in order. -/
def gather (item : Read (Option α)) : Read (List α) := do
  let items ← iterate (fun items => do
    match ← item with
    | some a => return .yield (a :: items)
    | none => return .done items) []
  return items.reverse

/-! ## Tokens -/

def isSym (s : Sym) : Read Bool := return (← token) == .sym s

def nextIsSym (s : Sym) : Read Bool := return (← nextToken) == .sym s

def isWord (name : String) : Read Bool := return (← token) == .word name false

def nextIsWord (name : String) : Read Bool := return (← nextToken) == .word name false

def isAnyWord (names : List String) : Read Bool := do
  match ← token with
  | .word name false => return names.contains name
  | _ => return false

def isAnySym (syms : List Sym) : Read Bool := do
  match ← token with
  | .sym s => return syms.contains s
  | _ => return false

def eatSym (s : Sym) : Read Bool := do
  if ← isSym s then
    advance
    return true
  return false

def eatWord (name : String) : Read Bool := do
  if ← isWord name then
    advance
    return true
  return false

def expectSym (s : Sym) : Read Unit := do
  unless ← eatSym s do stop

def expectWord (name : String) : Read Unit := do
  unless ← eatWord name do stop

def isEnd : Read Bool := return (← token) == .eof

/-- A statement may end before the current token. -/
def isSemi : Read Bool := do
  match ← token with
  | .eof | .sym .semi | .sym .rbrace => return true
  | _ => newline

/-- Ends a statement, with a semicolon or where one is understood. -/
def eatSemi : Read Bool := do
  if ← eatSym .semi then return true
  isSemi

def expectSemi : Read Unit := do
  unless ← eatSemi do stop

/-- A `>` that closes a list, also at the start of a longer punctuator. -/
def isGt : Read Bool := isAnySym [.gt, .ge, .shr, .ushr, .shrEq, .ushrEq]

def expectGt : Read Unit := do
  unless ← isGt do stop
  resume ((← get).here.drop 1)

/-- A `<` that opens a list, also the first of two. -/
def isLt : Read Bool := isAnySym [.lt, .shl]

def expectLt : Read Unit := do
  unless ← isLt do stop
  resume ((← get).here.drop 1)

/-- Items between separators up to `close`, which is left. A separator may end the list. -/
def commaList (close : Read Bool) (item : Read Node) : Read (List Node) :=
  gather do
    if ← close then return none
    let node ← item
    unless ← close do expectSym .comma
    return some node

/-! ## Words -/

def wordName? : Read (Option String) := do
  match ← token with
  | .word name _ => return some name
  | _ => return none

def isWordToken : Token → Bool
  | .word _ _ => true
  | _ => false

/-- Any word, as a name after a dot or of a property. -/
def identifierName : Read String := do
  match ← token with
  | .word name _ =>
    advance
    return name
  | _ => stop

/-- A word that may refer to a variable. -/
def isReference (s : Scope) : Token → Bool
  | .word name _ => !s.reserves name
  | _ => false

def atReference : Read Bool := return isReference (← scope) (← token)

def nextIsReference : Read Bool := return isReference (← scope) (← nextToken)

/-- A word that may name a variable. `yield` and `await` are told apart later. -/
def isBindable (s : Scope) : Token → Bool
  | .word name _ => name == "yield" || name == "await" || !s.reserves name
  | _ => false

def identifier (yieldAllowed awaitAllowed : Bool) : Read String := do
  match ← token with
  | .word name escaped =>
    let s ← scope
    stopIf (escaped && s.reserves name)
    advance
    faultIf (name == "enum")
    strictFaultIf (name == "yield" || name == "let" || strictWords.contains name)
    if name == "await" then
      if s.inDeclare then return name
      stopIf (s.inStaticBlock || s.async || s.inModule || !awaitAllowed)
      return name
    if name == "yield" then
      stopIf !yieldAllowed
      return name
    if name == "this" && s.types then return name
    if name == "let" then return name
    stopIf (reservedWords.contains name && name != "enum")
    faultIf (name == "arguments" && s.inClassField)
    return name
  | _ => stop

def bindingIdentifier (letBarred : Bool) : Read String := do
  if letBarred then
    if ← isWord "let" then stop
  let name ← identifier true true
  strictFaultIf (name == "eval" || name == "arguments")
  let s ← scope
  faultIf ((s.async || s.inStaticBlock) && name == "await")
  faultIf (s.generator && name == "yield")
  return name

end Read

end Requisite.Script
