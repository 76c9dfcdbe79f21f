import Requisite.Script.Grammar.Type

/-!
# Markup elements

Inside an element the text is not split into tokens, so its parts are read from the characters.
An element leaves the text right behind its last `>`.
-/

namespace Requisite.Script

/-- The text of an element up to a brace or a tag, and what is left. -/
def markupText? : List Char → Option (List Char)
  | [] => none
  | c :: cs =>
    if c == '\x7b' || c == '<' then some (c :: cs)
    else if c == '\x7d' || c == '>' then none
    else markupText? cs

/-- The rest after an attribute's string, in which a backslash is an ordinary character. -/
def attributeText? (quote : Char) : List Char → Option (List Char)
  | [] => none
  | c :: cs => if c == quote then some cs else attributeText? quote cs

/-- A name, in which a dash may stand. -/
def markupName? (cs : List Char) : Option (String × List Char) :=
  match cs with
  | c :: _ =>
    if Text.isIdentifierStart c then
      let p := fun d => Text.isIdentifierPart d || d == '-'
      some (String.ofList (cs.takeWhile p), cs.dropWhile p)
    else none
  | [] => none

namespace Read

/-- The rest of the text, unsplit. Reading must go on by `resume`. -/
def leaveAt (text : List Char) : Read Unit := modify ({ · with rest := text, token := .bad })

def markupName : Read String := do
  match markupName? (← get).here with
  | some (name, rest) =>
    resume rest
    return name
  | none => stop

/-- `a`, `a:b` or `a.b.c`. -/
def elementName : Read String := do
  let first ← markupName
  if ← eatSym .colon then return first ++ ":" ++ (← markupName)
  iterate (fun name => do
    if ← eatSym .dot then return .yield (name ++ "." ++ (← markupName))
    return .done name) first

/-- Closes a tag, after which the text is read unsplit. -/
def closeTag : Read Unit := do
  unless ← isGt do stop
  leaveAt ((← get).here.drop 1)

def attributeValue : Read (List Node) := do
  match (← get).here with
  | c :: cs =>
    if c == '"' || c == '\'' then
      match attributeText? c cs with
      | some rest =>
        resume rest
        return []
      | none => stop
    else if ← eatSym .lbrace then
      let e ← within ({ · with inAllowed := true, colonExpected := false }) (call .expression)
      expectSym .rbrace
      return [e]
    else if ← isSym .lt then
      let e ← call .element
      resume (← get).rest
      return [e]
    else stop
  | [] => stop

def attributes : Read (List Node) := do
  let nested ← gather do
    if (← isSym .slash) || (← isGt) then return none
    if ← eatSym .lbrace then
      expectSym .ellipsis
      let e ← within ({ · with inAllowed := true, colonExpected := false }) (call .assignment)
      expectSym .rbrace
      return some [e]
    let _ ← markupName
    if ← eatSym .colon then let _ ← markupName
    if ← eatSym .eq then return some (← attributeValue)
    return some []
  return nested.flatten

def childExpression : Read (List Node) :=
  within ({ · with inAllowed := true, colonExpected := false }) do
    if ← isSym .rbrace then return []
    let _ ← eatSym .ellipsis
    return [← call .expression]

/-- Children up to the closing tag, whose name must be the given one. -/
def children (name : String) : Read (List Node) := do
  let nested ← gather do
    match markupText? (← get).rest with
    | some ('<' :: rest) =>
      leaveAt rest
      resume ('<' :: rest)
      if ← nextIsSym .slash then
        advance
        advance
        let closing ← if ← isGt then pure "" else elementName
        stopIf (closing != name)
        closeTag
        return none
      return some [← call .element]
    | some (_ :: rest) =>
      resume rest
      let e ← childExpression
      unless ← isSym .rbrace do stop
      leaveAt (← get).rest
      return some e
    | _ => stop
  return nested.flatten

def element : Read Node := do
  expectSym .lt
  if ← isGt then
    closeTag
    return .group .element (← children "")
  let name ← elementName
  let typeArgs ←
    if (← types) && (← isSym .lt) then
      match ← attempt (some <$> typeArguments) with
      | some args => pure args
      | none => pure []
    else pure []
  let attributes ← attributes
  if ← eatSym .slash then
    closeTag
    return .group .element (attributes ++ typeArgs)
  closeTag
  let children ← children name
  return .group .element (attributes ++ typeArgs ++ children)

end Read

end Requisite.Script
