import Requisite.Script.Grammar.ModuleItem

/-!
# Parsing programs

Rules call one another through `Rule`, one level deeper each time. A level takes at least one
character, or leads to one that does within a few levels, so the length of the text bounds
their number.
-/

namespace Requisite.Script

inductive Language where
  /-- Plain scripts, with markup. -/
  | script
  | typed
  | typedMarkup
  deriving DecidableEq, Repr

def Rule.read : Rule → Read Node
  | .expression => Read.expression
  | .assignment => Read.assignment
  | .binary above => Read.binary above
  | .unary => Read.unary
  | .leftHandSide => Read.leftHandSide
  | .memberOrNew isNew => Read.memberOrNew isNew
  | .objectLiteral => Read.objectLiteral
  | .decorator => Read.decorator
  | .element => Read.element
  | .bindingTarget => Read.bindingTarget false
  | .type => Read.type
  | .unaryType => Read.unaryType
  | .statement declarations => Read.statement declarations
  | .blockBody directives => Read.blockBody directives
  | .moduleItem => Read.moduleItem
  | .namespaceBody => Read.namespaceBody

def Rule.run : Nat → Rule → Scope → State → Option (Node × State)
  | 0, _, _, _ => none
  | fuel + 1, rule, scope, state => rule.read ⟨scope, fuel, Rule.run fuel⟩ state

def Language.scope : Language → Scope
  | .script => { markup := true, topLevel := true }
  | .typed => { types := true, topLevel := true }
  | .typedMarkup => { types := true, markup := true, topLevel := true }

/-- The text after a mark of the byte order. -/
def skipMark : List Char → List Char
  | '\ufeff' :: cs => cs
  | cs => cs

/-- The text after a first line that names an interpreter. -/
def skipInterpreter : List Char → List Char
  | '#' :: '!' :: cs => cs.dropWhile (!isLineEnd ·)
  | cs => cs

/-- The levels that a text of this length can need. -/
def levels (length : Nat) : Nat := 8 * length + 64

def parseChars? (language : Language) (text : List Char) : Option Program := do
  let start := State.after ⟨[], .eof, [], true, false, [], false, false⟩
    (skipInterpreter (skipMark text)) true false
  let env : Env := ⟨language.scope, levels text.length, Rule.run (levels text.length)⟩
  let (items, state) ← Read.itemsUntil Read.isEnd true (Read.call .moduleItem) env start
  let isModule := state.isModule || items.any Node.isModuleDecl
  if isModule && state.moduleFault then none
  else some ⟨if isModule then .module else .script, items⟩

/-- The program that a text spells in one language. -/
def parse? (language : Language) (text : String) : Option Program :=
  parseChars? language text.toList

/-- The program that a text spells: a plain script, or else one with types. -/
def parseSource? (text : String) : Option Program :=
  parse? .script text <|> parse? .typedMarkup text

end Requisite.Script
