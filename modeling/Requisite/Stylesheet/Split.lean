import Requisite.Stylesheet.Lexeme

/-!
# Splitting at the top level

A separator counts only outside strings and parentheses.
-/

namespace Requisite.Stylesheet

/-- Where a scan stands. -/
structure Nesting where
  depth : Nat := 0
  /-- The quote of the string that is open. -/
  quote : Option Char := none
  /-- Whether a backslash in a string makes the next character plain. -/
  escaped : Bool := false
  deriving DecidableEq, Repr

namespace Nesting

def next (nesting : Nesting) (c : Char) : Nesting :=
  match nesting.quote with
  | some quote =>
    if nesting.escaped then { nesting with escaped := false }
    else if c == '\\' then { nesting with escaped := true }
    else if c == quote then { nesting with quote := none }
    else nesting
  | none =>
    if isQuote c then { nesting with quote := some c }
    else if c == '(' then { nesting with depth := nesting.depth + 1 }
    else if c == ')' then { nesting with depth := nesting.depth - 1 }
    else nesting

/-- Whether a scan that meets this character cuts the text there. -/
def cutsAt (nesting : Nesting) (separator c : Char) : Bool :=
  nesting.quote.isNone && nesting.depth == 0 && c == separator
    && !isQuote c && c != '(' && c != ')'

end Nesting

/-- The parts of a text, of which the first goes on from `part`. -/
def splitFrom (separator : Char) (nesting : Nesting) (part : List Char) :
    List Char → List (List Char)
  | [] => [part.reverse]
  | c :: cs =>
    if nesting.cutsAt separator c then part.reverse :: splitFrom separator nesting [] cs
    else splitFrom separator (nesting.next c) (c :: part) cs

def splitTop (separator : Char) (text : List Char) : List (List Char) :=
  splitFrom separator {} [] text

/-- The text inside a pair of quotes, or all of it if there is no such pair. -/
def unquote (text : List Char) : List Char :=
  match text with
  | [] => []
  | quote :: cs => if isQuote quote && cs.getLast? == some quote then cs.dropLast else text

end Requisite.Stylesheet
