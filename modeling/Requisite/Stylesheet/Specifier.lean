import Requisite.Stylesheet.Lexeme
import Requisite.Text.Blank

/-!
# Specifiers

How an import names a file: in quotes, in `url(…)`, or as a bare word. Options in parentheses
may come first.
-/

namespace Requisite.Stylesheet

open Text (trimStart isBlank)

/-- The text after options in parentheses. Without an end they are no options. -/
def skipOptions (text : List Char) : List Char :=
  match text with
  | '(' :: cs =>
    match cs.dropWhile (· != ')') with
    | _ :: rest => trimStart rest
    | [] => text
  | _ => text

/-- The text up to the next quote of this kind, and the text after it. -/
def quotedBy? (quote : Char) (text : List Char) : Option (List Char × List Char) :=
  match text.dropWhile (· != quote) with
  | _ :: rest => some (text.takeWhile (· != quote), rest)
  | [] => none

/-- Whether only blanks stand before the next closing parenthesis. -/
def closes (text : List Char) : Bool := (trimStart text).head? == some ')'

/-- The address in a `url(`, from after the parenthesis on. Quotes are part of the address
unless they are around all of it. -/
def address? (text : List Char) : Option (List Char) :=
  let text := trimStart text
  let plain := text.span fun c => c != ')' && !isBlank c
  let bare := if closes plain.2 then some plain.1 else none
  match text with
  | quote :: cs =>
    if isQuote quote then
      match quotedBy? quote cs with
      | some (inner, rest) => if closes rest then some inner else bare
      | none => bare
    else bare
  | [] => none

/-- Characters that a bare word cannot have. -/
def endsWord (c : Char) : Bool :=
  isBlank c || isQuote c || c == '(' || c == ')' || c == ',' || c == ';'
    || c == '\x7b' || c == '\x7d'

/-- The file that an item of an import names. An empty name is none. -/
def specifier? (allowsBare : Bool) (item : List Char) : Option (List Char) :=
  let text := skipOptions (trimStart item)
  let address := if startsUrl text then address? (text.drop 4) else none
  let found :=
    match text with
    | [] => none
    | c :: cs =>
      if isQuote c then (quotedBy? c cs).map Prod.fst
      else if address.isSome then address
      else if allowsBare then some (text.takeWhile (!endsWord ·))
      else none
  found.filter (!·.isEmpty)

/-- The files that the items name, up to the first that names none. -/
def specifiers (allowsBare : Bool) : List (List Char) → List String
  | [] => []
  | item :: items =>
    match specifier? allowsBare item with
    | some name => String.ofList name :: specifiers allowsBare items
    | none => []

end Requisite.Stylesheet
