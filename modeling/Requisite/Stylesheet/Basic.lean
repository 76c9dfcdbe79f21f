import Requisite.Stylesheet.Lexeme
import Requisite.Stylesheet.Split
import Requisite.Text.Blank

/-!
# Style sheets

What is kept of a style sheet: its at-rules, and the urls outside their preludes.
-/

namespace Requisite

namespace Stylesheet

structure AtRule where
  name : String
  prelude : String
  /-- The line of its `@`, counted from one. -/
  line : Nat
  deriving DecidableEq, Repr

/-- What a prelude says, without its comments and the blanks around it. -/
def preludeText (parts : List Part) : String :=
  String.ofList (Text.trim ((parts.filter (!·.isComment)).flatMap Part.text))

/-- The at-rules among lexemes of which the first is on this line. -/
def rulesFrom (line : Nat) : List Lexeme → List AtRule
  | [] => []
  | lexeme :: rest =>
    let below := rulesFrom (line + lexeme.source.count '\n') rest
    match lexeme with
    | .rule name parts _ => ⟨String.ofList name, preludeText parts, line⟩ :: below
    | _ => below

/-- The address that a lexeme holds, if it has one. -/
def Lexeme.url? : Lexeme → Option String
  | .url _ body _ =>
    let address := unquote (Text.trim body)
    if address.isEmpty then none else some (String.ofList address)
  | _ => none

end Stylesheet

structure Stylesheet where
  dialect : Stylesheet.Dialect
  rules : List Stylesheet.AtRule
  urls : List String
  deriving DecidableEq, Repr

namespace Stylesheet

def ofText (dialect : Dialect) (text : String) : Stylesheet :=
  let found := lexemes dialect false text.toList
  ⟨dialect, rulesFrom 1 found, found.filterMap Lexeme.url?⟩

def rulesNamed (sheet : Stylesheet) (names : List String) : List AtRule :=
  sheet.rules.filter (names.contains ·.name)

end Stylesheet

end Requisite
