import Requisite.Stylesheet.Dialect
import Requisite.Text.Alphanumeric

/-!
# Lexemes of style sheets

A style sheet is cut into comments, strings, at-rules, `url(…)` and single characters. Only
at-rules and urls carry meaning; the others are there so that nothing inside a comment or a
string is taken for one. The lexemes of a text, put together, are the text.
-/

namespace Requisite.Stylesheet

def isNameChar (c : Char) : Bool := Text.isAlphanumeric c || c == '-' || c == '_'

def isQuote (c : Char) : Bool := c == '"' || c == '\''

/-! ## Comments and strings

Each is cut off the front of a text: what belongs to it, and the rest. -/

/-- A block comment after its opening. Without an end it takes all. -/
def blockComment : List Char → List Char × List Char
  | [] => ([], [])
  | '*' :: '/' :: cs => (['*', '/'], cs)
  | c :: cs =>
    let tail := blockComment cs
    (c :: tail.1, tail.2)

theorem blockComment_append (cs : List Char) :
    (blockComment cs).1 ++ (blockComment cs).2 = cs := by
  fun_induction blockComment cs with
  | case1 | case2 => rfl
  | case3 c cs _ tail ih => simpa [tail] using ih

/-- A line comment leaves the end of its line. -/
def comment? (dialect : Dialect) : List Char → Option (List Char × List Char)
  | '/' :: '*' :: cs =>
    let tail := blockComment cs
    some ('/' :: '*' :: tail.1, tail.2)
  | '/' :: '/' :: cs =>
    if dialect.hasLineComments then
      some ('/' :: '/' :: cs.takeWhile (· != '\n'), cs.dropWhile (· != '\n'))
    else none
  | _ => none

theorem comment?_append {dialect : Dialect} {cs comment rest : List Char}
    (h : comment? dialect cs = some (comment, rest)) : comment ++ rest = cs := by
  unfold comment? at h
  split at h
  · cases h
    simp [blockComment_append]
  · split at h
    · cases h
      simp [List.takeWhile_append_dropWhile]
    · cases h
  · cases h

theorem comment?_ne_nil {dialect : Dialect} {cs comment rest : List Char}
    (h : comment? dialect cs = some (comment, rest)) : comment ≠ [] := by
  unfold comment? at h
  split at h
  · cases h
    simp
  · split at h
    · cases h
      simp
    · cases h
  · cases h

/-- A string after its opening quote. The same quote or the end of the line closes it, unless
a backslash stands before. -/
def stringBody (quote : Char) : List Char → List Char × List Char
  | [] => ([], [])
  | ['\\'] => (['\\'], [])
  | '\\' :: c :: cs =>
    let tail := stringBody quote cs
    ('\\' :: c :: tail.1, tail.2)
  | c :: cs =>
    if c == quote || c == '\n' then ([c], cs)
    else
      let tail := stringBody quote cs
      (c :: tail.1, tail.2)

theorem stringBody_append (quote : Char) (cs : List Char) :
    (stringBody quote cs).1 ++ (stringBody quote cs).2 = cs := by
  fun_induction stringBody quote cs with
  | case1 | case2 | case4 => rfl
  | case3 c cs tail ih => simpa [tail] using ih
  | case5 c cs _ _ _ tail ih => simpa [tail] using ih

theorem length_stringBody_le (quote : Char) (cs : List Char) :
    (stringBody quote cs).2.length ≤ cs.length := by
  have h := congrArg List.length (stringBody_append quote cs)
  simp only [List.length_append] at h
  omega

theorem length_lt_of_comment? {dialect : Dialect} {cs comment rest : List Char}
    (h : comment? dialect cs = some (comment, rest)) : rest.length < cs.length := by
  have hsize := congrArg List.length (comment?_append h)
  have hpos := List.length_pos_iff.mpr (comment?_ne_nil h)
  simp only [List.length_append] at hsize
  omega

/-! ## Preludes -/

/-- A piece of a prelude. Comments are not part of what it says. -/
structure Part where
  text : List Char
  isComment : Bool := false
  deriving DecidableEq, Repr

/-- Whether a character outside parentheses ends a prelude. -/
def endsPrelude (dialect : Dialect) (c : Char) : Bool :=
  c == ';' || c == '\x7b' || c == '\x7d' || (c == '\n' && dialect.isIndented)

/-- The prelude of an at-rule, and the text from its end on. Inside parentheses nothing ends
it, and comments are text. -/
def prelude (dialect : Dialect) (depth : Nat) : List Char → List Part × List Char
  | [] => ([], [])
  | c :: cs =>
    match h : if depth = 0 then comment? dialect (c :: cs) else none with
    | some (comment, rest) =>
      let tail := prelude dialect depth rest
      (⟨comment, true⟩ :: tail.1, tail.2)
    | none =>
      if isQuote c then
        let string := stringBody c cs
        let tail := prelude dialect depth string.2
        (⟨c :: string.1, false⟩ :: tail.1, tail.2)
      else if depth = 0 && endsPrelude dialect c then ([], c :: cs)
      else
        let inner := if c == '(' then depth + 1 else if c == ')' then depth - 1 else depth
        let tail := prelude dialect inner cs
        (⟨[c], false⟩ :: tail.1, tail.2)
termination_by cs => cs.length
decreasing_by
  · split at h
    · exact length_lt_of_comment? h
    · cases h
  · exact Nat.lt_succ_of_le (length_stringBody_le c cs)
  · exact Nat.lt_succ_self _

/-- What stands in a `url(…)`, and the text from its closing parenthesis on. -/
def urlBody : List Char → List Char × List Char
  | [] => ([], [])
  | c :: cs =>
    if isQuote c then
      let string := stringBody c cs
      let tail := urlBody string.2
      (c :: string.1 ++ tail.1, tail.2)
    else if c == ')' then ([], c :: cs)
    else
      let tail := urlBody cs
      (c :: tail.1, tail.2)
termination_by cs => cs.length
decreasing_by
  · exact Nat.lt_succ_of_le (length_stringBody_le c cs)
  · exact Nat.lt_succ_self _

/-! ## Lexemes -/

inductive Lexeme where
  | comment (text : List Char)
  | string (text : List Char)
  /-- `closed` if a semicolon follows the prelude. -/
  | rule (name : List Char) (parts : List Part) (closed : Bool)
  /-- `opening` is the word with its parenthesis, `closed` if there is the other one. -/
  | url (opening body : List Char) (closed : Bool)
  | char (c : Char)
  deriving DecidableEq, Repr

/-- The text that a lexeme was cut from. -/
def Lexeme.source : Lexeme → List Char
  | .comment text | .string text => text
  | .rule name parts closed =>
    '@' :: name ++ parts.flatMap Part.text ++ if closed then [';'] else []
  | .url opening body closed => opening ++ body ++ if closed then [')'] else []
  | .char c => [c]

/-- Whether a text starts with a certain character, and what comes after it. -/
def eat (c : Char) : List Char → Bool × List Char
  | [] => (false, [])
  | d :: cs => if d == c then (true, cs) else (false, d :: cs)

def startsUrl (cs : List Char) : Bool := (cs.take 4).map Char.toLower == ['u', 'r', 'l', '(']

/-- The lexeme at the front of a text. `afterName` tells that a name character stands before
it, which makes the word `url` the end of another word. -/
def lexeme (dialect : Dialect) (afterName : Bool) (c : Char) (cs : List Char) :
    Lexeme × List Char :=
  match comment? dialect (c :: cs) with
  | some (text, rest) => (.comment text, rest)
  | none =>
    if isQuote c then
      let body := stringBody c cs
      (.string (c :: body.1), body.2)
    else if c == '@' && cs.head?.any isNameChar then
      let body := prelude dialect 0 (cs.dropWhile isNameChar)
      let closing := eat ';' body.2
      (.rule (cs.takeWhile isNameChar) body.1 closing.1, closing.2)
    else if !afterName && startsUrl (c :: cs) then
      let body := urlBody (cs.drop 3)
      let closing := eat ')' body.2
      (.url (c :: cs.take 3) body.1 closing.1, closing.2)
    else (.char c, cs)

/-! ## Nothing is lost -/

theorem prelude_append (dialect : Dialect) (depth : Nat) (cs : List Char) :
    (prelude dialect depth cs).1.flatMap Part.text ++ (prelude dialect depth cs).2 = cs := by
  fun_induction prelude dialect depth cs with
  | case1 => rfl
  | case2 depth c cs comment rest h tail ih =>
    split at h
    · simpa [tail, ih] using comment?_append h
    · cases h
  | case3 depth c cs h hq string tail ih =>
    simp [tail, ih, string, stringBody_append]
  | case4 => rfl
  | case5 depth c cs h hq he inner tail ih => simpa [tail] using ih

theorem urlBody_append (cs : List Char) : (urlBody cs).1 ++ (urlBody cs).2 = cs := by
  fun_induction urlBody cs with
  | case1 => rfl
  | case2 c cs hq string tail ih => simp [tail, ih, string, stringBody_append]
  | case3 => rfl
  | case4 c cs hq hc tail ih => simpa [tail] using ih

theorem eat_append (c : Char) (cs : List Char) :
    (if (eat c cs).1 then [c] else []) ++ (eat c cs).2 = cs := by
  cases cs with
  | nil => rfl
  | cons d cs =>
    by_cases h : d = c <;> simp [eat, h]

theorem lexeme_append (dialect : Dialect) (afterName : Bool) (c : Char) (cs : List Char) :
    (lexeme dialect afterName c cs).1.source ++ (lexeme dialect afterName c cs).2 = c :: cs := by
  unfold lexeme
  split
  · next h => exact comment?_append h
  · split
    · simp [Lexeme.source, stringBody_append]
    · split
      · next h =>
        simp only [Bool.and_eq_true, beq_iff_eq] at h
        simp only [Lexeme.source, List.cons_append, List.append_assoc, eat_append,
          prelude_append, List.takeWhile_append_dropWhile, h.1]
      · split
        · simp only [Lexeme.source, List.append_assoc, eat_append, urlBody_append,
            List.cons_append, List.take_append_drop]
        · rfl

theorem source_lexeme_ne_nil (dialect : Dialect) (afterName : Bool) (c : Char) (cs : List Char) :
    (lexeme dialect afterName c cs).1.source ≠ [] := by
  unfold lexeme
  split
  · next h => exact comment?_ne_nil h
  · repeat' split
    all_goals simp [Lexeme.source]

theorem length_lexeme_lt (dialect : Dialect) (afterName : Bool) (c : Char) (cs : List Char) :
    (lexeme dialect afterName c cs).2.length < (c :: cs).length := by
  have hsize := congrArg List.length (lexeme_append dialect afterName c cs)
  have hpos := List.length_pos_iff.mpr (source_lexeme_ne_nil dialect afterName c cs)
  simp only [List.length_append] at hsize
  omega

def lexemes (dialect : Dialect) (afterName : Bool) : List Char → List Lexeme
  | [] => []
  | c :: cs =>
    let cut := lexeme dialect afterName c cs
    cut.1 :: lexemes dialect (cut.1.source.getLast?.any isNameChar) cut.2
termination_by cs => cs.length
decreasing_by exact length_lexeme_lt dialect afterName c cs

end Requisite.Stylesheet
