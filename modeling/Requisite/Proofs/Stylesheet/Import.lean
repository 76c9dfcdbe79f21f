import Requisite.Proofs.Stylesheet.Lexeme
import Requisite.Stylesheet.Import

/-!
# Imports by lexemes

What a style sheet imports is what its lexemes import, one after the other. A text in quotes
passes whole through the splitting of a prelude and through the reading of a specifier.
-/

namespace Requisite.Stylesheet

open Text (isBlank trimStart)

/-! ## Lexemes -/

def Lexeme.imported (dialect : Dialect) : Lexeme → List String
  | .rule name parts _ =>
    if dialect.importRules.contains (String.ofList name) then
      specifiers dialect.allowsBare (splitTop ',' (preludeText parts).toList)
    else []
  | _ => []

theorem flatMap_imported_rulesFrom (dialect : Dialect) (line : Nat) (found : List Lexeme) :
    ((rulesFrom line found).filter (dialect.importRules.contains ·.name)).flatMap
        (AtRule.imported dialect) = found.flatMap (Lexeme.imported dialect) := by
  induction found generalizing line with
  | nil => rfl
  | cons lexeme found ih =>
    rw [List.flatMap_cons, ← ih (line + lexeme.source.count '\n')]
    cases lexeme with
    | rule name parts closed =>
      simp only [rulesFrom, List.filter_cons, Lexeme.imported]
      split <;> rfl
    | _ => rfl

theorem imported_ofText (dialect : Dialect) (text : String) :
    (ofText dialect text).imported =
      (lexemes dialect false text.toList).flatMap (Lexeme.imported dialect) :=
  flatMap_imported_rulesFrom dialect 1 _

/-! ## Splitting -/

theorem splitFrom_inside {nesting : Nesting} {quote : Char} (hquote : nesting.quote = some quote)
    (hplain : nesting.escaped = false) {text : List Char} (htext : Escaped quote text)
    (separator : Char) (part rest : List Char) :
    splitFrom separator nesting part (text ++ rest) =
      splitFrom separator nesting (text.reverse ++ part) rest := by
  have hcut {inside : Nesting} (h : inside.quote = some quote) (c : Char) :
      inside.cutsAt separator c = false := by
    simp [Nesting.cutsAt, h]
  induction htext generalizing part with
  | nil => rfl
  | @plain c text hc _ ih =>
    have hnext : nesting.next c = nesting := by simp [Nesting.next, hquote, hplain, hc]
    rw [List.cons_append, splitFrom, hcut hquote, if_neg (by decide), hnext, ih]
    simp
  | @escape c text _ ih =>
    -- the backslash makes the next character plain, whatever it is
    have hslash : nesting.next '\\' = { nesting with escaped := true } := by
      simp [Nesting.next, hquote, hplain]
    have hinside : Nesting.quote { nesting with escaped := true } = some quote := hquote
    have hnext : Nesting.next { nesting with escaped := true } c = nesting := by
      cases nesting
      simp_all [Nesting.next]
    rw [List.cons_append, List.cons_append, splitFrom, hcut hquote, if_neg (by decide), hslash,
      splitFrom, hcut hinside, if_neg (by decide), hnext, ih]
    simp

theorem splitFrom_string {quote : Char} (hquote : isQuote quote = true) {text : List Char}
    (htext : Escaped quote text) (separator : Char) (part rest : List Char) :
    splitFrom separator {} part (quote :: text ++ quote :: rest) =
      splitFrom separator {} ((quote :: text ++ [quote]).reverse ++ part) rest := by
  have hcut (nesting : Nesting) : nesting.cutsAt separator quote = false := by
    simp [Nesting.cutsAt, hquote]
  have hslash : quote ≠ '\\' := ne_of_isQuote hquote (by decide)
  have hopen : Nesting.next {} quote = { quote := some quote } := by simp [Nesting.next, hquote]
  have hclose : Nesting.next { quote := some quote } quote = {} := by
    simp [Nesting.next, hslash]
  have hinside (part : List Char) := splitFrom_inside
    (show Nesting.quote { quote := some quote } = some quote from rfl) rfl htext separator part
    (quote :: rest)
  rw [List.cons_append, splitFrom, hcut, if_neg (by decide), hopen, hinside, splitFrom, hcut,
    if_neg (by decide), hclose]
  simp

/-! ## Specifiers -/

theorem isBlank_of_isQuote {c : Char} (h : isQuote c = true) : isBlank c = false := by
  simp only [isQuote, Bool.or_eq_true, beq_iff_eq] at h
  rcases h with rfl | rfl <;> decide

theorem quotedBy?_append_quote {quote : Char} {text : List Char} (h : quote ∉ text)
    (rest : List Char) : quotedBy? quote (text ++ quote :: rest) = some (text, rest) := by
  have htext : ∀ c ∈ text, (c != quote) = true := by
    intro c hc
    rw [bne_iff_ne]
    rintro rfl
    exact h hc
  simp [quotedBy?, List.takeWhile_append_of_pos htext, List.dropWhile_append_of_pos htext]

theorem specifier?_string {quote : Char} (hquote : isQuote quote = true) {blanks text : List Char}
    (hblanks : ∀ c ∈ blanks, isBlank c = true) (hne : text ≠ []) (h : quote ∉ text)
    (allowsBare : Bool) (rest : List Char) :
    specifier? allowsBare (blanks ++ quote :: (text ++ quote :: rest)) = some text := by
  have hparen : quote ≠ '(' := ne_of_isQuote hquote (by decide)
  have htrim : trimStart (blanks ++ quote :: (text ++ quote :: rest)) =
      quote :: (text ++ quote :: rest) := by
    rw [trimStart, List.dropWhile_append_of_pos hblanks]
    simp [isBlank_of_isQuote hquote]
  have hskip : skipOptions (quote :: (text ++ quote :: rest)) =
      quote :: (text ++ quote :: rest) := by
    unfold skipOptions
    split
    · next hopen => exact absurd (List.cons.inj hopen).1 hparen
    · rfl
  simp only [specifier?, htrim, hskip, hquote, if_true, quotedBy?_append_quote h]
  simpa using hne

end Requisite.Stylesheet
