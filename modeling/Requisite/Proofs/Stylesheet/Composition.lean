import Requisite.Proofs.Stylesheet.Seam
import Requisite.Stylesheet.Basic

/-!
# Style sheets put together

A text that is cut between two lexemes makes the style sheets of its two halves, one after the
other. Only a `url(` right behind a name is taken for something else once the name is cut off.
-/

namespace Requisite.Stylesheet

variable {dialect : Dialect}

/-- The scan of two texts, one after the other, stands between two lexemes where the second text
starts. -/
def StandsBetween (dialect : Dialect) (before after : List Char) : Prop :=
  ∃ passed left, lexemes dialect false (before ++ after) = passed ++ left ∧
    passed.flatMap Lexeme.source = before

/-! ## Lexemes -/

theorem lexemes_of_not_startsUrl {cs : List Char} (h : startsUrl cs = false)
    (afterName other : Bool) : lexemes dialect afterName cs = lexemes dialect other cs := by
  cases cs with
  | nil => simp [lexemes]
  | cons c cs =>
    have hlexeme : lexeme dialect afterName c cs = lexeme dialect other c cs := by
      simp [lexeme, h]
    rw [lexemes_cons, lexemes_cons, hlexeme]

theorem lexemes_of_endsName {before after : List Char}
    (h : before.getLast?.any isNameChar = false ∨ startsUrl after = false) :
    lexemes dialect (endsName false before) after = lexemes dialect false after := by
  rcases h with hname | hurl
  · have hends : endsName false before = false := by
      unfold endsName
      cases hlast : before.getLast? <;> simp_all
    rw [hends]
  · exact lexemes_of_not_startsUrl hurl _ _

theorem lexemes_append {before after : List Char} (hstands : StandsBetween dialect before after)
    (hurl : before.getLast?.any isNameChar = false ∨ startsUrl after = false) :
    lexemes dialect false (before ++ after) =
      lexemes dialect false before ++ lexemes dialect false after := by
  obtain ⟨passed, left, hlexemes, rfl⟩ := hstands
  obtain ⟨rest, hrest, hleft⟩ := lexemes_resume hlexemes
  cases List.append_cancel_left hrest
  by_cases hafter : after = []
  · subst hafter
    simp [lexemes]
  · have hbefore := lexemes_seam hafter [] hlexemes (goesOnLike_nil ['/'])
      fun _ _ _ _ => goesOnLike_nil after
    simp only [List.append_nil, lexemes] at hbefore
    rw [hlexemes, hbefore, hleft, lexemes_of_endsName hurl]

/-! ## Rules and urls -/

/-- A rule as it stands so many lines further down. -/
def AtRule.below (lines : Nat) (rule : AtRule) : AtRule := { rule with line := rule.line + lines }

theorem rulesFrom_append (line : Nat) (first second : List Lexeme) :
    rulesFrom line (first ++ second) =
      rulesFrom line first ++
        rulesFrom (line + (first.flatMap Lexeme.source).count '\n') second := by
  induction first generalizing line with
  | nil => rfl
  | cons found first ih =>
    rw [List.flatMap_cons, List.count_append, ← Nat.add_assoc]
    cases found <;> simp [rulesFrom, ih]

theorem rulesFrom_add (line lines : Nat) (found : List Lexeme) :
    rulesFrom (line + lines) found = (rulesFrom line found).map (AtRule.below lines) := by
  induction found generalizing line with
  | nil => rfl
  | cons next found ih =>
    have hline : line + lines + next.source.count '\n' = line + next.source.count '\n' + lines := by
      omega
    cases next with
    | rule name parts closed =>
      simp only [rulesFrom, hline, ih]
      rfl
    | _ => simp only [rulesFrom, hline, ih]

theorem flatMap_source_lexemes (dialect : Dialect) (afterName : Bool) (cs : List Char) :
    (lexemes dialect afterName cs).flatMap Lexeme.source = cs := by
  fun_induction lexemes dialect afterName cs with
  | case1 => rfl
  | case2 afterName c cs cut ih =>
    rw [List.flatMap_cons, ih]
    exact lexeme_append dialect afterName c cs

/-- The style sheet of a text that is cut between two lexemes. -/
theorem ofText_append {before after : String}
    (hstands : StandsBetween dialect before.toList after.toList)
    (hurl : before.toList.getLast?.any isNameChar = false ∨ startsUrl after.toList = false) :
    ofText dialect (before ++ after) =
      { dialect
        rules := (ofText dialect before).rules ++
          (ofText dialect after).rules.map (AtRule.below (before.toList.count '\n'))
        urls := (ofText dialect before).urls ++ (ofText dialect after).urls } := by
  simp only [ofText, String.toList_append, lexemes_append hstands hurl, rulesFrom_append,
    rulesFrom_add, flatMap_source_lexemes, List.filterMap_append]

/-- The first half ends in a prelude that only the second half ends. -/
theorem ofText_append_media :
    let before := "/*\n*/@media x"
    let after := "\x7b b: url(c) \x7d @use 'd';"
    StandsBetween .scss before.toList after.toList ∧ startsUrl after.toList = false ∧
      ofText .scss (before ++ after) =
        { dialect := .scss
          rules := (ofText .scss before).rules ++ (ofText .scss after).rules.map (AtRule.below 1)
          urls := (ofText .scss before).urls ++ (ofText .scss after).urls } := by
  intro before after
  have hstands : StandsBetween .scss before.toList after.toList := by
    refine ⟨_, _, (List.take_append_drop 2 _).symm, ?_⟩
    decide +kernel
  have hurl : startsUrl after.toList = false := by decide +kernel
  have hlines : before.toList.count '\n' = 1 := by decide +kernel
  have happend := ofText_append hstands (.inr hurl)
  rw [hlines] at happend
  exact ⟨hstands, hurl, happend⟩

end Requisite.Stylesheet
