import Requisite.Proofs.Extraction.Outcome
import Requisite.Proofs.Finder.Steps

/-!
# When extraction fails

The ways in which a finder refuses a content, with the error of each. An extraction fails in
these ways only: in all other cases there is an answer.
-/

namespace Requisite

open Script (parseSource?)

namespace Finder

/-! ## Refusals -/

/-- A finder refuses a content under its options with a certain error. -/
inductive Refuses : Finder → Content → Option Json → Error → Prop where
  /-- Style sheets are texts, whatever the options. -/
  | needsText (dialect : Stylesheet.Dialect) (parsed : Script.Program) (options : Option Json) :
    Refuses (.stylesheet dialect) (.program parsed) options (.needsText dialect.format)
  | badSheetFlag {source : String} {options : Option Json} {flag : String} {found : Json}
    (hbad : (stylesheet .css).flaw? options = some (flag, found)) :
    Refuses (.stylesheet .css) (.text source) options (.badOptions .css ⟨found, .boolean⟩)
  /-- A bad flag is reported even if the text does not parse. A finder without flags has
  none. -/
  | badFlag {finder : Finder} {content : Content} {options : Option Json} {flag : String}
    {found : Json} (hsingle : finder.isSingle = true)
    (hbad : finder.flaw? options = some (flag, found)) :
    Refuses finder content options (.badOptions finder.format ⟨found, .boolean⟩)
  | unparsed {finder : Finder} {source : String} {options : Option Json}
    (hsingle : finder.isSingle = true) (hgood : finder.flaw? options = none)
    (hparse : finder.parse? source = none) :
    Refuses finder (.text source) options (.unparsed finder.format)
  /-- Here a text that does not parse is reported even if there is a bad flag. -/
  | mixedUnparsed {source : String} {options : Option Json}
    (hparse : parseSource? source = none) :
    Refuses .mixed (.text source) options (.unparsed .es6)
  | mixedBadFlag {content : Content} {parsed : Script.Program} {options : Option Json}
    {flag : String} {found : Json} (hparse : mixed.parsed? content = some parsed)
    (hbad : mixed.flaw? options = some (flag, found)) :
    Refuses .mixed content options (.badOptions .es6 ⟨found, .boolean⟩)

theorem parsed?_eq_none_iff (finder : Finder) (content : Content) :
    finder.parsed? content = none ↔
      ∃ source, content = .text source ∧ finder.parse? source = none := by
  cases content <;> simp [parsed?]

theorem find_eq_error_iff_of_isSingle {finder : Finder} (h : finder.isSingle = true)
    (content : Content) (options : Option Json) (error : Error) :
    finder.find content options = .error error ↔ finder.Refuses content options error := by
  rw [find_of_isSingle h]
  constructor
  · intro hfind
    cases hbad : finder.flaw? options with
    | some entry =>
      obtain ⟨flag, found⟩ := entry
      simp only [hbad] at hfind
      cases hfind
      exact .badFlag h hbad
    | none =>
      cases hparsed : finder.parsed? content with
      | some parsed => simp [hbad, hparsed] at hfind
      | none =>
        simp only [hbad, hparsed] at hfind
        cases hfind
        obtain ⟨source, rfl, hparse⟩ := (parsed?_eq_none_iff finder content).mp hparsed
        exact .unparsed h hbad hparse
  · intro hrefuses
    cases hrefuses with
    | badFlag _ hbad => simp only [hbad]
    | unparsed _ hgood hparse => simp only [hgood, parsed?, hparse]
    | _ => simp [isSingle] at h

theorem find_eq_error_iff_of_mixed (content : Content) (options : Option Json) (error : Error) :
    mixed.find content options = .error error ↔ mixed.Refuses content options error := by
  rw [find_mixed]
  constructor
  · intro hfind
    cases hparsed : mixed.parsed? content with
    | none =>
      simp only [hparsed] at hfind
      cases hfind
      obtain ⟨source, rfl, hparse⟩ := (parsed?_eq_none_iff mixed content).mp hparsed
      exact .mixedUnparsed hparse
    | some parsed =>
      cases hbad : mixed.flaw? options with
      | none => simp [hparsed, hbad] at hfind
      | some entry =>
        obtain ⟨flag, found⟩ := entry
        simp only [hparsed, hbad] at hfind
        cases hfind
        exact .mixedBadFlag hparsed hbad
  · intro hrefuses
    cases hrefuses with
    | badFlag hsingle | unparsed hsingle => simp [isSingle] at hsingle
    | @mixedUnparsed source _ hparse =>
      have hparsed : mixed.parsed? (.text source) = none := hparse
      simp only [hparsed]
    | mixedBadFlag hparse hbad => simp only [hparse, hbad]

theorem find_eq_error_iff_of_stylesheet (dialect : Stylesheet.Dialect) (content : Content)
    (options : Option Json) (error : Error) :
    (stylesheet dialect).find content options = .error error ↔
      (stylesheet dialect).Refuses content options error := by
  constructor
  · intro hfind
    cases content with
    | program parsed =>
      cases hfind
      exact .needsText dialect parsed options
    | text source =>
      rw [find_stylesheet_text] at hfind
      cases hbad : (stylesheet dialect).flaw? options with
      | none => simp [hbad] at hfind
      | some entry =>
        obtain ⟨flag, found⟩ := entry
        simp only [hbad] at hfind
        cases hfind
        by_cases hcss : dialect = .css
        · subst hcss
          exact .badSheetFlag hbad
        · simp [flaw?_of_flags_eq_nil (flags_stylesheet_of_ne hcss)] at hbad
  · intro hrefuses
    cases hrefuses with
    | needsText => rfl
    | badSheetFlag hbad => simp only [find_stylesheet_text, hbad]; rfl
    | badFlag hsingle | unparsed hsingle => simp [isSingle] at hsingle

/-- A finder fails where it refuses, and nowhere else. -/
theorem find_eq_error_iff (finder : Finder) (content : Content) (options : Option Json)
    (error : Error) :
    finder.find content options = .error error ↔ finder.Refuses content options error := by
  cases finder with
  | commonJs | es6 | amd | typed => exact find_eq_error_iff_of_isSingle rfl content options error
  | stylesheet dialect => exact find_eq_error_iff_of_stylesheet dialect content options error
  | mixed => exact find_eq_error_iff_of_mixed content options error

end Finder

/-! ## Extractions -/

/-- An extraction fails as the finder that it chooses refuses what it is given: a program, or
a text that has a label. -/
theorem extract_eq_error_iff (content : Content) (options : Options) (slot : Option Tree)
    (error : Error) :
    ((extract content options).run slot).1 = .error error ↔
      ∃ finder, content.finder? options = some finder ∧
        finder.Refuses (content.given options.label) (options.formats.get? finder.format)
          error := by
  rw [Content.run_extract]
  simp only [Content.outcome_eq_error_iff, Finder.find_eq_error_iff]

end Requisite
