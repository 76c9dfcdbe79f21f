import Requisite.Finder

/-!
# Answers of finders

A finder for plain programs gives a text and the program that the text spells one answer.
-/

namespace Requisite.Finder

open Script (parseSource?)

/-- The finders that parse a text as a program whose format is not known yet. -/
def isPlain : Finder → Bool
  | .commonJs | .es6 | .amd | .mixed => true
  | .typed _ | .stylesheet _ => false

theorem fields_cases (finder : Finder) (options : Option Json) :
    (∃ fields, finder.fields options = .ok fields) ∨
      ∃ cause, finder.fields options = .error (.badOptions finder.format cause) := by
  unfold fields
  split
  · split
    · next found _ => exact .inr ⟨⟨found, .boolean⟩, rfl⟩
    · next fields _ _ => exact .inl ⟨fields, rfl⟩
  · exact .inl ⟨[], rfl⟩

@[simp] theorem program_program (finder : Finder) (parse? : String → Option Script.Program)
    (parsed : Script.Program) : finder.program parse? (.program parsed) = .ok parsed := rfl

theorem program_text {finder : Finder} {parse? : String → Option Script.Program}
    {source : String} {parsed : Script.Program} (h : parse? source = some parsed) :
    finder.program parse? (.text source) = .ok parsed := by
  simp only [program, h]

theorem find_of_isPlain {finder : Finder} (hplain : finder.isPlain = true)
    (parsed : Script.Program) (options : Option Json) :
    (∃ dependencies, finder.find (.program parsed) options = .ok ⟨dependencies, none⟩ ∧
      ∀ source, parseSource? source = some parsed →
        finder.find (.text source) options = .ok ⟨dependencies, some (.program parsed)⟩) ∨
    (∃ cause, finder.find (.program parsed) options =
        .error (.badOptions finder.format cause) ∧
      ∀ source, parseSource? source = some parsed →
        finder.find (.text source) options = .error (.badOptions finder.format cause)) := by
  have hfields := fields_cases finder options
  cases finder with
  | typed | stylesheet => simp [isPlain] at hplain
  | commonJs =>
    refine .inl ⟨parsed.required, rfl, ?_⟩
    intro source hsource
    rw [find, program_text hsource]
    rfl
  | es6 | amd | mixed =>
    rcases hfields with ⟨fields, hfields⟩ | ⟨cause, hfields⟩
    · left
      refine ⟨_, by rw [find, program_program, hfields]; rfl, ?_⟩
      intro source hsource
      rw [find, program_text hsource, hfields]
      rfl
    · right
      refine ⟨cause, by rw [find, program_program, hfields]; rfl, ?_⟩
      intro source hsource
      rw [find, program_text hsource, hfields]
      rfl

end Requisite.Finder
