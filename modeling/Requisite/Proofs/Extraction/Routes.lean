import Requisite.Proofs.Extraction.Outcome
import Requisite.Proofs.Finder
import Requisite.Proofs.Script.Evidence

/-!
# Routes to one extraction

A text or its program, with the label of its format or without: the answer is the same, and
so is the tree that is left behind.
-/

namespace Requisite

open Script (parseSource?)

theorem Script.Program.isPlain_finder {program : Script.Program} {format : Format}
    (h : program.format? = some format) (mixed : Bool) :
    (format.finder mixed).isPlain = true := by
  rcases format?_cases h with rfl | rfl | rfl <;> cases mixed <;> rfl

/-- The ways to ask for the dependencies of a text that spells a program. -/
def routes (source : String) (parsed : Script.Program) (options : Options) (label : String) :
    List (Content × Options) :=
  [(.text source, options), (.program parsed, options),
    (.text source, options.withLabel label), (.program parsed, options.withLabel label)]

/-- A subject stays the same if its text is parsed beforehand. -/
theorem Subject.extraction_of_isPlain {format : Format} {source : String}
    {parsed : Script.Program} {options : Options}
    (hplain : (format.finder options.mixedImports).isPlain = true)
    (hparse : parseSource? source = some parsed) :
    ∃ result : Except Error Extraction,
      Subject.extraction ⟨some format, .program parsed⟩ options = result ∧
      Subject.extraction ⟨some format, .text source⟩ options = result ∧
      match result with
      | .ok extraction => extraction.format = some format
      | .error error => ∃ format cause, error = .badOptions format cause := by
  rcases Finder.find_of_isPlain hplain parsed
      (options.formats.get? (format.finder options.mixedImports).format) with
    ⟨dependencies, hprogram, htext⟩ | ⟨cause, hprogram, htext⟩
  · refine ⟨.ok ⟨dependencies, some format, some (.program parsed)⟩, ?_, ?_, rfl⟩
    · simp only [extraction, found, finder?, Option.map_some, hprogram]
      rfl
    · simp only [extraction, found, finder?, Option.map_some, htext source hparse]
      rfl
  · refine ⟨.error (.badOptions (format.finder options.mixedImports).format cause), ?_, ?_,
      _, cause, rfl⟩
    · simp only [extraction, found, finder?, Option.map_some, hprogram]
    · simp only [extraction, found, finder?, Option.map_some, htext source hparse]

theorem Subject.extraction_withLabel (subject : Subject) (options : Options) (label : String) :
    subject.extraction (options.withLabel label) = subject.extraction options := rfl

theorem outcome_of_mem_routes {format : Format} {source label : String}
    {parsed : Script.Program} {options : Options} {result : Except Error Extraction}
    (hparse : parseSource? source = some parsed) (hopen : options.label = none)
    (hformat : parsed.format? = some format) (hlabel : Format.ofLabel? label = some format)
    (hprogram : Subject.extraction ⟨some format, .program parsed⟩ options = result)
    (htext : Subject.extraction ⟨some format, .text source⟩ options = result)
    {route : Content × Options} (hroute : route ∈ routes source parsed options label) :
    route.1.outcome route.2 = result := by
  simp only [routes, List.mem_cons, List.not_mem_nil, or_false] at hroute
  rcases hroute with rfl | rfl | rfl | rfl
  · simpa only [Content.outcome, hopen, Content.subject?, hparse, Option.map_some, hformat]
      using hprogram
  · simpa only [Content.outcome, hopen, Content.subject?, formatOfProgram?, hformat]
      using hprogram
  · rw [← Subject.extraction_withLabel _ options label] at htext
    simpa only [Content.outcome, Options.withLabel, Content.subject?, hlabel] using htext
  · rw [← Subject.extraction_withLabel _ options label] at hprogram
    simpa only [Content.outcome, Options.withLabel, Content.subject?, formatOfProgram?, hlabel]
      using hprogram

/-- All routes give one answer, and leave the tree of it behind. If there is none, the options
are to blame. -/
theorem extract_eq_of_mem_routes {format : Format} {source label : String}
    {parsed : Script.Program} {options : Options}
    (hparse : parseSource? source = some parsed) (hopen : options.label = none)
    (hformat : ((Content.text source).subject? none).bind Subject.format = some format)
    (hlabel : Format.ofLabel? label = some format) :
    ∃ result : Except Error Extraction,
      (∀ route ∈ routes source parsed options label, ∀ slot,
        ((extract route.1 route.2).run slot).1 = result) ∧
      match result with
      | .ok extraction =>
        extraction.format = some format ∧
          ∀ route ∈ routes source parsed options label, ∀ slot,
            ((extract route.1 route.2).run slot).2 = extraction.tree
      | .error error => ∃ format cause, error = .badOptions format cause := by
  have hformat : parsed.format? = some format := by
    simpa [Content.subject?, hparse] using hformat
  have hplain := Script.Program.isPlain_finder hformat options.mixedImports
  obtain ⟨result, hprogram, htext, hkind⟩ := Subject.extraction_of_isPlain hplain hparse
  have houtcome {route : Content × Options} (h : route ∈ routes source parsed options label) :=
    outcome_of_mem_routes hparse hopen hformat hlabel hprogram htext h
  refine ⟨result, ?_, ?_⟩
  · intro route hroute slot
    rw [Content.run_extract, houtcome hroute]
  · cases result with
    | error error => exact hkind
    | ok extraction =>
      refine ⟨hkind, ?_⟩
      intro route hroute slot
      rw [Content.run_extract, houtcome hroute]
      rfl

/-- A script with both ways of importing, under the options that take both. -/
theorem extract_eq_of_mem_routes_mixed :
    let source := "import a from './a'; require('./b');"
    let options := ({} : Options).withMixedImports true
    ∃ parsed, parseSource? source = some parsed ∧ options.label = none ∧
      ((Content.text source).subject? none).bind Subject.format = some .es6 ∧
      Format.ofLabel? "mjs" = some .es6 ∧
      ∃ result : Except Error Extraction,
        (∀ route ∈ routes source parsed options "mjs", ∀ slot,
          ((extract route.1 route.2).run slot).1 = result) ∧
        match result with
        | .ok extraction =>
          extraction.format = some .es6 ∧
            ∀ route ∈ routes source parsed options "mjs", ∀ slot,
              ((extract route.1 route.2).run slot).2 = extraction.tree
        | .error error => ∃ format cause, error = .badOptions format cause := by
  intro source options
  have hsome : (parseSource? source).isSome = true := by decide +kernel
  have hformat : ((Content.text source).subject? none).bind Subject.format = some .es6 := by
    decide +kernel
  obtain ⟨parsed, hparse⟩ := Option.isSome_iff_exists.mp hsome
  exact ⟨parsed, hparse, rfl, hformat, rfl,
    extract_eq_of_mem_routes hparse rfl hformat rfl⟩

end Requisite
