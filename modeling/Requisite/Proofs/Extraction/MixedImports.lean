import Requisite.Proofs.Extraction.Outcome
import Requisite.Proofs.Finder.Steps

/-!
# What mixed imports add

The flag for mixed imports makes two finders search a program where one did before. Answers
keep their format and their tree, and the dependencies found before stand at one end of those
found then.
-/

namespace Requisite

namespace Finder

/-! ## The flag itself -/

theorem format_eq_es6_iff (finder : Finder) :
    finder.format = .es6 ↔ finder = .es6 ∨ finder = .mixed := by
  cases finder with
  | commonJs | es6 | amd | mixed => simp [format]
  | typed markup => cases markup <;> simp [format]
  | stylesheet dialect => cases dialect <;> simp [format, Stylesheet.Dialect.format]

theorem listed_setField_mixedKey (fields : List (String × Json)) (value : Json)
    (program : Script.Program) :
    es6.listed (Json.setField fields Options.mixedKey value) program =
      es6.listed fields program := by
  have htypes : "skipTypeImports" ≠ Options.mixedKey := by decide
  have hdynamic : "skipAsyncImports" ≠ Options.mixedKey := by decide
  simp only [listed, importRules, isOn_setField_of_ne htypes, isOn_setField_of_ne hdynamic]

theorem parsed?_mixed (content : Content) :
    mixed.parsed? content = es6.parsed? content ∧
      commonJs.parsed? content = es6.parsed? content := by
  cases content <;> exact ⟨rfl, rfl⟩

theorem flaw?_mixed (options : Option Json) : mixed.flaw? options = es6.flaw? options := rfl

theorem listed_mixed (fields : List (String × Json)) (program : Script.Program) :
    mixed.listed fields program = es6.listed fields program ++ program.required := rfl

/-- No finder looks at the flag. -/
theorem find_withMixedImports (finder : Finder) (content : Content) (options : Options)
    (mixed : Bool) :
    finder.find content ((options.withMixedImports mixed).formats.get? finder.format) =
      finder.find content (options.formats.get? finder.format) := by
  by_cases hformat : finder.format = .es6
  · have hflaw : es6.flaw? ((options.withMixedImports mixed).formats.get? .es6) =
        es6.flaw? (options.formats.get? .es6) := by
      rw [Options.get?_es6_withMixedImports]
      exact find?_isBad_setField (by decide) _ _
    have hlisted (program : Script.Program) :
        es6.listed (Json.fieldsOf ((options.withMixedImports mixed).formats.get? .es6)) program =
          es6.listed (Json.fieldsOf (options.formats.get? .es6)) program := by
      rw [Options.get?_es6_withMixedImports]
      exact listed_setField_mixedKey _ _ program
    rw [hformat]
    rcases (format_eq_es6_iff finder).mp hformat with rfl | rfl
    · rw [find_of_isSingle rfl, find_of_isSingle rfl]
      simp only [hflaw, hlisted]
    · simp only [find_mixed, flaw?_mixed, listed_mixed, hflaw, hlisted]
  · rw [Options.get?_withMixedImports_of_ne hformat]

end Finder

/-! ## Answers -/

/-- What the finders of both ways of importing find in one program. -/
structure Halves (options : Options) (parsed : Script.Program)
    (imported required : List String) : Prop where
  imported : Finder.es6.find (.program parsed) (options.formats.get? .es6) =
    .ok { dependencies := imported }
  required : Finder.commonJs.find (.program parsed) (options.formats.get? .commonJs) =
    .ok { dependencies := required }

theorem halves_of_no_flaw {options : Options}
    (h : Finder.es6.flaw? (options.formats.get? .es6) = none) (parsed : Script.Program) :
    Halves options parsed
      (Finder.es6.listed (Json.fieldsOf (options.formats.get? .es6)) parsed) parsed.required where
  imported := by
    rw [Finder.find_of_isSingle rfl, h]
    rfl
  required := rfl

/-- How an answer without mixed imports and one with them go together. -/
inductive Widens (options : Options) :
    Except Error Extraction → Except Error Extraction → Prop where
  | failed (error error' : Error) : Widens options (.error error) (.error error')
  /-- Options that did not matter before now count, and are bad. -/
  | refused {alone : Extraction} (error : Error) (hformat : alone.format = some .commonJs)
    (hflaw : (Finder.es6.flaw? (options.formats.get? .es6)).isSome = true) :
    Widens options (.ok alone) (.error error)
  | unchanged {alone : Extraction} (hcommonJs : alone.format ≠ some .commonJs)
    (hes6 : alone.format ≠ some .es6) : Widens options (.ok alone) (.ok alone)
  /-- What is imported comes before what was found alone. -/
  | before {parsed : Script.Program} {imported required : List String}
    (halves : Halves options parsed imported required) :
    Widens options (.ok ⟨required, some .commonJs, some (.program parsed)⟩)
      (.ok ⟨imported ++ required, some .commonJs, some (.program parsed)⟩)
  /-- What is required comes after it. -/
  | after {parsed : Script.Program} {imported required : List String}
    (halves : Halves options parsed imported required) :
    Widens options (.ok ⟨imported, some .es6, some (.program parsed)⟩)
      (.ok ⟨imported ++ required, some .es6, some (.program parsed)⟩)

namespace Subject

theorem found_withMixedImports (subject : Subject) (options : Options) (mixed : Bool) :
    subject.found (options.withMixedImports mixed) =
      match subject.format with
      | none => .ok {}
      | some format =>
        (format.finder mixed).find subject.content
          (options.formats.get? (format.finder mixed).format) := by
  unfold found finder?
  rw [Options.mixedImports_withMixedImports]
  cases subject.format with
  | none => rfl
  | some format => exact Finder.find_withMixedImports _ _ options mixed

theorem found_of_isMixable {format : Format} (h : format.isMixable = true) (content : Content)
    (options : Options) :
    found ⟨some format, content⟩ (options.withMixedImports true) =
      match Finder.es6.parsed? content, Finder.es6.flaw? (options.formats.get? .es6) with
      | none, _ => .error (.unparsed .es6)
      | some _, some (_, found) => .error (.badOptions .es6 ⟨found, .boolean⟩)
      | some parsed, none =>
        .ok ⟨Finder.es6.listed (Json.fieldsOf (options.formats.get? .es6)) parsed ++
            parsed.required, Finder.made content parsed⟩ := by
  have hfinder : format.finder true = .mixed := by simp [Format.finder, h]
  rw [found_withMixedImports]
  simp only [hfinder]
  rw [Finder.find_mixed, (Finder.parsed?_mixed content).1]
  rfl

theorem made_orElse_tree? {finder : Finder} {content : Content} {parsed : Script.Program}
    (h : finder.parsed? content = some parsed) :
    (Finder.made content parsed <|> content.tree?) = some (.program parsed) := by
  cases content with
  | program given =>
    cases h
    rfl
  | text source => rfl

theorem widens_es6 (content : Content) (options : Options) :
    Widens options (extraction ⟨some .es6, content⟩ (options.withMixedImports false))
      (extraction ⟨some .es6, content⟩ (options.withMixedImports true)) := by
  have halone : found ⟨some .es6, content⟩ (options.withMixedImports false) =
      Finder.es6.find content (options.formats.get? .es6) :=
    found_withMixedImports _ options false
  unfold extraction
  rw [halone, Finder.find_of_isSingle rfl, found_of_isMixable rfl]
  cases hflaw : Finder.es6.flaw? (options.formats.get? .es6) with
  | some entry => cases Finder.es6.parsed? content <;> exact .failed _ _
  | none =>
    cases hparsed : Finder.es6.parsed? content with
    | none => exact .failed _ _
    | some parsed =>
      simp only [made_orElse_tree? hparsed]
      exact .after (halves_of_no_flaw hflaw parsed)

theorem widens_commonJs (content : Content) (options : Options) :
    Widens options (extraction ⟨some .commonJs, content⟩ (options.withMixedImports false))
      (extraction ⟨some .commonJs, content⟩ (options.withMixedImports true)) := by
  have halone : found ⟨some .commonJs, content⟩ (options.withMixedImports false) =
      Finder.commonJs.find content (options.formats.get? .commonJs) :=
    found_withMixedImports _ options false
  unfold extraction
  rw [halone, Finder.find_of_isSingle rfl, Finder.flaw?_of_flags_eq_nil rfl,
    (Finder.parsed?_mixed content).2, found_of_isMixable rfl]
  cases hparsed : Finder.es6.parsed? content with
  | none => exact .failed _ _
  | some parsed =>
    cases hflaw : Finder.es6.flaw? (options.formats.get? .es6) with
    | some entry => exact .refused _ rfl (by rw [hflaw]; rfl)
    | none =>
      simp only [made_orElse_tree? hparsed]
      exact .before (halves_of_no_flaw hflaw parsed)

theorem widens_extraction (subject : Subject) (options : Options) :
    Widens options (subject.extraction (options.withMixedImports false))
      (subject.extraction (options.withMixedImports true)) := by
  obtain ⟨format, content⟩ := subject
  by_cases hes6 : format = some .es6
  · subst hes6
    exact widens_es6 content options
  by_cases hcommonJs : format = some .commonJs
  · subst hcommonJs
    exact widens_commonJs content options
  -- Otherwise the flag makes no difference to the finder.
  have hsame : found ⟨format, content⟩ (options.withMixedImports true) =
      found ⟨format, content⟩ (options.withMixedImports false) := by
    rw [found_withMixedImports, found_withMixedImports]
    match format with
    | none => rfl
    | some .es6 => exact absurd rfl hes6
    | some .commonJs => exact absurd rfl hcommonJs
    | some .amd | some .typescript | some .tsx | some .css | some .sass | some .scss
    | some .less | some .stylus => rfl
  unfold extraction
  rw [hsame]
  cases found ⟨format, content⟩ (options.withMixedImports false) with
  | error error => exact .failed error error
  | ok found => exact .unchanged hcommonJs hes6

end Subject

theorem Content.widens_outcome (content : Content) (options : Options) :
    Widens options (content.outcome (options.withMixedImports false))
      (content.outcome (options.withMixedImports true)) := by
  unfold outcome
  simp only [Options.label_withMixedImports]
  cases content.subject? options.label with
  | none => exact .unchanged (by simp) (by simp)
  | some subject => exact subject.widens_extraction options

theorem Content.format_of_outcome {content : Content} {options : Options} {extraction : Extraction}
    (h : content.outcome options = .ok extraction) :
    extraction.format = (content.subject? options.label).bind Subject.format := by
  unfold outcome at h
  cases hsubject : content.subject? options.label with
  | none =>
    rw [hsubject] at h
    cases h
    rfl
  | some subject =>
    rw [hsubject] at h
    simp only [Subject.extraction] at h
    split at h
    · cases h
    · cases h
      rfl

/-! ## Extractions -/

/-- With mixed imports an extraction fails where it failed without them, and for one format
also where the options of the other have a bad flag. Otherwise it answers alike but for the
dependencies: those of the two formats that can be mixed are the imported ones, followed by
the required ones. The format is the one that is decided before any finder is chosen. -/
theorem extract_withMixedImports (content : Content) (options : Options) (slot : Option Tree) :
    let single := (extract content (options.withMixedImports false)).run slot
    let mixed := (extract content (options.withMixedImports true)).run slot
    let format := (content.subject? options.label).bind Subject.format
    match single.1, mixed.1 with
    | .error _, result => ∃ error, result = .error error
    | .ok alone, .error _ =>
      format = some .commonJs ∧ alone.format = format ∧
        (Finder.es6.flaw? (options.formats.get? .es6)).isSome = true
    | .ok alone, .ok both =>
      alone.format = format ∧ both.format = format ∧ both.tree = alone.tree ∧
      mixed.2 = single.2 ∧
      match format with
      | some .commonJs =>
        ∃ parsed imported, Halves options parsed imported alone.dependencies ∧
          both.tree = some (.program parsed) ∧
          both.dependencies = imported ++ alone.dependencies ∧
          alone.dependencies <:+ both.dependencies ∧
          (both.dependencies = alone.dependencies ↔ imported = [])
      | some .es6 =>
        ∃ parsed required, Halves options parsed alone.dependencies required ∧
          both.tree = some (.program parsed) ∧
          both.dependencies = alone.dependencies ++ required ∧
          alone.dependencies <+: both.dependencies ∧
          (both.dependencies = alone.dependencies ↔ required = [])
      | _ => both.dependencies = alone.dependencies := by
  simp only [Content.run_extract]
  have hwidens := content.widens_outcome options
  have hdecided {alone : Extraction}
      (h : content.outcome (options.withMixedImports false) = .ok alone) :
      (content.subject? options.label).bind Subject.format = alone.format := by
    rw [Content.format_of_outcome h, Options.label_withMixedImports]
  generalize content.outcome (options.withMixedImports false) = single at hwidens hdecided ⊢
  generalize content.outcome (options.withMixedImports true) = mixed at hwidens ⊢
  cases hwidens with
  | failed error error' => exact ⟨error', rfl⟩
  | refused error hformat hflaw =>
    rw [hdecided rfl]
    exact ⟨hformat, rfl, hflaw⟩
  | @unchanged alone hcommonJs hes6 =>
    rw [hdecided rfl]
    refine ⟨rfl, rfl, rfl, rfl, ?_⟩
    split
    · next h => exact absurd h hcommonJs
    · next h => exact absurd h hes6
    · rfl
  | @before parsed imported required halves =>
    rw [hdecided rfl]
    refine ⟨rfl, rfl, rfl, rfl, parsed, imported, halves, rfl, rfl, ?_, ?_⟩
    · exact List.suffix_append imported required
    · simp
  | @after parsed imported required halves =>
    rw [hdecided rfl]
    refine ⟨rfl, rfl, rfl, rfl, parsed, required, halves, rfl, rfl, ?_, ?_⟩
    · exact List.prefix_append imported required
    · simp

end Requisite
