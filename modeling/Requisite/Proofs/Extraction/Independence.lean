import Requisite.Proofs.Extraction.Outcome
import Requisite.Proofs.Finder.Steps

/-!
# Options that make no difference

An extraction depends on the format that its label names, on the flag for mixed imports, and
on the options of the finder that it runs. All other options can be anything.
-/

namespace Requisite

/-- The finders that do not look at their options at all. -/
def Finder.ignoresOptions : Finder → Bool
  | .commonJs | .stylesheet .sass | .stylesheet .scss | .stylesheet .less
  | .stylesheet .stylus => true
  | .es6 | .amd | .typed _ | .mixed | .stylesheet .css => false

theorem Finder.find_of_ignoresOptions {finder : Finder} (h : finder.ignoresOptions = true)
    (content : Content) (options options' : Option Json) :
    finder.find content options = finder.find content options' := by
  cases finder with
  | commonJs => rfl
  | es6 | amd | typed | mixed => simp [ignoresOptions] at h
  | stylesheet dialect =>
    cases content with
    | program parsed => rfl
    | text source =>
      have hcss : dialect ≠ .css := by
        rintro rfl
        simp [ignoresOptions] at h
      have hgood := flaw?_of_flags_eq_nil (flags_stylesheet_of_ne hcss)
      simp only [find_stylesheet_text, hgood, hcss, decide_false, Bool.and_false]

/-! ## Labels -/

theorem Content.subject?_congr {label label' : Option String}
    (h : label.map Format.ofLabel? = label'.map Format.ofLabel?) (content : Content) :
    content.subject? label = content.subject? label' := by
  match label, label' with
  | none, none => rfl
  | none, some _ | some _, none => cases h
  | some name, some name' =>
    have hformat : Format.ofLabel? name = Format.ofLabel? name' := Option.some.inj h
    cases content <;> simp only [subject?, formatOfProgram?, hformat]

/-! ## Extractions -/

/-- Options that an extraction of a content cannot tell apart. -/
structure Options.Alike (content : Content) (options options' : Options) : Prop where
  label : options.label.map Format.ofLabel? = options'.label.map Format.ofLabel?
  mixed : options.mixedImports = options'.mixedImports
  own : ∀ finder, content.finder? options = some finder → finder.ignoresOptions = false →
    options.formats.get? finder.format = options'.formats.get? finder.format

theorem Content.outcome_of_alike {content : Content} {options options' : Options}
    (h : options.Alike content options') : content.outcome options = content.outcome options' := by
  have hown := h.own
  unfold finder? at hown
  unfold outcome
  rw [← subject?_congr h.label content]
  cases hsubject : content.subject? options.label with
  | none => rfl
  | some subject =>
    simp only [hsubject, Option.bind_some] at hown
    have hfinder : subject.finder? options' = subject.finder? options := by
      unfold Subject.finder?
      rw [h.mixed]
    have hfound : subject.found options = subject.found options' := by
      unfold Subject.found
      rw [hfinder]
      cases hsome : subject.finder? options with
      | none => rfl
      | some finder =>
        cases hignores : finder.ignoresOptions with
        | true => exact finder.find_of_ignoresOptions hignores _ _ _
        | false => simp only [hown finder hsome hignores]
    simp only [Subject.extraction, hfound]

theorem run_extract_of_alike {content : Content} {options options' : Options}
    (h : options.Alike content options') (slot : Option Tree) :
    (extract content options).run slot = (extract content options').run slot := by
  rw [Content.run_extract, Content.run_extract, Content.outcome_of_alike h]
  cases content.outcome options' with
  | ok extraction => rfl
  | error error =>
    simp only [Content.leaves, ← Content.bind_tree?_subject?, Content.subject?_congr h.label]

theorem Options.alike_withFormat {content : Content} {options : Options} {format : Format}
    {value : Json}
    (hother : ∀ finder, content.finder? options = some finder → finder.format ≠ format)
    (hmixed : format = .es6 →
      (options.withFormat format value).mixedImports = options.mixedImports) :
    options.Alike content (options.withFormat format value) where
  label := rfl
  mixed := by
    by_cases hformat : format = .es6
    · exact (hmixed hformat).symm
    · exact (mixedImports_withFormat hformat options value).symm
  own := by
    intro finder hfinder _
    exact (FormatOptions.get?_insert_of_ne (hother finder hfinder) options.formats value).symm

/-- Under options that are alike an extraction gives one answer and leaves one tree. So the
options of a format whose finder does not run, good or bad, change nothing. -/
theorem extract_of_alike (content : Content) (options : Options) (slot : Option Tree) :
    (∀ options', options.Alike content options' →
      (extract content options').run slot = (extract content options).run slot) ∧
    ∀ format value, (∀ finder, content.finder? options = some finder → finder.format ≠ format) →
      (format = .es6 →
        (options.withFormat format value).mixedImports = options.mixedImports) →
      (extract content (options.withFormat format value)).run slot =
        (extract content options).run slot := by
  refine ⟨?_, ?_⟩
  · intro options' h
    exact (run_extract_of_alike h slot).symm
  · intro format value hother hmixed
    exact (run_extract_of_alike (Options.alike_withFormat hother hmixed) slot).symm

/-- Two labels of one format, and bad options for a finder that does not run. -/
theorem extract_of_alike_synonyms :
    let content := Content.text "import('./a'); import './b';"
    let own := Json.object [("skipAsyncImports", .bool true)]
    let bad := Json.object [("skipLazyLoaded", .null)]
    let options := (Options.ofLabel "mjs").withFormat .es6 own
    let options' := ((Options.ofLabel "esm").withFormat .es6 own).withFormat .amd bad
    content.finder? options = some .es6 ∧ options.Alike content options' ∧
      (extract content options').run none = (extract content options).run none ∧
      (extract content (options.withFormat .amd bad)).run none =
        (extract content options).run none := by
  intro content own bad options options'
  have hfinder : content.finder? options = some .es6 := by decide +kernel
  have hother (finder : Finder) (h : content.finder? options = some finder) :
      finder.format ≠ .amd := by
    cases hfinder.symm.trans h
    decide
  have halike : options.Alike content options' := by
    refine ⟨by decide +kernel, by decide +kernel, ?_⟩
    intro finder h _
    cases hfinder.symm.trans h
    rfl
  obtain ⟨hsame, hset⟩ := extract_of_alike content options none
  exact ⟨hfinder, halike, hsame options' halike, hset .amd bad hother (by decide)⟩

end Requisite
