import Mathlib.Data.List.DropRight
import Requisite.Proofs.Options

/-!
# Changes in a row

Where options stand after any row of changes. Each setting comes from the last change that sets
it. The flag for mixed imports is the only setting that goes into a value next to what is there,
so it counts only if it was set after that value.
-/

namespace Requisite

namespace Json

theorem lookup_setField (fields : List (String × Json)) (key other : String) (value : Json) :
    (setField fields key value).lookup other =
      if other = key then some value else fields.lookup other := by
  split
  · next h => rw [h, lookup_setField_self]
  · next h => rw [lookup_setField_of_ne h]

theorem setField_setField (fields : List (String × Json)) (key : String) (old new : Json) :
    setField (setField fields key old) key new = setField fields key new := by
  induction fields with
  | nil => simp [setField]
  | cons entry rest ih =>
    obtain ⟨name, value⟩ := entry
    by_cases h : name = key
    · simp [setField, h]
    · simp [setField, h, ih]

end Json

namespace FormatOptions

theorem insert_insert (options : FormatOptions) (format : Format) (old new : Json) :
    (options.insert format old).insert format new = options.insert format new := by
  ext1
  funext other
  by_cases h : other = format <;> simp [insert, h]

theorem insert_comm {format other : Format} (h : format ≠ other) (options : FormatOptions)
    (value value' : Json) :
    (options.insert format value).insert other value' =
      (options.insert other value').insert format value := by
  ext1
  funext target
  by_cases hformat : target = format
  · subst hformat
    simp [insert, h]
  · simp [insert, hformat]

end FormatOptions

namespace OptionsStep

/-! ## What a change sets -/

def label? : OptionsStep → Option String
  | .label name => some name
  | _ => none

def includeCore? : OptionsStep → Option Bool
  | .includeCore keep => some keep
  | _ => none

/-- The value that a change gives to a format in place of any other. -/
def value? (format : Format) : OptionsStep → Option Json
  | .format target value => if target = format then some value else none
  | _ => none

def mixed? : OptionsStep → Option Bool
  | .mixedImports mixed => some mixed
  | _ => none

/-- What the last of the changes that set something has set. -/
def last? (sets? : OptionsStep → Option α) (steps : List OptionsStep) : Option α :=
  (steps.filterMap sets?).getLast?

/-- The changes behind the last one that gives a value to a format. -/
def sinceValue (format : Format) (steps : List OptionsStep) : List OptionsStep :=
  steps.rtakeWhile fun step => (step.value? format).isNone

theorem last?_concat (sets? : OptionsStep → Option α) (steps : List OptionsStep)
    (step : OptionsStep) : last? sets? (steps ++ [step]) = (sets? step).or (last? sets? steps) := by
  unfold last?
  rw [List.filterMap_append, List.getLast?_append]
  cases h : sets? step <;> simp [h]

theorem sinceValue_concat_of_none {format : Format} {step : OptionsStep}
    (h : step.value? format = none) (steps : List OptionsStep) :
    sinceValue format (steps ++ [step]) = sinceValue format steps ++ [step] :=
  List.rtakeWhile_concat_pos _ _ _ (by simp [h])

theorem sinceValue_concat_of_some {format : Format} {step : OptionsStep} {value : Json}
    (h : step.value? format = some value) (steps : List OptionsStep) :
    sinceValue format (steps ++ [step]) = [] :=
  List.rtakeWhile_concat_neg _ _ _ (by simp [h])

/-! ## One change -/

/-- A value with the flag set next to its entries, if the flag is to be set. -/
def flagged (value : Option Json) : Option Bool → Option Json
  | none => value
  | some mixed =>
    some (.object (Json.setField (Json.fieldsOf value) Options.mixedKey (.bool mixed)))

theorem flagged_flagged (value : Option Json) (old : Option Bool) (mixed : Bool) :
    flagged (flagged value old) (some mixed) = flagged value (some mixed) := by
  cases old with
  | none => rfl
  | some old => simp only [flagged, Json.fieldsOf, Json.setField_setField]

variable {step : OptionsStep}

theorem mixed?_of_value? {format : Format} {value : Json} (h : step.value? format = some value) :
    step.mixed? = none := by
  cases step with
  | mixedImports => cases h
  | _ => rfl

theorem label_apply (h : ∀ name, step ≠ .onlyLabel name) (options : FileOptions) :
    (step.apply options).text.label = step.label?.or options.text.label := by
  cases step with
  | onlyLabel name => exact absurd rfl (h name)
  | _ => rfl

theorem includeCore_apply (h : ∀ name, step ≠ .onlyLabel name) (options : FileOptions) :
    some (step.apply options).includeCore =
      step.includeCore?.or (some options.includeCore) := by
  cases step with
  | onlyLabel name => exact absurd rfl (h name)
  | _ => rfl

theorem core_apply (h : ∀ name, step ≠ .onlyLabel name) (options : FileOptions) :
    (step.apply options).core = options.core := by
  cases step with
  | onlyLabel name => exact absurd rfl (h name)
  | _ => rfl

theorem get?_apply (h : ∀ name, step ≠ .onlyLabel name) (options : FileOptions)
    (format : Format) :
    (step.apply options).text.formats.get? format =
      flagged ((step.value? format).or (options.text.formats.get? format))
        (if format = .es6 then step.mixed? else none) := by
  cases step with
  | onlyLabel name => exact absurd rfl (h name)
  | label | includeCore => split <;> rfl
  | mixedImports mixed =>
    split
    · next hformat =>
      rw [hformat]
      exact Options.get?_es6_withMixedImports options.text mixed
    · next hformat => exact Options.get?_withMixedImports_of_ne hformat options.text mixed
  | format target value =>
    have hflag : (if format = .es6 then (OptionsStep.format target value).mixed? else none) =
        none := by
      split <;> rfl
    rw [hflag]
    by_cases htarget : target = format
    · subst htarget
      simp [apply, FileOptions.withFormat, Options.withFormat, value?, flagged]
    · rw [value?, if_neg htarget]
      exact FormatOptions.get?_insert_of_ne (Ne.symm htarget) options.text.formats value

/-! ## Changes to different settings -/

/-- What a change can be about. -/
inductive Setting where
  | label
  | includeCore
  | core
  | format (format : Format)
  deriving DecidableEq, Repr

def touches : OptionsStep → Setting → Prop
  | .label _, setting => setting = .label
  | .mixedImports _, setting => setting = .format .es6
  | .includeCore _, setting => setting = .includeCore
  | .format target _, setting => setting = .format target
  | .onlyLabel _, _ => True

/-- Two changes that no setting has in common. -/
def Apart (first second : OptionsStep) : Prop :=
  ∀ setting, ¬(first.touches setting ∧ second.touches setting)

theorem exists_touches (step : OptionsStep) : ∃ setting, step.touches setting := by
  cases step with
  | onlyLabel => exact ⟨.label, trivial⟩
  | _ => exact ⟨_, rfl⟩

theorem Apart.ne_onlyLabel {first second : OptionsStep} (h : first.Apart second) (name : String) :
    first ≠ .onlyLabel name ∧ second ≠ .onlyLabel name := by
  constructor
  · rintro rfl
    obtain ⟨setting, hsecond⟩ := second.exists_touches
    exact h setting ⟨trivial, hsecond⟩
  · rintro rfl
    obtain ⟨setting, hfirst⟩ := first.exists_touches
    exact h setting ⟨hfirst, trivial⟩

theorem withMixedImports_withFormat {format : Format} (h : format ≠ .es6) (options : FileOptions)
    (mixed : Bool) (value : Json) :
    (options.withMixedImports mixed).withFormat format value =
      (options.withFormat format value).withMixedImports mixed := by
  have hes6 : (options.text.formats.insert format value).get? .es6 =
      options.text.formats.get? .es6 := FormatOptions.get?_insert_of_ne h.symm _ _
  unfold FileOptions.withMixedImports FileOptions.withFormat Options.withMixedImports
    Options.withFormat
  simp only [hes6, FormatOptions.insert_comm h]

theorem withFormat_withFormat {format other : Format} (h : format ≠ other) (options : FileOptions)
    (value value' : Json) :
    (options.withFormat format value).withFormat other value' =
      (options.withFormat other value').withFormat format value := by
  unfold FileOptions.withFormat Options.withFormat
  simp only [FormatOptions.insert_comm h]

theorem apply_apply_of_apart {first second : OptionsStep} (h : first.Apart second)
    (options : FileOptions) :
    second.apply (first.apply options) = first.apply (second.apply options) := by
  have hne (format : Format) (hfirst : first.touches (.format format)) :
      ¬second.touches (.format format) := fun hsecond => h _ ⟨hfirst, hsecond⟩
  cases first with
  | onlyLabel name => exact absurd rfl (h.ne_onlyLabel name).1
  | label name =>
    cases second with
    | onlyLabel name => exact absurd rfl (h.ne_onlyLabel name).2
    | label => exact absurd ⟨rfl, rfl⟩ (h .label)
    | _ => rfl
  | includeCore keep =>
    cases second with
    | onlyLabel name => exact absurd rfl (h.ne_onlyLabel name).2
    | includeCore => exact absurd ⟨rfl, rfl⟩ (h .includeCore)
    | _ => rfl
  | mixedImports mixed =>
    cases second with
    | onlyLabel name => exact absurd rfl (h.ne_onlyLabel name).2
    | mixedImports => exact absurd rfl (hne .es6 rfl)
    | format target value =>
      have htarget : target ≠ .es6 := by
        rintro rfl
        exact hne .es6 rfl rfl
      exact withMixedImports_withFormat htarget options mixed value
    | _ => rfl
  | format target value =>
    cases second with
    | onlyLabel name => exact absurd rfl (h.ne_onlyLabel name).2
    | mixedImports mixed =>
      have htarget : target ≠ .es6 := by
        rintro rfl
        exact hne .es6 rfl rfl
      exact (withMixedImports_withFormat htarget options mixed value).symm
    | format other value' =>
      have hother : target ≠ other := by
        rintro rfl
        exact hne target rfl rfl
      exact withFormat_withFormat hother options value value'
    | _ => rfl

theorem withMixedImports_withMixedImports (options : FileOptions) (old mixed : Bool) :
    (options.withMixedImports old).withMixedImports mixed = options.withMixedImports mixed := by
  unfold FileOptions.withMixedImports Options.withMixedImports Options.withFormat
  simp only [FormatOptions.get?_insert_self, FormatOptions.insert_insert, Json.setField_setField]

theorem foldl_apply_mixedImports (options : FileOptions) (mixes : List Bool) (mixed : Bool) :
    (mixes.map mixedImports ++ [mixedImports mixed]).foldl apply options =
      (mixedImports mixed).apply options := by
  induction mixes generalizing options with
  | nil => rfl
  | cons old mixes ih =>
    rw [List.map_cons, List.cons_append, List.foldl_cons, ih]
    exact withMixedImports_withMixedImports options old mixed

/-! ## Rows of changes -/

section Rows

variable {steps : List OptionsStep}

theorem ne_onlyLabel_of_concat {step : OptionsStep}
    (h : ∀ name, .onlyLabel name ∉ steps ++ [step]) :
    (∀ name, .onlyLabel name ∉ steps) ∧ ∀ name, step ≠ .onlyLabel name := by
  refine ⟨fun name hname => h name (by simp [hname]), ?_⟩
  rintro name rfl
  exact h name (by simp)

/-- A setting that each change either sets or keeps is as the last of them has set it. -/
theorem view_foldl_apply (view : FileOptions → Option α) (sets? : OptionsStep → Option α)
    (hstep : ∀ step : OptionsStep, (∀ name, step ≠ .onlyLabel name) →
      ∀ options, view (step.apply options) = (sets? step).or (view options))
    (h : ∀ name, .onlyLabel name ∉ steps) (options : FileOptions) :
    view (steps.foldl apply options) = (last? sets? steps).or (view options) := by
  induction steps using List.reverseRecOn with
  | nil => rfl
  | append_singleton steps step ih =>
    obtain ⟨hfront, hlast⟩ := ne_onlyLabel_of_concat h
    rw [List.foldl_append, List.foldl_cons, List.foldl_nil, hstep step hlast, ih hfront,
      last?_concat, Option.or_assoc]

theorem label_foldl_apply (h : ∀ name, .onlyLabel name ∉ steps) (options : FileOptions) :
    (steps.foldl apply options).text.label = (last? label? steps).or options.text.label :=
  view_foldl_apply (·.text.label) label? (fun _ => label_apply) h options

theorem includeCore_foldl_apply (h : ∀ name, .onlyLabel name ∉ steps) (options : FileOptions) :
    (steps.foldl apply options).includeCore =
      (last? includeCore? steps).getD options.includeCore := by
  have hview := view_foldl_apply (some ·.includeCore) includeCore? (fun _ => includeCore_apply) h
    options
  rw [Option.or_some] at hview
  exact Option.some.inj hview

theorem core_foldl_apply (h : ∀ name, .onlyLabel name ∉ steps) (options : FileOptions) :
    (steps.foldl apply options).core = options.core := by
  have hstep (step : OptionsStep) (hne : ∀ name, step ≠ .onlyLabel name)
      (options : FileOptions) :
      some (step.apply options).core = (none : Option CoreTable).or (some options.core) :=
    congrArg some (core_apply hne options)
  have hview := view_foldl_apply (some ·.core) (fun _ => none) hstep h options
  have hnone : last? (fun _ => (none : Option CoreTable)) steps = none := by simp [last?]
  rw [hnone] at hview
  exact Option.some.inj hview

theorem get?_foldl_apply (h : ∀ name, .onlyLabel name ∉ steps) (options : FileOptions)
    (format : Format) :
    (steps.foldl apply options).text.formats.get? format =
      flagged ((last? (value? format) steps).or (options.text.formats.get? format))
        (if format = .es6 then last? mixed? (sinceValue format steps) else none) := by
  induction steps using List.reverseRecOn with
  | nil => split <;> rfl
  | append_singleton steps step ih =>
    obtain ⟨hfront, hlast⟩ := ne_onlyLabel_of_concat h
    rw [List.foldl_append, List.foldl_cons, List.foldl_nil, get?_apply hlast, ih hfront,
      last?_concat]
    cases hvalue : step.value? format with
    | some value =>
      -- A change that gives a value sets no flag, and takes the place of flags before it.
      rw [sinceValue_concat_of_some hvalue, mixed?_of_value? hvalue]
      split <;> rfl
    | none =>
      rw [sinceValue_concat_of_none hvalue, last?_concat]
      split
      · cases hmixed : step.mixed? with
        | none => rfl
        | some mixed => exact flagged_flagged _ _ mixed
      · rfl

end Rows

/-- Every setting is that of the last change to it. Flags for mixed imports that follow the last
value of their format go into that value, and of them the last one counts. So changes that no
setting has in common can change places, and of flags in a row only the last one matters. -/
theorem foldl_apply_settings (options : FileOptions) (steps : List OptionsStep)
    (h : ∀ name, .onlyLabel name ∉ steps) :
    let final := steps.foldl apply options
    let value := (last? (value? .es6) steps).or (options.text.formats.get? .es6)
    let mixed := last? mixed? (sinceValue .es6 steps)
    final.text.label = (last? label? steps).or options.text.label ∧
      final.includeCore = (last? includeCore? steps).getD options.includeCore ∧
      final.core = options.core ∧
      (∀ format, format ≠ .es6 → final.text.formats.get? format =
        (last? (value? format) steps).or (options.text.formats.get? format)) ∧
      (mixed = none → final.text.formats.get? .es6 = value) ∧
      (∀ flag, mixed = some flag →
        final.text.mixedImports = flag ∧
        ∃ fields, final.text.formats.get? .es6 = some (.object fields) ∧
          fields = Json.setField (Json.fieldsOf value) Options.mixedKey (.bool flag) ∧
          ∀ key, fields.lookup key =
            if key = Options.mixedKey then some (.bool flag)
            else (Json.fieldsOf value).lookup key) ∧
      (∀ first second later, first.Apart second →
        (steps ++ first :: second :: later).foldl apply options =
          (steps ++ second :: first :: later).foldl apply options) ∧
      ∀ (flags : List Bool) (flag : Bool) (later : List OptionsStep),
        (steps ++ (flags.map mixedImports ++ [mixedImports flag]) ++ later).foldl apply options =
          (steps ++ mixedImports flag :: later).foldl apply options := by
  intro final value mixed
  have hvalue : final.text.formats.get? .es6 = flagged value mixed :=
    get?_foldl_apply h options .es6
  refine ⟨label_foldl_apply h options, includeCore_foldl_apply h options,
    core_foldl_apply h options, ?_, ?_, ?_, ?_, ?_⟩
  · intro format hformat
    rw [get?_foldl_apply h, if_neg hformat]
    rfl
  · intro hnone
    rw [hvalue, hnone]
    rfl
  · intro flag hflag
    rw [hflag] at hvalue
    refine ⟨?_, _, hvalue, rfl, fun key => Json.lookup_setField _ _ key _⟩
    unfold Options.mixedImports
    rw [hvalue, flagged, Option.bind_some, Json.field?, Json.lookup_setField_self]
    rfl
  · intro first second later hapart
    simp only [List.foldl_append, List.foldl_cons, apply_apply_of_apart hapart]
  · intro flags flag later
    rw [List.foldl_append, List.foldl_append, foldl_apply_mixedImports, List.foldl_append,
      List.foldl_cons]

/-- A flag before a value that is no object, and two flags behind it. -/
theorem foldl_apply_settings_no_object :
    let options : FileOptions := { text := .ofLabel "es6" }
    let steps : List OptionsStep := [.mixedImports true, .format .es6 (.str "all"),
      .mixedImports true, .format .amd .null, .mixedImports false, .label "ts"]
    let final := steps.foldl apply options
    (∀ name, .onlyLabel name ∉ steps) ∧ Apart (.includeCore false) (.label "tsx") ∧
      final.text.label = some "ts" ∧ final.includeCore = true ∧
      final.text.formats.get? .amd = some .null ∧ final.text.mixedImports = false ∧
      final.text.formats.get? .es6 = some (.object [("mixedImports", .bool false)]) ∧
      (steps ++ [includeCore false, label "tsx"]).foldl apply options =
        (steps ++ [label "tsx", includeCore false]).foldl apply options := by
  intro options steps final
  have hsteps (name : String) : .onlyLabel name ∉ steps := by simp [steps]
  have hapart : Apart (.includeCore false) (.label "tsx") := by
    rintro setting ⟨rfl, hlabel⟩
    cases hlabel
  obtain ⟨hlabel, hcore, -, hformats, -, hflag, hswap, -⟩ :=
    foldl_apply_settings options steps hsteps
  obtain ⟨hmixed, fields, hes6, hfields, -⟩ := hflag false rfl
  rw [hfields] at hes6
  exact ⟨hsteps, hapart, hlabel, hcore, hformats .amd (by decide), hmixed, hes6,
    hswap _ _ [] hapart⟩

end OptionsStep

end Requisite
