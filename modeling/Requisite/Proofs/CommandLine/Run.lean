import Requisite.CommandLine.Run
import Requisite.Proofs.Extraction.Failure

/-!
# What a run lists

A run reads, extracts and leaves out core modules on its own. If its label is the one that the
name of the file gives, it lists what the extraction from that file answers, and takes every
error of a finder for an empty list.
-/

namespace Requisite

/-- The dependencies that options let through. -/
def FileOptions.kept (options : FileOptions) (dependencies : List String) : List String :=
  if options.includeCore then dependencies else options.core.withoutCore dependencies

theorem FileOptions.kept_nil (options : FileOptions) : options.kept [] = [] := by
  unfold kept CoreTable.withoutCore
  split <;> rfl

namespace CommandLine

/-! ## Options -/

theorem Arguments.label_override (arguments : Arguments) (options : FileOptions) :
    (arguments.override options).text.label = arguments.label.or options.text.label := by
  unfold override
  cases arguments.mixedImports <;> cases arguments.label <;> cases arguments.excludeCore <;> rfl

theorem Arguments.options_of_config {arguments : Arguments} {files : FileSystem}
    (hconfig : ∀ path, arguments.config = some path →
      ∃ loaded, loadConfig files path = .ok loaded) :
    ∃ loaded, arguments.options files = .ok (arguments.override loaded) := by
  unfold options
  cases hpath : arguments.config with
  | none => exact ⟨{}, rfl⟩
  | some path =>
    obtain ⟨loaded, hloaded⟩ := hconfig path hpath
    refine ⟨loaded, ?_⟩
    simp only [hloaded]
    rfl

theorem Arguments.textFor_override {arguments : Arguments}
    (hlabel : arguments.label = labelOfPath? arguments.file) (options : FileOptions) :
    (arguments.override options).textFor arguments.file = (arguments.override options).text := by
  have hsame := arguments.label_override options
  rw [hlabel] at hsame
  unfold FileOptions.textFor
  cases hpath : labelOfPath? arguments.file with
  | none => rfl
  | some label =>
    rw [hpath, Option.some_or] at hsame
    exact Options.ext hsame.symm rfl

/-! ## Runs -/

/-- What a run lists where an extraction from its file has a certain answer. -/
def listed : Except Error (List String) → Except Failure (List String)
  | .ok dependencies => .ok dependencies
  | .error (.unreadable path cause) => .error (.unreadable path cause)
  | .error (.unparsed _) | .error (.needsText _) | .error (.badOptions _ _) => .ok []

/-- The dependencies of an answer. An error has none. -/
def found : Except Error Extraction → List String
  | .ok extraction => extraction.dependencies
  | .error _ => []

theorem run_of_unreadable {files : FileSystem} {arguments : Arguments} {options : FileOptions}
    {cause : ReadError} (hoptions : arguments.options files = .ok options)
    (hread : files.read arguments.file = .error cause) :
    run files arguments = .error (.unreadable arguments.file cause) := by
  unfold run
  rw [hoptions, hread]
  rfl

theorem run_of_readable {files : FileSystem} {arguments : Arguments} {options : FileOptions}
    {text : String} (hoptions : arguments.options files = .ok options)
    (hread : files.read arguments.file = .ok text) :
    (run files arguments).map Listing.dependencies =
      .ok (options.kept (found ((Content.text text).outcome options.text))) := by
  have hanswer : (extract (.text text) options.text none).1 =
      (Content.text text).outcome options.text :=
    congrArg Prod.fst (Content.run_extract (.text text) options.text none)
  unfold run
  rw [hoptions, hread]
  simp only [bind, Except.bind, pure, Except.pure, Except.map, hanswer]
  cases (Content.text text).outcome options.text <;> rfl

theorem listed_of_refuses {finder : Finder} {content : Content} {options : Option Json}
    {error : Error} (h : finder.Refuses content options error) :
    listed (.error error) = .ok [] := by
  -- A finder has its content already, so that it never reports an unreadable file.
  cases h <;> rfl

theorem listed_outcome (content : Content) (options : Options) (fileOptions : FileOptions) :
    listed ((content.outcome options).map fun extraction =>
        fileOptions.kept extraction.dependencies) =
      .ok (fileOptions.kept (found (content.outcome options))) := by
  cases houtcome : content.outcome options with
  | ok extraction => rfl
  | error error =>
    obtain ⟨finder, -, hfind⟩ := (Content.outcome_eq_error_iff content options error).mp houtcome
    have hrefuses := (Finder.find_eq_error_iff finder _ _ error).mp hfind
    change listed (.error error) = .ok (fileOptions.kept [])
    rw [listed_of_refuses hrefuses, FileOptions.kept_nil]

/-- A run whose label is that of its file, and whose configuration can be loaded, lists what an
extraction from the file answers under the same options. -/
theorem run_eq_listed_extractFile {files : FileSystem} {arguments : Arguments}
    (hlabel : arguments.label = labelOfPath? arguments.file)
    (hconfig : ∀ path, arguments.config = some path →
      ∃ loaded, loadConfig files path = .ok loaded) :
    ∃ options, arguments.options files = .ok options ∧
      ∀ slot, (run files arguments).map Listing.dependencies =
        listed ((extractFile files arguments.file options).run slot).1 := by
  obtain ⟨loaded, hoptions⟩ := Arguments.options_of_config hconfig
  refine ⟨arguments.override loaded, hoptions, ?_⟩
  intro slot
  cases hread : files.read arguments.file with
  | error cause =>
    rw [run_of_unreadable hoptions hread, run_extractFile_of_error hread]
    rfl
  | ok text =>
    rw [run_of_readable hoptions hread, run_extractFile_of_ok hread,
      Arguments.textFor_override hlabel]
    exact (listed_outcome _ _ _).symm

/-- A configuration with another label and with options that a finder refuses. -/
theorem run_eq_listed_extractFile_refused :
    let files := FileSystem.ofFiles [("a.cjs", "require('fs')"),
      ("c.json", "\x7b\"type\":\"ts\",\"es6\":\x7b\"skipTypeImports\":1\x7d\x7d")] []
    let arguments : Arguments :=
      { file := "a.cjs", label := some "commonjs", config := some "c.json", mixedImports := true }
    arguments.label = labelOfPath? arguments.file ∧ (loadConfig files "c.json").isOk = true ∧
      ∃ options, arguments.options files = .ok options ∧
        ∀ slot, (run files arguments).map Listing.dependencies =
          listed ((extractFile files arguments.file options).run slot).1 := by
  intro files arguments
  have hlabel : arguments.label = labelOfPath? arguments.file := by decide +kernel
  have hok : (loadConfig files "c.json").isOk = true := by decide +kernel
  refine ⟨hlabel, hok, run_eq_listed_extractFile hlabel ?_⟩
  intro path hpath
  cases hpath
  cases hload : loadConfig files "c.json" with
  | ok loaded => exact ⟨loaded, rfl⟩
  | error failure => simp [hload, Except.isOk, Except.toBool] at hok

end CommandLine

end Requisite
