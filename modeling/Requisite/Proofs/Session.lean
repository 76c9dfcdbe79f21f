import Requisite.Proofs.Extraction.Outcome
import Requisite.Session

/-!
# What a session remembers

The last call that extracts decides alone, whatever came before it. Calls that extract
nothing, and files that cannot be read, leave the tree as it was.
-/

namespace Requisite

open Script (parseSource?)

namespace Call

/-- The extraction that a call comes down to, if its file can be read. -/
def extraction? : Call → Option (Content × Options)
  | .extract content options => some (content, options)
  | .extractFile files path options =>
    match files.read path with
    | .ok text => some (.text text, options.textFor path)
    | .error _ => none
  | .find .. | .parse .. | .parseSource _ | .format _ | .stylesheet .. => none

def leaves (call : Call) (slot : Option Tree) : Option Tree :=
  match call.extraction? with
  | some (content, options) => content.leaves options (content.outcome options)
  | none => slot

theorem run_run_snd (call : Call) (slot : Option Tree) :
    (call.run.run slot).2 = call.leaves slot := by
  cases call with
  | extract content options =>
    change ((Requisite.extract content options).run slot).2 = _
    rw [Content.run_extract]
    rfl
  | extractFile files path options =>
    change ((Requisite.extractFile files path options).run slot).2 = _
    cases hread : files.read path with
    | error cause =>
      rw [run_extractFile_of_error hread]
      simp only [leaves, extraction?, hread]
    | ok text =>
      rw [run_extractFile_of_ok hread]
      simp only [leaves, extraction?, hread]
  | find | parse | parseSource | format | stylesheet => rfl

end Call

theorem run_mapM_snd (calls : List Call) (slot : Option Tree) :
    ((calls.mapM Call.run).run slot).2 = calls.foldl (fun slot call => call.leaves slot) slot := by
  induction calls generalizing slot with
  | nil => rfl
  | cons call calls ih =>
    rw [List.mapM_cons, List.foldl_cons, ← ih, ← Call.run_run_snd]
    rfl

theorem foldl_leaves (calls : List Call) (slot : Option Tree) :
    calls.foldl (fun slot call => call.leaves slot) slot =
      match (calls.filterMap Call.extraction?).getLast? with
      | none => slot
      | some (content, options) => content.leaves options (content.outcome options) := by
  induction calls generalizing slot with
  | nil => rfl
  | cons call calls ih =>
    rw [List.foldl_cons, ih, List.filterMap_cons, Call.leaves]
    cases call.extraction? with
    | none => rfl
    | some asked =>
      -- A later extraction hides this one.
      rw [List.getLast?_cons]
      cases (calls.filterMap Call.extraction?).getLast? <;> rfl

/-! ## Contents without a format -/

variable {label : String}

theorem run_extract_of_unparsed {source : String} {options : Options}
    (hopen : options.label = none) (hparse : parseSource? source = none) (slot : Option Tree) :
    (extract (.text source) options).run slot = (.ok {}, none) := by
  have houtcome : (Content.text source).outcome options = .ok {} := by
    simp only [Content.outcome, Content.subject?, hopen, hparse, Option.map_none]
  rw [Content.run_extract, houtcome]
  rfl

theorem run_extract_text_of_unknown (hlabel : Format.ofLabel? label = none) (source : String)
    (options : Options) (slot : Option Tree) :
    (extract (.text source) (options.withLabel label)).run slot = (.ok {}, none) := by
  have houtcome : (Content.text source).outcome (options.withLabel label) = .ok {} := by
    simp only [Content.outcome, Content.subject?, Options.withLabel, hlabel]
    rfl
  rw [Content.run_extract, houtcome]
  rfl

/-- A program is remembered whatever its label says. -/
theorem run_extract_program_of_unknown (hlabel : Format.ofLabel? label = none)
    (program : Script.Program) (options : Options) (slot : Option Tree) :
    (extract (.program program) (options.withLabel label)).run slot =
      (.ok { tree := some (.program program) }, some (.program program)) := by
  have houtcome : (Content.program program).outcome (options.withLabel label) =
      .ok { tree := some (.program program) } := by
    simp only [Content.outcome, Content.subject?, formatOfProgram?, Options.withLabel, hlabel]
    rfl
  rw [Content.run_extract, houtcome]
  rfl

/-! ## Whole sessions -/

/-- The slot after a session. `other` stands for whatever the last extraction found in the
slot, which makes no difference. A text that tells no format leaves nothing, but a program is
there in any case. -/
theorem slot_after_calls (calls : List Call) (slot other : Option Tree) :
    ((calls.mapM Call.run).run slot).2 =
      (match (calls.filterMap Call.extraction?).getLast? with
      | none => slot
      | some (content, options) =>
        content.leaves options ((extract content options).run other).1) ∧
    (∀ source options, options.label = none → parseSource? source = none →
      (extract (.text source) options).run other = (.ok {}, none)) ∧
    (∀ source (options : Options) label, Format.ofLabel? label = none →
      (extract (.text source) (options.withLabel label)).run other = (.ok {}, none)) ∧
    ∀ program (options : Options) label, Format.ofLabel? label = none →
      (extract (.program program) (options.withLabel label)).run other =
        (.ok { tree := some (.program program) }, some (.program program)) := by
  refine ⟨?_, ?_, ?_, ?_⟩
  · rw [run_mapM_snd, foldl_leaves]
    simp only [Content.run_extract]
  · intro source options hopen hparse
    exact run_extract_of_unparsed hopen hparse other
  · intro source options label hlabel
    exact run_extract_text_of_unknown hlabel source options other
  · intro program options label hlabel
    exact run_extract_program_of_unknown hlabel program options other

/-- A broken text makes the session forget, and a missing file after it changes nothing. -/
theorem slot_after_broken_text :
    let calls : List Call := [.extract (.text "import './a'") {}, .extract (.text "import (") {},
      .extractFile (.ofFiles [] []) "b.css" {}, .parseSource "require('./c')"]
    let slot := some (Tree.stylesheet (.ofText .css "@import 'd';"))
    let program : Script.Program := ⟨.script, []⟩
    ((calls.mapM Call.run).run slot).2 = none ∧ Format.ofLabel? "html" = none ∧
      (extract (.text "import './a'") (({} : Options).withLabel "html")).run slot =
        (.ok {}, none) ∧
      (extract (.program program) (({} : Options).withLabel "html")).run slot =
        (.ok { tree := some (.program program) }, some (.program program)) := by
  intro calls slot program
  obtain ⟨hslot, hbroken, htext, hprogram⟩ := slot_after_calls calls slot slot
  have hparse : parseSource? "import (" = none := by decide +kernel
  have hunknown : Format.ofLabel? "html" = none := by decide +kernel
  have hlast : (calls.filterMap Call.extraction?).getLast? = some (.text "import (", {}) := rfl
  refine ⟨?_, hunknown, htext _ _ _ hunknown, hprogram _ _ _ hunknown⟩
  simp only [hslot, hlast]
  rw [hbroken _ _ rfl hparse]
  rfl

/-- An unknown label does not empty the slot: where a program was given, it is left there. -/
theorem slot_kept_by_unknown_label :
    (∃ program, parseSource? "import './a'" = some program ∧ Format.ofLabel? "html" = none ∧
      (extract (.program program) (.ofLabel "html")).run none =
        (.ok { tree := some (.program program) }, some (.program program))) ∧
    ¬∀ (content : Content) (options : Options) (label : String) (slot : Option Tree),
      Format.ofLabel? label = none →
        ((extract content (options.withLabel label)).run slot).2 = none := by
  have hunknown : Format.ofLabel? "html" = none := by decide +kernel
  have hsome : (parseSource? "import './a'").isSome = true := by decide +kernel
  obtain ⟨program, hparse⟩ := Option.isSome_iff_exists.mp hsome
  have hrun := run_extract_program_of_unknown hunknown program {} none
  refine ⟨⟨program, hparse, hunknown, hrun⟩, ?_⟩
  intro hempty
  have hslot := hempty (.program program) {} "html" none hunknown
  rw [hrun] at hslot
  cases hslot

end Requisite
