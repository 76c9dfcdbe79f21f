import Requisite.Proofs.Extraction.MixedImports
import Requisite.Proofs.Script.Evidence
import Requisite.Proofs.Script.Import

/-!
# Static imports

A module that is imported by a declaration is never lost: the declaration decides the format of
its program, and the finder of that format lists the module.
-/

namespace Requisite

namespace Script

/-! ## Declarations decide -/

/-- The rules for plain programs that leave out dynamic imports. -/
def ImportRules.static (skipTypes : Bool) : ImportRules := { skipTypes, skipDynamic := true }

theorem Node.isModuleDecl_of_mem_imported {skipTypes : Bool} {node : Node} {name : String}
    (h : name ∈ node.imported (.static skipTypes)) : node.isModuleDecl = true := by
  cases node with
  | importDecl | exportFrom | importEquals => rfl
  | call callee =>
    -- a call imports dynamically or requires, and these rules admit neither
    simp [imported, ImportRules.static] at h
  | importType => simp [imported, ImportRules.static] at h
  | _ => simp [imported] at h

namespace Program

theorem format?_of_isModuleDecl {program : Program} {node : Node} (hnode : node ∈ program.nodes)
    (hdecl : node.isModuleDecl = true) : program.format? = some .es6 := by
  have hany : program.nodes.any Node.isModuleDecl = true :=
    List.any_eq_true.mpr ⟨node, hnode, hdecl⟩
  rw [format?, evidence_eq_adding]
  simp [Evidence.format?, Evidence.adding, hany]

theorem format?_of_static_ne_nil {program : Program} {skipTypes : Bool}
    (h : program.imported (.static skipTypes) ≠ []) : program.format? = some .es6 := by
  obtain ⟨name, hname⟩ := List.exists_mem_of_ne_nil _ h
  rw [imported, collect_eq_flatMap, List.mem_flatMap] at hname
  obtain ⟨node, hnode, hname⟩ := hname
  -- imports are looked for in a part of the tree, evidence in all of it
  exact format?_of_isModuleDecl (mem_nodes_of_mem_reached hnode)
    (Node.isModuleDecl_of_mem_imported hname)

theorem static_sublist (program : Program) (skipTypes : Bool) :
    (program.imported (.static skipTypes)).Sublist (program.imported {}) := by
  apply program.imported_sublist
  intro way
  cases way <;> simp [ImportRules.admits, ImportRules.static]

end Program

end Script

/-! ## Declarations are found -/

theorem Finder.es6_find_static {options : Option Json}
    (hflag : isOn (Json.fieldsOf options) "skipAsyncImports" = true)
    (hflaw : es6.flaw? options = none) (program : Script.Program) :
    es6.find (.program program) options = .ok {
      dependencies :=
        program.imported (.static (isOn (Json.fieldsOf options) "skipTypeImports")) } := by
  rw [find_program_of_isSingle rfl, fields_eq, hflaw]
  simp only [Except.map, listed, importRules, hflag]
  rfl

theorem Content.subject?_of_program? {content : Content} {program : Script.Program}
    (h : content.program? none = some program) :
    content.subject? none = some ⟨program.format?, .program program⟩ := by
  cases content with
  | program parsed =>
    cases h
    rfl
  | text source =>
    have hparse : Script.parseSource? source = some program := h
    simp only [subject?, hparse, Option.map_some]

/-- Options that say nothing, or only whether imports are mixed. -/
def defaultOptions : List Options :=
  [{}, ({} : Options).withMixedImports false, ({} : Options).withMixedImports true]

theorem Subject.found_of_mem_defaultOptions {options : Options} (h : options ∈ defaultOptions)
    (program : Script.Program) :
    ∃ more, found ⟨some .es6, .program program⟩ options =
      .ok { dependencies := program.imported {} ++ more } := by
  simp only [defaultOptions, List.mem_cons, List.not_mem_nil, or_false] at h
  rcases h with rfl | rfl | rfl
  · refine ⟨[], ?_⟩
    rw [List.append_nil]
    rfl
  · refine ⟨[], ?_⟩
    rw [found_withMixedImports, List.append_nil]
    rfl
  · refine ⟨program.required, ?_⟩
    rw [found_withMixedImports]
    rfl

/-- What a finder lists with dynamic imports left out decides the format as soon as there is any
of it, and an extraction without a label then lists all of it. Where the format is another one
there is none. -/
theorem extract_of_static_imports {options : Option Json}
    (hflag : Finder.isOn (Json.fieldsOf options) "skipAsyncImports" = true)
    (hflaw : Finder.es6.flaw? options = none) (program : Script.Program) :
    ∃ static, Finder.es6.find (.program program) options = .ok { dependencies := static } ∧
      (static ≠ [] → program.format? = some .es6 ∧
        ∀ content : Content, content.program? none = some program →
        ∀ plain ∈ defaultOptions, ∀ slot,
          ∃ dependencies, ((extract content plain).run slot).1 =
              .ok ⟨dependencies, some .es6, some (.program program)⟩ ∧
            static.Sublist dependencies) ∧
      (program.format? ≠ some .es6 → static = []) := by
  refine ⟨_, Finder.es6_find_static hflag hflaw program, ?_, ?_⟩
  · intro hstatic
    have hformat := Script.Program.format?_of_static_ne_nil hstatic
    refine ⟨hformat, ?_⟩
    intro content hcontent plain hplain slot
    have hlabel : plain.label = none := by
      simp only [defaultOptions, List.mem_cons, List.not_mem_nil, or_false] at hplain
      rcases hplain with rfl | rfl | rfl <;> rfl
    obtain ⟨more, hfound⟩ := Subject.found_of_mem_defaultOptions hplain program
    refine ⟨program.imported {} ++ more, ?_, ?_⟩
    · rw [Content.run_extract]
      simp only [Content.outcome, hlabel, Content.subject?_of_program? hcontent, hformat,
        Subject.extraction, hfound]
      rfl
    · exact (program.static_sublist _).trans (List.sublist_append_left _ more)
  · intro hformat
    by_contra hstatic
    exact hformat (Script.Program.format?_of_static_ne_nil hstatic)

/-- An import inside a namespace, next to calls that speak for two other formats. -/
theorem extract_of_static_imports_namespace :
    let source := "define(['./d'], 1); namespace N \x7b export * from './a'; \x7d require('./b');"
    let options := some (Json.object [("skipAsyncImports", .bool true)])
    ∃ program, Script.parseSource? source = some program ∧
      Finder.isOn (Json.fieldsOf options) "skipAsyncImports" = true ∧
      Finder.es6.flaw? options = none ∧
      Finder.es6.find (.program program) options = .ok { dependencies := ["./a"] } ∧
      program.format? = some .es6 ∧
      ∀ plain ∈ defaultOptions, ∃ dependencies,
        ((extract (.text source) plain).run none).1 =
            .ok ⟨dependencies, some .es6, some (.program program)⟩ ∧
          ["./a"].Sublist dependencies := by
  have hsome : (Script.parseSource?
      "define(['./d'], 1); namespace N \x7b export * from './a'; \x7d require('./b');").map
        (·.imported (.static false)) = some ["./a"] := by
    decide +kernel
  obtain ⟨program, hparse, hstatic⟩ := Option.map_eq_some_iff.mp hsome
  intro source options
  have hflag : Finder.isOn (Json.fieldsOf options) "skipAsyncImports" = true := by decide
  have hflaw : Finder.es6.flaw? options = none := by decide
  obtain ⟨static, hfind, hfound, -⟩ := extract_of_static_imports hflag hflaw program
  have hlist : static = ["./a"] := by
    rw [Finder.es6_find_static hflag hflaw] at hfind
    cases hfind
    exact hstatic
  subst hlist
  obtain ⟨hformat, hextract⟩ := hfound (by simp)
  exact ⟨program, hparse, hflag, hflaw, hfind, hformat,
    fun plain hplain => hextract (.text source) hparse plain hplain none⟩

end Requisite
