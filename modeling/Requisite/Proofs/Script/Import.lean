import Requisite.Proofs.Finder.Steps
import Requisite.Proofs.Script.Occurrence

/-!
# Imports by their way

A program has one list of imports, each with the way in which it is written. What is taken
under some rules is the part of that list whose ways the rules admit. So rules that admit more
take more, and in the same order.
-/

namespace Requisite.Script

/-! ## Ways of importing -/

/-- The ways of importing that rules tell apart. -/
inductive ImportWay where
  /-- A declaration that imports, or exports from another module. -/
  | static
  /-- Such a declaration for types only. -/
  | typeStatic
  | dynamic
  | require
  /-- `import a = require('…')`. -/
  | equals
  | typeEquals
  /-- The type `import('…')`. -/
  | type
  deriving DecidableEq, Repr

namespace ImportRules

def admits (rules : ImportRules) : ImportWay → Bool
  | .static => true
  | .typeStatic => !rules.skipTypes
  | .dynamic => !rules.skipDynamic
  | .require => rules.requires
  | .equals => rules.typedForms
  | .typeEquals => rules.typedForms && !rules.skipTypes
  | .type => rules.typedForms && !rules.skipTypes

/-- The modules of the imports that the rules admit. -/
def admitted (rules : ImportRules) (imports : List (ImportWay × String)) : List String :=
  (imports.filter (rules.admits ·.1)).map Prod.snd

theorem admitted_sublist {rules rules' : ImportRules}
    (h : ∀ way, rules.admits way = true → rules'.admits way = true)
    (imports : List (ImportWay × String)) :
    (rules.admitted imports).Sublist (rules'.admitted imports) := by
  apply List.Sublist.map
  exact List.monotone_filter_right imports fun entry => h entry.1

end ImportRules

/-! ## Nodes -/

namespace Node

/-- The module that a node imports under some rules, and the way in which it does. -/
def import? : Node → Option (ImportWay × String)
  | .importDecl typeOnly source _ | .exportFrom typeOnly source _ =>
    source.map (if typeOnly then .typeStatic else .static, ·)
  | .call callee arguments _ =>
    if callee.isImportKeyword then (firstText? arguments).map (.dynamic, ·)
    else if callee.isRequire then (firstText? arguments).map (.require, ·)
    else none
  | .importEquals typeOnly (some source) =>
    source.map (if typeOnly then .typeEquals else .equals, ·)
  | .importType source _ => source.map (.type, ·)
  | _ => none

theorem toList_admitted (rules : ImportRules) (way : ImportWay) (source : Option String) :
    (((source.map (way, ·)).filter (rules.admits ·.1)).map Prod.snd).toList =
      if rules.admits way then source.toList else [] := by
  cases source with
  | none => simp
  | some text => cases h : rules.admits way <;> simp [Option.filter, h]

theorem imported_eq_toList (rules : ImportRules) (node : Node) :
    node.imported rules =
      ((node.import?.filter (rules.admits ·.1)).map Prod.snd).toList := by
  cases node with
  | importDecl typeOnly source | exportFrom typeOnly source =>
    simp only [imported, import?, toList_admitted]
    cases typeOnly <;> cases h : rules.skipTypes <;> simp [ImportRules.admits, h]
  | call callee arguments types =>
    simp only [imported, import?]
    cases callee.isImportKeyword with
    | true =>
      simp only [if_true, toList_admitted]
      cases h : rules.skipDynamic <;> simp [ImportRules.admits, h]
    | false =>
      cases callee.isRequire with
      | true =>
        simp only [Bool.false_eq_true, if_false, if_true, Bool.and_true, toList_admitted]
        rfl
      | false => simp
  | importEquals typeOnly target =>
    cases target with
    | none => rfl
    | some source =>
      simp only [imported, import?, toList_admitted]
      cases typeOnly <;> simp [ImportRules.admits]
  | importType source parts =>
    simp only [imported, import?, toList_admitted]
    rfl
  | _ => rfl

end Node

/-! ## Programs -/

namespace Program

/-- All imports of a program, under whatever rules. -/
def imports (program : Program) : List (ImportWay × String) :=
  (program.reached Node.hasImports).filterMap Node.import?

theorem imports_eq_filterMap (program : Program) :
    program.imports = (program.occurrences.filter (·.above.all Node.hasImports)).filterMap
      (·.node.import?) := by
  rw [imports, reached_eq_filter, List.filterMap_map]
  rfl

theorem imported_eq (program : Program) (rules : ImportRules) :
    program.imported rules = rules.admitted program.imports := by
  calc program.imported rules
      = (program.reached Node.hasImports).flatMap (Node.imported rules) :=
        collect_eq_flatMap program _ _
    _ = (program.reached Node.hasImports).filterMap fun node =>
          (node.import?.filter (rules.admits ·.1)).map Prod.snd := by
        rw [List.filterMap_eq_flatMap_toList]
        exact List.flatMap_congr fun node _ => Node.imported_eq_toList rules node
    _ = rules.admitted program.imports := by
        rw [ImportRules.admitted, imports, List.filter_filterMap, List.map_filterMap]

theorem imported_sublist (program : Program) {rules rules' : ImportRules}
    (h : ∀ way, rules.admits way = true → rules'.admits way = true) :
    (program.imported rules).Sublist (program.imported rules') := by
  rw [imported_eq, imported_eq]
  exact ImportRules.admitted_sublist h program.imports

end Program

/-! ## Finders -/

/-- Whatever the rules, the modules that are taken stand in one list of imports, in its order,
and the finders for imports take theirs from it. The list goes through the nodes of the program
that do not stand in the attributes of an import. So a flag that skips gives a part of the list
without it, required modules only add to it, and what is found without types is a part of what
is found with them. -/
theorem imported_eq_admitted (program : Program) :
    program.imports = (program.occurrences.filter (·.above.all Node.hasImports)).filterMap
      (·.node.import?) ∧
    (∀ rules, program.imported rules = rules.admitted program.imports) ∧
    (∀ options, Finder.es6.find (.program program) options =
      (Finder.es6.fields options).map fun fields =>
        { dependencies := (Finder.es6.importRules fields).admitted program.imports }) ∧
    (∀ markup options, (Finder.typed markup).find (.program program) options =
      ((Finder.typed markup).fields options).map fun fields =>
        { dependencies :=
            ((Finder.typed markup).importRules fields).admitted program.imports }) ∧
    (∀ rules, (program.imported { rules with skipTypes := true }).Sublist
      (program.imported rules)) ∧
    (∀ rules, (program.imported { rules with skipDynamic := true }).Sublist
      (program.imported rules)) ∧
    (∀ rules, (program.imported rules).Sublist
      (program.imported { rules with requires := true })) ∧
    ∀ rules : ImportRules,
      (program.imported { rules with requires := false, typedForms := false }).Sublist
        (program.imported { rules with typedForms := true }) := by
  refine ⟨program.imports_eq_filterMap, program.imported_eq, ?_, ?_,
    fun _ => program.imported_sublist ?_, fun _ => program.imported_sublist ?_,
    fun _ => program.imported_sublist ?_, fun _ => program.imported_sublist ?_⟩
  · intro options
    rw [Finder.find_program_of_isSingle rfl]
    simp only [Finder.listed, Program.imported_eq]
  · intro markup options
    rw [Finder.find_program_of_isSingle rfl]
    simp only [Finder.listed, Program.imported_eq]
  -- What is left is to compare the rules, way by way.
  all_goals
    intro way
    cases way <;> simp [ImportRules.admits]

end Requisite.Script
