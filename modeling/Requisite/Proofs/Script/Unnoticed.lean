import Requisite.Proofs.Extraction.Outcome
import Requisite.Proofs.Script.Evidence

/-!
# Programs without a format

A program that gives no format away imports nothing, but it may require modules: two kinds of
calls require a module and are evidence of nothing. Nothing else is lost.
-/

namespace Requisite.Script

/-! ## Calls that are evidence of nothing -/

namespace Node

def isMainRequire : Node → Bool
  | .member (.member (.ident root) (.propName branch)) (.propName leaf) =>
    root == "require" && branch == "main" && leaf == "require"
  | _ => false

theorem isRequire_member (object property : Node) :
    (member object property).isRequire = (member object property).isMainRequire := by
  unfold isMainRequire
  split
  · next h => rw [h]; rfl
  · next h =>
    unfold isRequire
    split <;> simp_all

/-- The module that a node requires unnoticed: by `require.main.require`, or by `require` with
an array among its arguments. -/
def unnoticed? : Node → Option String
  | .call (.ident name) arguments _ =>
    if name == "require" && (firstArray? arguments).isSome then firstText? arguments else none
  | .call callee arguments _ => if callee.isMainRequire then firstText? arguments else none
  | _ => none

theorem required_eq_unnoticed? {node : Node} (h : node.isPlainRequire = false) :
    node.required = node.unnoticed?.toList := by
  cases node with
  | call callee arguments types =>
    cases callee with
    | ident name =>
      simp only [isPlainRequire, Bool.and_eq_false_iff] at h
      simp only [required, unnoticed?, isRequire]
      rcases h with h | h
      · simp [h]
      · cases hlist : firstArray? arguments with
        | none => simp [hlist] at h
        | some elements => by_cases hname : name = "require" <;> simp [hname]
    | member object property =>
      simp only [required, unnoticed?, isRequire_member]
      split <;> rfl
    | _ => rfl
  | _ => rfl

theorem imported_eq_nil {node : Node} (hdecl : node.isModuleDecl = false)
    (hdynamic : node.isDynamicImport = false) : node.imported {} = [] := by
  cases node with
  | importDecl | exportFrom => simp [isModuleDecl] at hdecl
  | call callee arguments types =>
    simp only [isDynamicImport] at hdynamic
    simp [imported, hdynamic]
  | importEquals typeOnly target => cases target <;> rfl
  | _ => rfl

end Node

/-! ## Programs -/

namespace Program

def unnoticed (program : Program) : List String := program.nodes.filterMap Node.unnoticed?

theorem required_of_no_format {program : Program} (h : program.format? = none) :
    program.required = program.unnoticed := by
  have hnodes := ((format?_eq_none_iff program).mp h).1
  rw [required, collect_eq_flatMap, unnoticed, List.filterMap_eq_flatMap_toList]
  apply List.flatMap_congr
  intro node hnode
  exact Node.required_eq_unnoticed? (hnodes node hnode).2.2.1

theorem imported_of_no_format {program : Program} (h : program.format? = none) :
    program.imported {} = [] := by
  have hnodes := ((format?_eq_none_iff program).mp h).1
  rw [imported, collect_eq_flatMap, List.flatMap_eq_nil_iff]
  intro node hnode
  obtain ⟨hdecl, -, -, -, hdynamic⟩ := hnodes node (mem_nodes_of_mem_reached hnode)
  exact Node.imported_eq_nil hdecl hdynamic

end Program

/-- What is there to be found in a program in which no format can be found out. -/
theorem find_of_no_format {program : Program} (h : program.format? = none) :
    (∀ formats slot, ((extract (.program program) ⟨none, formats⟩).run slot).1 =
      .ok ⟨[], none, some (.program program)⟩) ∧
    Finder.es6.find (.program program) none = .ok {} ∧
    (∀ options, Finder.commonJs.find (.program program) options =
      .ok { dependencies := program.unnoticed }) ∧
    Finder.mixed.find (.program program) none = .ok { dependencies := program.unnoticed } ∧
    (program.unnoticed = [] ↔ ∀ node ∈ program.nodes, node.unnoticed? = none) := by
  have hrequired := Program.required_of_no_format h
  have himported := Program.imported_of_no_format h
  refine ⟨?_, ?_, ?_, ?_, ?_⟩
  · intro formats slot
    rw [Content.run_extract]
    simp only [Content.outcome, Content.subject?, formatOfProgram?, h]
    rfl
  · change Except.ok (Finder.Finding.mk (program.imported {}) none) = _
    rw [himported]
  · intro options
    change Except.ok (Finder.Finding.mk program.required none) = _
    rw [hrequired]
  · change Except.ok (Finder.Finding.mk (program.imported {} ++ program.required) none) = _
    rw [himported, hrequired, List.nil_append]
  · exact List.filterMap_eq_nil_iff

/-- A program with both kinds of calls: its modules are there, and extraction gives none. -/
theorem find_of_both_unnoticed :
    ∃ program, parseSource? "require.main.require('./b'); () => require('./a', ['./c']);" =
        some program ∧ program.format? = none ∧
      ((extract (.program program) {}).run none).1 = .ok ⟨[], none, some (.program program)⟩ ∧
      Finder.es6.find (.program program) none = .ok {} ∧
      Finder.commonJs.find (.program program) none = .ok { dependencies := ["./b", "./a"] } ∧
      Finder.mixed.find (.program program) none = .ok { dependencies := ["./b", "./a"] } := by
  have hsome : (parseSource? "require.main.require('./b'); () => require('./a', ['./c']);").map
      (fun program => (program.format?, program.unnoticed)) = some (none, ["./b", "./a"]) := by
    decide +kernel
  obtain ⟨program, hparse, hprogram⟩ := Option.map_eq_some_iff.mp hsome
  obtain ⟨hformat, hunnoticed⟩ := Prod.mk.inj hprogram
  have hfind := find_of_no_format hformat
  rw [hunnoticed] at hfind
  exact ⟨program, hparse, hformat, hfind.1 .empty none, hfind.2.1, hfind.2.2.1 none,
    hfind.2.2.2.1⟩

end Requisite.Script
