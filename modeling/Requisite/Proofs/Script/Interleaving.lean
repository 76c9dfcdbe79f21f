import Requisite.Proofs.Script.Decision
import Requisite.Proofs.Script.Import

/-!
# One walk or two

Imported and required modules can be searched for together, by one walk that takes both, or
apart, by one walk for each. On plain programs the single walk finds what the two walks find, one
list woven into the other.
-/

namespace Requisite

/-! ## Interleavings -/

/-- The third list is made of the other two, each in its order: what stands in it can be marked
by the list that it comes from. -/
def Interleaves {α : Type} (first second both : List α) : Prop :=
  ∃ marked : List (Bool × α), first = (marked.filter (!·.1)).map Prod.snd ∧
    second = (marked.filter (·.1)).map Prod.snd ∧ both = marked.map Prod.snd

namespace Interleaves

variable {α β : Type} {first second both : List α}

theorem perm (h : Interleaves first second both) : both.Perm (first ++ second) := by
  obtain ⟨marked, rfl, rfl, rfl⟩ := h
  have hparts := List.filter_append_perm (fun mark : Bool × α => !mark.1) marked
  simp only [Bool.not_not] at hparts
  rw [← List.map_append]
  exact hparts.symm.map Prod.snd

theorem sublist (h : Interleaves first second both) :
    first.Sublist both ∧ second.Sublist both := by
  obtain ⟨marked, rfl, rfl, rfl⟩ := h
  exact ⟨List.filter_sublist.map _, List.filter_sublist.map _⟩

theorem of_filter (test : α → Bool) (f : α → β) (both : List α) :
    Interleaves ((both.filter (!test ·)).map f) ((both.filter test).map f) (both.map f) := by
  refine ⟨both.map fun a => (test a, f a), ?_, ?_, ?_⟩ <;>
    simp [List.filter_map, Function.comp_def]

end Interleaves

namespace Script

/-! ## Required modules among the imports -/

namespace Node

def isCall : Node → Bool
  | .call .. => true
  | _ => false

/-- The forms that only programs with types have. -/
def isTypedForm : Node → Bool
  | .importEquals .. | .importType .. => true
  | _ => false

theorem isRequire_eq_false_of_isImportKeyword {node : Node} (h : node.isImportKeyword = true) :
    node.isRequire = false := by
  cases node with
  | group => rfl
  | _ => cases h

/-- The module that a node requires, as one of its imports. -/
def require? (node : Node) : Option String :=
  (node.import?.filter (·.1 == .require)).map Prod.snd

theorem required_eq_require? (node : Node) : node.required = node.require?.toList := by
  unfold require?
  cases node with
  | call callee arguments types =>
    simp only [required, import?]
    cases hkeyword : callee.isImportKeyword with
    | true =>
      rw [isRequire_eq_false_of_isImportKeyword hkeyword]
      cases firstText? arguments <;> rfl
    | false =>
      cases callee.isRequire with
      | true => cases firstText? arguments <;> rfl
      | false => rfl
  | importDecl typeOnly source | exportFrom typeOnly source =>
    cases typeOnly <;> cases source <;> rfl
  | importEquals typeOnly target =>
    cases target with
    | none => rfl
    | some source => cases typeOnly <;> cases source <;> rfl
  | importType source => cases source <;> rfl
  | _ => rfl

theorem require?_eq_none_of_not_isCall {node : Node} (h : node.isCall = false) :
    node.require? = none := by
  have hrequired : node.required = [] := by
    cases node with
    | call => cases h
    | _ => rfl
  rw [required_eq_require?] at hrequired
  simpa using hrequired

theorem way_of_not_isTypedForm {node : Node} {entry : ImportWay × String}
    (hform : node.isTypedForm = false) (h : node.import? = some entry) :
    entry.1 = .static ∨ entry.1 = .typeStatic ∨ entry.1 = .dynamic ∨ entry.1 = .require := by
  cases node with
  | importEquals | importType => cases hform
  | importDecl typeOnly source | exportFrom typeOnly source =>
    obtain ⟨name, -, rfl⟩ := Option.map_eq_some_iff.mp h
    cases typeOnly <;> simp
  | call callee arguments =>
    simp only [import?] at h
    split at h
    · obtain ⟨name, -, rfl⟩ := Option.map_eq_some_iff.mp h
      simp
    · split at h
      · obtain ⟨name, -, rfl⟩ := Option.map_eq_some_iff.mp h
        simp
      · cases h
  | _ => cases h

end Node

/-- The rules that take imported and required modules in one walk. -/
def ImportRules.both (skipTypes skipDynamic : Bool) : ImportRules :=
  { skipTypes, skipDynamic, requires := true, typedForms := true }

namespace Program

/-- Whether a call stands in the attributes of an import, where the walk for imports does not
come. -/
def callsInAttributes (program : Program) : Bool :=
  program.occurrences.any fun occurrence =>
    occurrence.node.isCall && !occurrence.above.all Node.hasImports

theorem required_eq_filterMap (program : Program) :
    program.required = program.nodes.filterMap Node.require? := by
  rw [required, collect_eq_flatMap, List.filterMap_eq_flatMap_toList]
  exact List.flatMap_congr fun node _ => node.required_eq_require?

theorem required_eq_filter_imports {program : Program} (h : program.callsInAttributes = false) :
    program.required = (program.imports.filter (·.1 == .require)).map Prod.snd := by
  rw [required_eq_filterMap, nodes_eq_map, imports, List.filter_filterMap, List.map_filterMap,
    reached_eq_filter, List.filterMap_map, List.filterMap_map, List.filterMap_filter]
  apply List.filterMap_congr
  intro occurrence hmem
  change occurrence.node.require? = if _ then occurrence.node.require? else none
  split
  · rfl
  · next habove =>
    -- what the walk for imports does not reach is no call
    have hcall := List.any_eq_false.mp h occurrence hmem
    apply Node.require?_eq_none_of_not_isCall
    simpa [habove] using hcall

theorem way_of_mem_imports {program : Program} (h : program.has Node.isTypedForm = false)
    {entry : ImportWay × String} (hentry : entry ∈ program.imports) :
    entry.1 = .static ∨ entry.1 = .typeStatic ∨ entry.1 = .dynamic ∨ entry.1 = .require := by
  obtain ⟨node, hnode, himport⟩ := List.mem_filterMap.mp hentry
  refine Node.way_of_not_isTypedForm ?_ himport
  rw [← any_nodes, List.any_eq_false] at h
  simpa using h node (mem_nodes_of_mem_reached hnode)

theorem imported_eq_filter_imports {program : Program}
    (h : program.has Node.isTypedForm = false) (skipTypes skipDynamic : Bool) :
    program.imported { skipTypes, skipDynamic } =
      ((program.imports.filter ((ImportRules.both skipTypes skipDynamic).admits ·.1)).filter
        (!·.1 == .require)).map Prod.snd := by
  rw [imported_eq, ImportRules.admitted, List.filter_filter]
  congr 1
  apply List.filter_congr
  intro entry hentry
  rcases way_of_mem_imports h hentry with hway | hway | hway | hway <;>
    simp [hway, ImportRules.admits, ImportRules.both]

/-- The walk that takes both kinds against the walks that take one kind each. -/
theorem interleaves_imported {program : Program} (htyped : program.has Node.isTypedForm = false)
    (hcalls : program.callsInAttributes = false) (skipTypes skipDynamic : Bool) :
    Interleaves (program.imported { skipTypes, skipDynamic }) program.required
      (program.imported (.both skipTypes skipDynamic)) := by
  have hrequired : program.required =
      ((program.imports.filter ((ImportRules.both skipTypes skipDynamic).admits ·.1)).filter
        (·.1 == .require)).map Prod.snd := by
    rw [required_eq_filter_imports hcalls, List.filter_filter]
    congr 1
    apply List.filter_congr
    intro entry _
    cases hway : entry.1 <;> simp [ImportRules.admits, ImportRules.both]
  rw [imported_eq_filter_imports htyped, hrequired, imported_eq]
  exact .of_filter (fun entry : ImportWay × String => entry.1 == .require) Prod.snd _

end Program

/-! ## Finders -/

/-- The options of a finder that skips as the flags say. -/
def skipFields (skipTypes skipDynamic : Bool) : List (String × Json) :=
  [("skipTypeImports", .bool skipTypes), ("skipAsyncImports", .bool skipDynamic)]

/-- On a program without typed forms, and without calls in the attributes of imports, the finder
for programs with types lists under mixed imports what the mixed finder lists, in the order of
the program: the imported modules and the required ones, woven together. -/
theorem find_typed_interleaves {program : Program} (htyped : program.has Node.isTypedForm = false)
    (hcalls : program.callsInAttributes = false) (skipTypes skipDynamic markup : Bool) :
    let skip := skipFields skipTypes skipDynamic
    ∃ imported required both,
      Finder.es6.find (.program program) (some (.object skip)) =
        .ok { dependencies := imported } ∧
      (∀ options, Finder.commonJs.find (.program program) options =
        .ok { dependencies := required }) ∧
      Finder.mixed.find (.program program) (some (.object skip)) =
        .ok { dependencies := imported ++ required } ∧
      (Finder.typed markup).find (.program program)
          (some (.object (skip ++ [("mixedImports", .bool true)]))) =
        .ok { dependencies := both } ∧
      both.Perm (imported ++ required) ∧ imported.Sublist both ∧ required.Sublist both ∧
      Interleaves imported required both := by
  intro skip
  have hboth := program.interleaves_imported htyped hcalls skipTypes skipDynamic
  refine ⟨_, _, _, ?_, ?_, ?_, ?_, hboth.perm, hboth.sublist.1, hboth.sublist.2, hboth⟩
  · rfl
  · intro options
    rfl
  · rfl
  · rfl

/-- Required modules inside the argument of a dynamic import, and before a declaration. -/
theorem find_typed_interleaves_nested :
    let source := "require('./a'); import(require('./b')); import './c'; require('./d');"
    ∃ program, parse? .typed source = some program ∧
      program.has Node.isTypedForm = false ∧ program.callsInAttributes = false ∧
      Finder.mixed.find (.program program) (some (.object (skipFields true false))) =
        .ok { dependencies := ["./c", "./a", "./b", "./d"] } ∧
      (Finder.typed false).find (.program program)
          (some (.object (skipFields true false ++ [("mixedImports", .bool true)]))) =
        .ok { dependencies := ["./a", "./b", "./c", "./d"] } ∧
      Interleaves ["./c"] ["./a", "./b", "./d"] ["./a", "./b", "./c", "./d"] := by
  have hsome : (parse? .typed
      "require('./a'); import(require('./b')); import './c'; require('./d');").map
        (fun program => (program.has Node.isTypedForm, program.callsInAttributes,
          program.imported { skipTypes := true }, program.required,
          program.imported { skipTypes := true, requires := true, typedForms := true })) =
      some (false, false, ["./c"], ["./a", "./b", "./d"], ["./a", "./b", "./c", "./d"]) := by
    decide +kernel
  obtain ⟨program, hparse, hprogram⟩ := Option.map_eq_some_iff.mp hsome
  simp only [Prod.mk.injEq] at hprogram
  obtain ⟨htyped, hcalls, himported, hrequired, hall⟩ := hprogram
  obtain ⟨imported, required, both, himports, hrequires, hmixed, hboth, -, -, -, hwoven⟩ :=
    find_typed_interleaves htyped hcalls true false false
  obtain rfl : program.imported { skipTypes := true } = imported := by
    cases himports
    rfl
  obtain rfl : program.required = required := by
    cases hrequires none
    rfl
  obtain rfl : program.imported { skipTypes := true, requires := true, typedForms := true } =
      both := by
    cases hboth
    rfl
  rw [himported, hrequired] at hmixed
  rw [hall] at hboth
  rw [himported, hrequired, hall] at hwoven
  exact ⟨program, hparse, htyped, hcalls, hmixed, hboth, hwoven⟩

end Script

end Requisite
