import Requisite.Proofs.Script.Evidence
import Requisite.Proofs.Script.Occurrence

/-!
# The format by what occurs

The format of a program is decided by a list of questions, each of which asks whether a node of
a certain sort occurs. No answer depends on where in the program it occurs, but for one sort
that counts outside functions only. So it makes no difference in which order the items of a
program stand, or how often.
-/

namespace Requisite.Script

/-! ## The count of functions -/

namespace Evidence

@[simp] theorem depth_adding (evidence : Evidence) (nodes outside : List Node) :
    (evidence.adding nodes outside).depth = evidence.depth := rfl

@[simp] theorem depth_ofNode (evidence : Evidence) (node : Node) :
    (evidence.ofNode node).depth = evidence.depth := by
  rw [ofNode_eq_adding, depth_adding]

@[simp] theorem depth_visit (evidence : Evidence) (node : Node) :
    (evidence.visit node).depth = evidence.depth := by
  rw [visit_eq_adding, depth_adding]

@[simp] theorem depth_foldl_visit (evidence : Evidence) (nodes : List Node) :
    (nodes.foldl visit evidence).depth = evidence.depth := by
  induction nodes generalizing evidence with
  | nil => rfl
  | cons node nodes ih => rw [List.foldl_cons, ih, depth_visit]

/-- The evidence with which the walk comes to the end of a node, before it leaves it. -/
def inside (evidence : Evidence) (node : Node) : Evidence :=
  node.children.foldl visit ((evidence.ofNode node).enter node)

theorem depth_inside {node : Node} (h : node.isFunction = true) (evidence : Evidence) :
    (evidence.inside node).depth = evidence.depth + 1 := by
  rw [inside, depth_foldl_visit, enter, if_pos h, depth_ofNode]

end Evidence

/-! ## Sorts of nodes that occur -/

namespace Program

def has (program : Program) (sort : Node → Bool) : Bool :=
  program.occurrences.any (sort ·.node)

/-- Whether a node of some sort occurs in no function. -/
def hasOutside (program : Program) (sort : Node → Bool) : Bool :=
  program.occurrences.any fun occurrence =>
    sort occurrence.node && !occurrence.above.any Node.isFunction

theorem any_nodes (program : Program) (sort : Node → Bool) :
    program.nodes.any sort = program.has sort := by
  rw [nodes_eq_map, List.any_map]
  rfl

theorem any_outside (program : Program) (sort : Node → Bool) :
    program.outside.any sort = program.hasOutside sort := by
  rw [outside, reached_eq_filter, List.any_map, List.any_filter]
  unfold hasOutside
  congr 1
  funext occurrence
  rw [Bool.and_comm, List.not_any_eq_all_not]
  rfl

theorem evidence_eq (program : Program) :
    Evidence.ofProgram program = {
      declaration := program.has Node.isModuleDecl
      define := program.has Node.isDefinition
      driver := program.hasOutside Node.loadsList
      require := program.has Node.isPlainRequire
      exports := program.has Node.isExports
      dynamicImport := program.has Node.isDynamicImport } := by
  rw [evidence_eq_adding]
  simp only [Evidence.adding, Bool.false_or, beq_self_eq_true, Bool.true_and, any_nodes,
    any_outside]

/-! ## Items in another order -/

theorem mem_occurrences_iff (program : Program) (occurrence : Occurrence) :
    occurrence ∈ program.occurrences ↔
      ∃ item ∈ program.items, occurrence ∈ item.occurrences [] := by
  unfold occurrences
  exact List.mem_flatMap

theorem evidence_congr {program other : Program}
    (h : ∀ item, item ∈ other.items ↔ item ∈ program.items) :
    Evidence.ofProgram other = Evidence.ofProgram program := by
  have hany (test : Occurrence → Bool) :
      other.occurrences.any test = program.occurrences.any test := by
    rw [Bool.eq_iff_iff, List.any_eq_true, List.any_eq_true]
    simp only [mem_occurrences_iff, h]
  rw [evidence_eq, evidence_eq]
  simp only [has, hasOutside, hany]

end Program

/-! ## The decision -/

/-- The format of a program is the first of these answers. The walk that finds it counts the
functions it is in. After each node the count is what it was before, and zero between the
items; it is never lowered from zero. -/
theorem format?_eq_decision (program : Program) :
    (program.format? =
      if program.has Node.isModuleDecl then some .es6
      else if program.has Node.isDefinition || program.hasOutside Node.loadsList then some .amd
      else if program.has Node.isPlainRequire || program.has Node.isExports then some .commonJs
      else if program.has Node.isDynamicImport then some .es6
      else none) ∧
    (∀ (evidence : Evidence) (node : Node), (evidence.visit node).depth = evidence.depth) ∧
    (∀ (evidence : Evidence) (node : Node),
      evidence.visit node = (evidence.inside node).leave node ∧
        (node.isFunction = true → 0 < (evidence.inside node).depth)) ∧
    (∀ count, ((program.items.take count).foldl Evidence.visit {}).depth = 0) ∧
    ∀ other : Program, (∀ item, item ∈ other.items ↔ item ∈ program.items) →
      other.format? = program.format? := by
  refine ⟨?_, Evidence.depth_visit, ?_, ?_, ?_⟩
  · rw [Program.format?, Program.evidence_eq]
    rfl
  · intro evidence node
    refine ⟨Evidence.visit_eq evidence node, ?_⟩
    intro hfunction
    rw [Evidence.depth_inside hfunction]
    omega
  · intro count
    exact Evidence.depth_foldl_visit {} _
  · intro other hitems
    rw [Program.format?, Program.format?, Program.evidence_congr hitems]

/-- A list that is loaded inside a function, next to what is exported, in two orders. -/
theorem format?_eq_decision_reordered :
    let load := Node.arrow [.call (.ident "require") [.array [.str (some "a")]] []]
    let exported := Node.member (.ident "exports") (.propName "b")
    let program : Program := ⟨.script, [load, exported]⟩
    let other : Program := ⟨.script, [exported, load, exported]⟩
    (∀ item, item ∈ other.items ↔ item ∈ program.items) ∧
      program.format? = some .commonJs ∧ other.format? = some .commonJs := by
  intro load exported program other
  have hitems : ∀ item, item ∈ other.items ↔ item ∈ program.items := by
    intro item
    simp only [other, program, List.mem_cons, List.not_mem_nil, or_false]
    tauto
  have hformat : program.format? = some .commonJs := by
    rw [(format?_eq_decision program).1]
    decide +kernel
  exact ⟨hitems, hformat, ((format?_eq_decision program).2.2.2.2 other hitems).trans hformat⟩

end Requisite.Script
