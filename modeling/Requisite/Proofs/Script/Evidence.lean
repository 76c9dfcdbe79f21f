import Mathlib.Tactic.SplitIfs
import Mathlib.Tactic.Tauto
import Requisite.Proofs.Script.Traversal
import Requisite.Script.Evidence

/-!
# Evidence by nodes

The walk that gathers evidence keeps count of the functions it is in. What it finds in the end
can be said without that count: some node of a kind occurs in the program, or it occurs
outside every function.
-/

namespace Requisite.Script

/-! ## What a node is evidence of -/

namespace Node

/-- A call of `define` with arguments. -/
def isDefinition : Node → Bool
  | .call callee arguments _ => callee.isDefine && !arguments.isEmpty
  | _ => false

/-- A call that loads a list of modules. -/
def loadsList : Node → Bool
  | .call callee arguments _ => callee.isLoader && (firstArray? arguments).isSome
  | _ => false

/-- A call of `require` itself, without a list of modules. -/
def isPlainRequire : Node → Bool
  | .call (.ident name) arguments _ => name == "require" && (firstArray? arguments).isNone
  | _ => false

def isDynamicImport : Node → Bool
  | .call callee _ _ => callee.isImportKeyword
  | _ => false

end Node

namespace Evidence

/-- Adds what nodes are evidence of. Those of `outside` are in no function that the walk has
not been in before. -/
def adding (evidence : Evidence) (nodes outside : List Node) : Evidence where
  declaration := evidence.declaration || nodes.any Node.isModuleDecl
  define := evidence.define || nodes.any Node.isDefinition
  driver := evidence.driver || (evidence.depth == 0 && outside.any Node.loadsList)
  require := evidence.require || nodes.any Node.isPlainRequire
  exports := evidence.exports || nodes.any Node.isExports
  dynamicImport := evidence.dynamicImport || nodes.any Node.isDynamicImport
  depth := evidence.depth

theorem adding_nil (evidence : Evidence) : evidence.adding [] [] = evidence := by
  simp [adding]

theorem adding_adding (evidence : Evidence) (nodes outside nodes' outside' : List Node) :
    (evidence.adding nodes outside).adding nodes' outside' =
      evidence.adding (nodes ++ nodes') (outside ++ outside') := by
  simp only [adding, List.any_append, Bool.or_assoc, Bool.and_or_distrib_left]

theorem ofCall_eq_adding (evidence : Evidence) (callee : Node) (arguments types : List Node) :
    evidence.ofCall callee arguments =
      evidence.adding [.call callee arguments types] [.call callee arguments types] := by
  obtain ⟨_, _, _, _, _, _, depth⟩ := evidence
  simp only [adding, List.any_cons, List.any_nil, Bool.or_false, Node.isModuleDecl,
    Node.isDefinition, Node.loadsList, Node.isExports, Node.isDynamicImport]
  cases callee with
  | group kind parts =>
    simp only [ofCall, Node.isImportKeyword, Node.isKind, Node.isDefine, Node.isLoader,
      Node.isPlainRequire]
    cases kind == .importKeyword <;> simp
  | ident name =>
    simp only [ofCall, Node.isImportKeyword, Node.isKind, Node.isDefine, Node.isLoader,
      Node.isPlainRequire]
    cases hdefine : name == "define" with
    | true =>
      rw [beq_iff_eq] at hdefine
      subst hdefine
      cases arguments <;> simp
    | false =>
      cases firstArray? arguments <;> cases name == "require" <;> cases name == "requirejs" <;>
        cases depth <;> simp
  | _ =>
    simp [ofCall, Node.isImportKeyword, Node.isKind, Node.isDefine, Node.isLoader,
      Node.isPlainRequire]

theorem ofNode_eq_adding (evidence : Evidence) (node : Node) :
    evidence.ofNode node = evidence.adding [node] [node] := by
  cases node with
  | call callee arguments types => exact ofCall_eq_adding evidence callee arguments types
  | member object property =>
    simp only [ofNode, adding, List.any_cons, List.any_nil, Bool.or_false, Node.isModuleDecl,
      Node.isDefinition, Node.loadsList, Node.isPlainRequire, Node.isDynamicImport]
    cases (Node.member object property).isExports <;> simp
  | _ =>
    simp [ofNode, adding, Node.isDefinition, Node.loadsList, Node.isPlainRequire,
      Node.isDynamicImport, Node.isModuleDecl, Node.isExports]

theorem leave_adding_enter (evidence : Evidence) (node : Node) (nodes outside : List Node) :
    ((evidence.enter node).adding nodes outside).leave node =
      evidence.adding nodes (if node.isFunction then [] else outside) := by
  -- In a function the depth is positive, and nothing counts as outside until it is left.
  unfold enter leave
  split
  · simp [adding]
  · rfl

/-! ## The walk -/

theorem foldl_visit (evidence : Evidence) (nodes : List Node)
    (h : ∀ node ∈ nodes, ∀ evidence : Evidence, evidence.visit node =
      evidence.adding (node.reached fun _ => true) (node.reached (!·.isFunction))) :
    nodes.foldl visit evidence =
      evidence.adding (nodes.flatMap (Node.reached fun _ => true))
        (nodes.flatMap (Node.reached (!·.isFunction))) := by
  induction nodes generalizing evidence with
  | nil => exact (adding_nil evidence).symm
  | cons node nodes ih =>
    rw [List.forall_mem_cons] at h
    rw [List.foldl_cons, h.1, ih _ h.2, adding_adding]
    rfl

/-- A visit adds what the nodes below are evidence of, and gives the depth back. -/
theorem visit_eq_adding (evidence : Evidence) (node : Node) :
    evidence.visit node =
      evidence.adding (node.reached fun _ => true) (node.reached (!·.isFunction)) := by
  induction node using Node.children_induction generalizing evidence with
  | step node ih =>
    rw [visit_eq, foldl_visit _ _ (fun child h evidence => ih child h evidence),
      leave_adding_enter, ofNode_eq_adding, adding_adding, Node.reached_eq, Node.reached_eq]
    cases node.isFunction <;> rfl

theorem format?_eq_none_iff (evidence : Evidence) :
    evidence.format? = none ↔
      evidence.declaration = false ∧ evidence.define = false ∧ evidence.driver = false ∧
        evidence.require = false ∧ evidence.exports = false ∧ evidence.dynamicImport = false := by
  unfold format?
  cases evidence.declaration <;> cases evidence.define <;> cases evidence.driver <;>
    cases evidence.require <;> cases evidence.exports <;> cases evidence.dynamicImport <;> simp

end Evidence

namespace Program

/-- The nodes of a program that are in no function. -/
def outside (program : Program) : List Node := program.reached (!·.isFunction)

theorem evidence_eq_adding (program : Program) :
    Evidence.ofProgram program = Evidence.adding {} program.nodes program.outside :=
  Evidence.foldl_visit {} program.items fun node _ evidence => evidence.visit_eq_adding node

/-! ## Formats -/

theorem format?_cases {program : Program} {format : Format} (h : program.format? = some format) :
    format = .es6 ∨ format = .amd ∨ format = .commonJs := by
  unfold format? Evidence.format? at h
  split_ifs at h <;> simp_all

theorem format?_eq_none_iff (program : Program) :
    program.format? = none ↔
      (∀ node ∈ program.nodes, node.isModuleDecl = false ∧ node.isDefinition = false ∧
        node.isPlainRequire = false ∧ node.isExports = false ∧ node.isDynamicImport = false) ∧
      ∀ node ∈ program.outside, node.loadsList = false := by
  rw [format?, evidence_eq_adding, Evidence.format?_eq_none_iff]
  simp only [Evidence.adding, Bool.false_or, beq_self_eq_true, Bool.true_and, List.any_eq_false,
    Bool.not_eq_true, forall_and]
  tauto

end Program

end Requisite.Script
