import Mathlib.Data.List.Basic
import Requisite.Script.Traversal

/-!
# Nodes that a walk reaches

What a walk collects is what the nodes that it reaches give, in their order. So a statement
about a walk is one about a list of nodes.
-/

namespace Requisite.Script

namespace Node

/-- What holds of a node whenever it holds of its children holds of every node. -/
theorem children_induction {motive : Node → Prop}
    (step : ∀ node, (∀ child ∈ node.children, motive child) → motive node) (node : Node) :
    motive node := by
  apply step
  intro child h
  exact children_induction step child
termination_by sizeOf node
decreasing_by exact sizeOf_lt_of_mem_children h

def reached (enters : Node → Bool) (node : Node) : List Node :=
  node.collect (fun node => [node]) enters

theorem reached_eq (enters : Node → Bool) (node : Node) :
    node.reached enters =
      node :: if enters node then node.children.flatMap (reached enters) else [] := by
  unfold reached
  rw [collect_eq, List.singleton_append]

theorem collect_eq_flatMap (own : Node → List α) (enters : Node → Bool) (node : Node) :
    node.collect own enters = (node.reached enters).flatMap own := by
  induction node using children_induction with
  | step node ih =>
    rw [collect_eq, reached_eq, List.flatMap_cons]
    split
    · rw [List.flatMap_assoc, List.flatMap_congr ih]
    · rfl

theorem mem_reached_of_mem {enters : Node → Bool} {root node : Node}
    (h : node ∈ root.reached enters) : node ∈ root.reached fun _ => true := by
  induction root using children_induction with
  | step root ih =>
    rw [reached_eq, List.mem_cons] at h ⊢
    rcases h with rfl | h
    · exact .inl rfl
    · right
      split at h
      · rw [List.mem_flatMap] at h
        obtain ⟨child, hchild, h⟩ := h
        exact List.mem_flatMap.mpr ⟨child, hchild, ih child hchild h⟩
      · cases h

end Node

namespace Program

def reached (program : Program) (enters : Node → Bool) : List Node :=
  program.items.flatMap (Node.reached enters)

def nodes (program : Program) : List Node := program.reached fun _ => true

theorem collect_eq_flatMap (program : Program) (own : Node → List α) (enters : Node → Bool) :
    program.collect own enters = (program.reached enters).flatMap own := by
  unfold collect reached
  rw [List.flatMap_assoc]
  exact List.flatMap_congr fun item _ => Node.collect_eq_flatMap own enters item

theorem mem_nodes_of_mem_reached {program : Program} {enters : Node → Bool} {node : Node}
    (h : node ∈ program.reached enters) : node ∈ program.nodes := by
  unfold nodes reached at *
  rw [List.mem_flatMap] at h ⊢
  obtain ⟨item, hitem, h⟩ := h
  exact ⟨item, hitem, Node.mem_reached_of_mem h⟩

end Program

end Requisite.Script
