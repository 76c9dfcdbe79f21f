import Requisite.Proofs.Script.Traversal

/-!
# Occurrences

The nodes of a program in the order in which they are visited, each with the nodes that it
stands in. A walk reaches a node if it enters all of these.
-/

namespace Requisite.Script

structure Occurrence where
  node : Node
  /-- The nodes that it stands in, the innermost first. -/
  above : List Node

/-! ## In a tree -/

namespace Node

/-- A node and all below it, where `above` are the nodes that the whole tree stands in. -/
def occurrences (above : List Node) (node : Node) : List Occurrence :=
  ⟨node, above⟩ :: node.children.attach.flatMap fun ⟨child, _⟩ =>
    child.occurrences (node :: above)
termination_by sizeOf node
decreasing_by exact sizeOf_lt_of_mem_children ‹_›

theorem occurrences_eq (above : List Node) (node : Node) :
    node.occurrences above =
      ⟨node, above⟩ :: node.children.flatMap (occurrences (node :: above)) := by
  rw [occurrences]
  simp only [List.flatMap_subtype, List.unattach_attach]

/-- Nothing is reached below a node that is not entered. -/
theorem map_node_filter_occurrences (enters : Node → Bool) (above : List Node) (node : Node) :
    ((node.occurrences above).filter (·.above.all enters)).map Occurrence.node =
      if above.all enters then node.reached enters else [] := by
  induction node using children_induction generalizing above with
  | step node ih =>
    have hbelow : ((node.children.flatMap (occurrences (node :: above))).filter
        (·.above.all enters)).map Occurrence.node =
          if above.all enters && enters node then node.children.flatMap (reached enters)
          else [] := by
      rw [List.filter_flatMap, List.map_flatMap,
        List.flatMap_congr fun child hchild => ih child hchild (node :: above)]
      rw [List.all_cons, Bool.and_comm]
      split <;> simp
    rw [occurrences_eq, List.filter_cons, reached_eq]
    cases habove : above.all enters with
    | true =>
      rw [habove, Bool.true_and] at hbelow
      simp only [if_true, List.map_cons, hbelow]
    | false =>
      rw [habove, Bool.false_and] at hbelow
      simpa only [Bool.false_eq_true, if_false] using hbelow

theorem reached_eq_map (above : List Node) (node : Node) :
    node.reached (fun _ => true) = (node.occurrences above).map Occurrence.node := by
  have hall : above.all (fun _ => true) = true := List.all_eq_true.mpr fun _ _ => rfl
  have hreached := map_node_filter_occurrences (fun _ => true) above node
  rw [List.filter_eq_self.mpr (fun _ _ => List.all_eq_true.mpr fun _ _ => rfl)] at hreached
  rw [hreached, if_pos hall]

end Node

/-! ## In a program -/

namespace Program

def occurrences (program : Program) : List Occurrence :=
  program.items.flatMap (Node.occurrences [])

theorem reached_eq_filter (program : Program) (enters : Node → Bool) :
    program.reached enters =
      (program.occurrences.filter (·.above.all enters)).map Occurrence.node := by
  unfold reached occurrences
  rw [List.filter_flatMap, List.map_flatMap]
  apply List.flatMap_congr
  intro item _
  rw [Node.map_node_filter_occurrences]
  rfl

theorem nodes_eq_map (program : Program) :
    program.nodes = program.occurrences.map Occurrence.node := by
  unfold nodes reached occurrences
  rw [List.map_flatMap]
  exact List.flatMap_congr fun item _ => Node.reached_eq_map [] item

end Program

end Requisite.Script
