import Requisite.Script.Node

/-!
# Walking over syntax trees

Nodes are visited before the nodes below them, and those in order.
-/

namespace Requisite.Script.Node

theorem sizeOf_lt_of_mem_children {child node : Node} (h : child ∈ node.children) :
    sizeOf child < sizeOf node := by
  have inList {parts : List Node} (h : child ∈ parts) : sizeOf child < sizeOf parts :=
    List.sizeOf_lt_of_mem h
  cases node with
  | ident | propName | str | importEquals => simp [children] at h
  | spread argument =>
    simp only [children, List.mem_singleton] at h
    simp [h]
  | member object property =>
    simp only [children, List.mem_cons, List.not_mem_nil, or_false] at h
    simp only [member.sizeOf_spec]
    rcases h with rfl | rfl <;> omega
  | call callee arguments typeArguments =>
    simp only [children, List.mem_cons, List.mem_append] at h
    simp only [call.sizeOf_spec]
    rcases h with rfl | h | h
    · omega
    · have := inList h
      omega
    · have := inList h
      omega
  | template _ parts | array parts | func parts | arrow parts | importDecl _ _ parts
  | exportFrom _ _ parts | exportDecl parts | importType _ parts | group _ parts =>
    have := inList h
    simp only [children] at this
    simp only [template.sizeOf_spec, array.sizeOf_spec, func.sizeOf_spec, arrow.sizeOf_spec,
      importDecl.sizeOf_spec, exportFrom.sizeOf_spec, exportDecl.sizeOf_spec,
      importType.sizeOf_spec, group.sizeOf_spec]
    omega

/-- What the nodes of a tree give. Nothing below a node that is not entered is visited. -/
def collect (own : Node → List α) (enters : Node → Bool) (node : Node) : List α :=
  own node ++
    if enters node then
      node.children.attach.flatMap fun ⟨child, _⟩ => collect own enters child
    else []
termination_by sizeOf node
decreasing_by exact sizeOf_lt_of_mem_children ‹_›

theorem collect_eq (own : Node → List α) (enters : Node → Bool) (node : Node) :
    node.collect own enters =
      own node ++
        if enters node then node.children.flatMap (collect own enters) else [] := by
  rw [collect]
  congr 1
  split
  · simp only [List.flatMap_subtype, List.unattach_attach]
  · rfl

end Requisite.Script.Node

namespace Requisite.Script.Program

def collect (program : Program) (own : Node → List α) (enters : Node → Bool) : List α :=
  program.items.flatMap (Node.collect own enters)

end Requisite.Script.Program
