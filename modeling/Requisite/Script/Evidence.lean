import Requisite.Format
import Requisite.Script.Call
import Requisite.Script.Traversal

/-!
# The format of a program

A program without a label gives itself away by what it uses. One walk over it gathers the
evidence, and the strongest of it decides.
-/

namespace Requisite.Script

structure Evidence where
  declaration : Bool := false
  define : Bool := false
  /-- A list of modules that is loaded outside every function. -/
  driver : Bool := false
  require : Bool := false
  exports : Bool := false
  dynamicImport : Bool := false
  /-- How many functions the walk is in. -/
  depth : Nat := 0
  deriving DecidableEq, Repr

namespace Evidence

def ofCall (evidence : Evidence) (callee : Node) (arguments : List Node) : Evidence :=
  if callee.isImportKeyword then { evidence with dynamicImport := true }
  else if callee.isDefine then
    if arguments.isEmpty then evidence else { evidence with define := true }
  else if callee.isLoader && (firstArray? arguments).isSome then
    if evidence.depth = 0 then { evidence with driver := true } else evidence
  else
    match callee with
    | .ident name => if name == "require" then { evidence with require := true } else evidence
    | _ => evidence

/-- What one node tells, apart from those below it. -/
def ofNode (evidence : Evidence) (node : Node) : Evidence :=
  if node.isModuleDecl then { evidence with declaration := true }
  else if node.isExports then { evidence with exports := true }
  else
    match node with
    | .call callee arguments _ => evidence.ofCall callee arguments
    | _ => evidence

def enter (evidence : Evidence) (node : Node) : Evidence :=
  if node.isFunction then { evidence with depth := evidence.depth + 1 } else evidence

def leave (evidence : Evidence) (node : Node) : Evidence :=
  if node.isFunction then { evidence with depth := evidence.depth - 1 } else evidence

/-- The evidence after a visit to a node and all below it. -/
def visit (evidence : Evidence) (node : Node) : Evidence :=
  let inside := node.children.attach.foldl (fun evidence ⟨child, _⟩ => evidence.visit child)
    ((evidence.ofNode node).enter node)
  inside.leave node
termination_by sizeOf node
decreasing_by exact Node.sizeOf_lt_of_mem_children ‹_›

theorem visit_eq (evidence : Evidence) (node : Node) :
    evidence.visit node =
      (node.children.foldl visit ((evidence.ofNode node).enter node)).leave node := by
  rw [visit]
  simp only [List.foldl_subtype, List.unattach_attach]

def ofProgram (program : Program) : Evidence := program.items.foldl visit {}

/-- Declarations decide first, then definitions, then what is required or exported. -/
def format? (evidence : Evidence) : Option Format :=
  if evidence.declaration then some .es6
  else if evidence.define || evidence.driver then some .amd
  else if evidence.require || evidence.exports then some .commonJs
  else if evidence.dynamicImport then some .es6
  else none

end Evidence

/-- The format that a program gives itself away as. -/
def Program.format? (program : Program) : Option Format := (Evidence.ofProgram program).format?

end Requisite.Script
