import Requisite.Script.Call
import Requisite.Script.Traversal

/-!
# CommonJS dependencies
-/

namespace Requisite.Script

def Node.required : Node → List String
  | .call callee arguments _ => if callee.isRequire then (firstText? arguments).toList else []
  | _ => []

/-- Everything that a program requires, wherever the call stands. -/
def Program.required (program : Program) : List String :=
  program.collect Node.required fun _ => true

end Requisite.Script
