import Requisite.Script.Node
import Requisite.Stylesheet.Basic

/-!
# Contents and trees
-/

namespace Requisite

/-- What a text turns out to be. -/
inductive Tree where
  | program (program : Script.Program)
  | stylesheet (sheet : Stylesheet)
  deriving Repr

/-- What dependencies are looked for in. -/
inductive Content where
  | text (text : String)
  | program (program : Script.Program)
  deriving Repr

/-- The tree that a content already is. -/
def Content.tree? : Content → Option Tree
  | .text _ => none
  | .program parsed => some (.program parsed)

end Requisite
