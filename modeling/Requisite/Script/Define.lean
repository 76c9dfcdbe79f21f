import Requisite.Script.Call
import Requisite.Script.Traversal

/-!
# AMD dependencies

A module lists what it depends on in an array, or loads it inside its factory. Nothing inside
such a form is taken for another form.
-/

namespace Requisite.Script

/-- A call that defines a module or starts a program. -/
inductive Form where
  /-- With an array of modules, and perhaps a factory as the last argument. -/
  | listed (elements : List Node) (factory : Option Node)
  /-- With a factory alone. -/
  | loose (factory : Node)
  deriving Repr

def Node.form? : Node → Option Form
  | .call callee arguments _ =>
    if callee.isDefine || callee.isLoader then
      match firstArray? arguments with
      | some elements => some (.listed elements (factory? arguments))
      | none => if callee.isDefine then (factory? arguments).map .loose else none
    else none
  | _ => none

/-! ## Inside a factory -/

def Node.loaded : Node → List String
  | .call callee arguments _ =>
    if callee.isLoader then
      match firstArray? arguments with
      | some elements => texts elements
      | none => (firstText? arguments).toList
    else []
  | _ => []

def Node.lazyTexts (factory : Node) : List String := factory.collect Node.loaded fun _ => true

/-! ## The whole program -/

def Form.texts (skipLazy : Bool) : Form → List String
  | .listed elements factory =>
    Script.texts elements ++ if skipLazy then [] else (factory.map Node.lazyTexts).getD []
  | .loose factory => factory.lazyTexts

/-- Names that stand for the module system itself. -/
def pseudoModules : List String := ["require", "exports", "module"]

/-- Everything that the forms of a program depend on, each once. -/
def Program.defined (program : Program) (skipLazy : Bool) : List String :=
  let found := program.collect
    (fun node => (node.form?.map (Form.texts skipLazy)).getD [])
    (fun node => node.form?.isNone)
  (found.filter (!pseudoModules.contains ·)).eraseDups

end Requisite.Script
