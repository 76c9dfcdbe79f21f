import Requisite.Script.Call
import Requisite.Script.Traversal

/-!
# Imports

Modules that a program imports or takes exports from. Rules say which ways of importing count.
-/

namespace Requisite.Script

structure ImportRules where
  /-- Leave out what is imported for its types only. -/
  skipTypes : Bool := false
  skipDynamic : Bool := false
  requires : Bool := false
  /-- Also take the forms that only programs with types have. -/
  typedForms : Bool := false
  deriving DecidableEq, Repr

def Node.imported (rules : ImportRules) : Node → List String
  | .importDecl typeOnly source _ | .exportFrom typeOnly source _ =>
    if typeOnly && rules.skipTypes then [] else source.toList
  | .call callee arguments _ =>
    if callee.isImportKeyword then
      if rules.skipDynamic then [] else (firstText? arguments).toList
    else if rules.requires && callee.isRequire then (firstText? arguments).toList
    else []
  | .importEquals typeOnly (some source) =>
    if rules.typedForms && !(typeOnly && rules.skipTypes) then source.toList else []
  | .importType source _ =>
    if rules.typedForms && !rules.skipTypes then source.toList else []
  | _ => []

/-- The attributes of an import are not looked at. -/
def Node.hasImports : Node → Bool
  | .importDecl .. | .exportFrom .. => false
  | _ => true

def Program.imported (program : Program) (rules : ImportRules) : List String :=
  program.collect (Node.imported rules) Node.hasImports

end Requisite.Script
