import Requisite.Script.Node

/-!
# Calls

What a call names by its callee and by its arguments. Parentheses are nodes, so that a name or
a text inside them does not count.
-/

namespace Requisite.Script

namespace Node

/-- The text of a string literal, or of a template without substitutions. -/
def text? : Node → Option String
  | .str value => value
  | .template text [] => text
  | _ => none

/-- The keyword that a dynamic import calls. -/
def isImportKeyword (node : Node) : Bool := node.isKind .importKeyword

/-- Either `require` or `require.main.require`. -/
def isRequire : Node → Bool
  | .ident name => name == "require"
  | .member (.member (.ident root) (.propName branch)) (.propName leaf) =>
    root == "require" && branch == "main" && leaf == "require"
  | _ => false

/-- The names that load modules at run time. -/
def isLoader : Node → Bool
  | .ident name => name == "require" || name == "requirejs"
  | _ => false

def isDefine : Node → Bool
  | .ident name => name == "define"
  | _ => false

/-- Either `module.exports` or a member of `exports`. -/
def isExports : Node → Bool
  | .member (.ident root) property =>
    root == "exports" || root == "module" && (match property with
      | .propName name => name == "exports"
      | _ => false)
  | _ => false

def isFunction : Node → Bool
  | .func _ | .arrow _ => true
  | _ => false

end Node

/-! ## Arguments -/

/-- The text that a call has as its first argument. -/
def firstText? (arguments : List Node) : Option String := arguments.head?.bind Node.text?

/-- The elements of the first argument that is an array. -/
def firstArray? (arguments : List Node) : Option (List Node) :=
  arguments.findSome? fun
    | .array elements => some elements
    | _ => none

def texts (elements : List Node) : List String := elements.filterMap Node.text?

/-- The last argument, if it is a function. It may be spread. -/
def factory? (arguments : List Node) : Option Node :=
  arguments.getLast?.filter fun
    | .spread node => node.isFunction
    | node => node.isFunction

end Requisite.Script
