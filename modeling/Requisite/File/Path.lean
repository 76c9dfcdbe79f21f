/-!
# Paths

Two texts are the same path if they have the same components. Empty pieces and dots between
slashes are no components, except for a dot in front.
-/

namespace Requisite

def segments : List Char → List (List Char)
  | [] => [[]]
  | c :: cs =>
    if c == '/' then [] :: segments cs
    else
      match segments cs with
      | [] => [[c]]
      | piece :: pieces => (c :: piece) :: pieces

structure Path where
  absolute : Bool
  names : List (List Char)
  deriving DecidableEq, Repr

namespace Path

def ofText (text : String) : Path :=
  let pieces := segments text.toList
  let names := pieces.filter fun piece => !piece.isEmpty && piece != ['.']
  ⟨text.toList.head? == some '/', if pieces.head? == some ['.'] then ['.'] :: names else names⟩

/-- The last component, unless it only points at another place. -/
def fileName? (path : Path) : Option (List Char) :=
  path.names.getLast?.filter fun name => name != ['.'] && name != ['.', '.']

/-- What stands after the last dot of a name. A dot in front does not count. -/
def extension? (name : List Char) : Option (List Char) :=
  let reversed := name.reverse
  match reversed.dropWhile (· != '.') with
  | [] | [_] => none
  | _ => some (reversed.takeWhile (· != '.')).reverse

end Path

/-! ## Labels -/

/-- Extensions that are not labels themselves. -/
def extensionLabels : List (String × String) :=
  [("styl", "stylus"), ("cjs", "commonjs"), ("mts", "ts"), ("cts", "ts")]

/-- Extensions that leave the format to the content. -/
def openExtensions : List String := ["js", "jsx"]

/-- The label of a file by its name. -/
def labelOfPath? (path : String) : Option String := do
  let name ← (Path.ofText path).fileName?
  let extension := String.ofList (← Path.extension? name)
  match extensionLabels.lookup extension with
  | some label => some label
  | none => if openExtensions.contains extension then none else some extension

end Requisite
