/-!
# Formats

A format says how a text names the modules it depends on. Each has one label of its own, and
some have synonyms.
-/

namespace Requisite

inductive Format where
  | commonJs
  | es6
  | amd
  | typescript
  | tsx
  | css
  | sass
  | scss
  | less
  | stylus
  deriving DecidableEq, Repr

namespace Format

def all : List Format :=
  [.commonJs, .es6, .amd, .typescript, .tsx, .css, .sass, .scss, .less, .stylus]

/-- The place of a format among all of them. -/
def rank (format : Format) : Nat := all.idxOf format

def label : Format → String
  | .commonJs => "commonjs"
  | .es6 => "es6"
  | .amd => "amd"
  | .typescript => "ts"
  | .tsx => "tsx"
  | .css => "css"
  | .sass => "sass"
  | .scss => "scss"
  | .less => "less"
  | .stylus => "stylus"

def ofLabel? (label : String) : Option Format :=
  match label with
  | "cjs" | "commonjs" => some .commonJs
  | "es6" | "esm" | "mjs" => some .es6
  | "amd" => some .amd
  | "ts" | "typescript" => some .typescript
  | "tsx" => some .tsx
  | "css" => some .css
  | "sass" => some .sass
  | "scss" => some .scss
  | "less" => some .less
  | "stylus" => some .stylus
  | _ => none

/-- What to say of a label that names no format. -/
def unknownLabel (label : String) : String := "unknown module type: " ++ label

/-- Whether a file of this format may also use the other way to import. -/
def isMixable : Format → Bool
  | .commonJs | .es6 => true
  | _ => false

end Format

end Requisite
