import Requisite.Format

/-!
# Dialects of style sheets
-/

namespace Requisite.Stylesheet

inductive Dialect where
  | css
  | scss
  | sass
  | less
  | stylus
  deriving DecidableEq, Repr

namespace Dialect

def format : Dialect → Format
  | .css => .css
  | .scss => .scss
  | .sass => .sass
  | .less => .less
  | .stylus => .stylus

/-- Whether two slashes start a comment. -/
def hasLineComments : Dialect → Bool
  | .css => false
  | _ => true

/-- Whether the end of a line ends a statement. -/
def isIndented : Dialect → Bool
  | .sass | .stylus => true
  | _ => false

/-- Whether a file can be named without quotes. -/
def allowsBare (dialect : Dialect) : Bool := dialect.isIndented

def importRules : Dialect → List String
  | .css | .less => ["import"]
  | .scss | .sass => ["import", "use", "forward"]
  | .stylus => ["import", "require"]

end Dialect

end Requisite.Stylesheet
