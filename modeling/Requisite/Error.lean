import Requisite.File.System
import Requisite.Format
import Requisite.Options.Mismatch

/-!
# Errors
-/

namespace Requisite

/-- Why no dependencies can be told. -/
inductive Error where
  | unreadable (path : String) (cause : ReadError)
  /-- The text is no program of the format it is said to have. -/
  | unparsed (format : Format)
  /-- A program was given where only a text will do. -/
  | needsText (format : Format)
  | badOptions (format : Format) (cause : Mismatch)
  deriving Repr

def Error.message : Error → String
  | .unreadable path cause => "Failed to read " ++ path ++ ": " ++ cause.text
  | .unparsed format => "Failed to parse " ++ format.label ++ " source"
  | .needsText format =>
    "The " ++ format.label ++ " detective needs source text, not a parsed program"
  | .badOptions format cause =>
    "Invalid " ++ format.label ++ " detective options: " ++ cause.message

end Requisite
