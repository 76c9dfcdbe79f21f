import Requisite.Json.Basic
import Requisite.Text.Quoted

/-!
# Values of the wrong kind
-/

namespace Requisite

inductive Wanted where
  | boolean
  | string
  | options
  | fileOptions
  deriving DecidableEq, Repr

def Wanted.text : Wanted → String
  | .boolean => "a boolean"
  | .string => "a string"
  | .options => "struct ExtractOptions"
  | .fileOptions => "struct PaperworkOptions"

/-- A value that is not of the kind that is wanted. -/
structure Mismatch where
  found : Json
  wanted : Wanted
  deriving Repr

def Json.describe : Json → String
  | .null => "null"
  | .bool value => "boolean `" ++ (if value then "true" else "false") ++ "`"
  | .int value => "integer `" ++ toString value ++ "`"
  | .float value => "floating point `" ++ value.render ++ "`"
  | .str value => "string " ++ Text.quoted value
  | .array _ => "sequence"
  | .object _ => "map"

def Mismatch.message (mismatch : Mismatch) : String :=
  "invalid type: " ++ mismatch.found.describe ++ ", expected " ++ mismatch.wanted.text

end Requisite
