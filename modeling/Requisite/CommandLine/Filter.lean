import Requisite.Text.Alphanumeric

/-!
# What is shown of a run

A setting is a row of directives with commas between them, such as `warn,precinct=debug`. Each
gives a limit to all places, or to those whose names start with its target. Of those that fit a
place the one with the longest target decides, and the last one of these.
-/

namespace Requisite.CommandLine

inductive Level where
  | error
  | warn
  | info
  | debug
  | trace
  deriving DecidableEq, Repr

def Level.rank : Level → Nat
  | .error => 1
  | .warn => 2
  | .info => 3
  | .debug => 4
  | .trace => 5

/-- The levels up to one are shown; `none` shows nothing. -/
abbrev Limit := Option Level

/-- Levels go by their names, in capitals or not, or by their ranks. -/
def limit? (text : String) : Option Limit :=
  match text.toLower with
  | "off" | "0" => some none
  | "error" | "1" => some (some .error)
  | "warn" | "2" => some (some .warn)
  | "info" | "3" => some (some .info)
  | "debug" | "4" => some (some .debug)
  | "trace" | "5" => some (some .trace)
  | _ => none

structure Directive where
  /-- What a place must start with. -/
  target : List Char
  limit : Limit

def isTargetChar (c : Char) : Bool :=
  Text.isAlphanumeric c || c == '_' || c == ':' || c == '-'

/-- The limit after a target. Where none is given, everything is shown. -/
def limitAfter? : List Char → Option Limit
  | [] | ['='] => some (some .trace)
  | '=' :: text => limit? (String.ofList text)
  | _ => none

/-- What a directive says. If it is about spans it says nothing, since there are none. -/
def directives? (text : String) : Option (List Directive) :=
  match limit? text with
  | some limit => some [⟨[], limit⟩]
  | none =>
    let target := text.toList.takeWhile isTargetChar
    match text.toList.dropWhile isTargetChar with
    | '[' :: span =>
      match span.dropWhile (· != ']') with
      | [] => none
      | _ :: rest => (limitAfter? rest).map fun _ => []
    | rest =>
      if target.isEmpty then none
      else (limitAfter? rest).map fun limit => [⟨target, limit⟩]

abbrev Filter := List Directive

namespace Filter

/-- The filter that a setting spells. An empty setting shows errors. -/
def ofSetting? (setting : String) : Option Filter :=
  match (setting.splitOn ",").filter (!·.isEmpty) with
  | [] => some [⟨[], some .error⟩]
  | texts => (texts.mapM directives?).map List.flatten

def limitAt (filter : Filter) (place : String) : Limit :=
  let fitting := List.filter (·.target.isPrefixOf place.toList) filter
  let decisive := fitting.foldl (fun best directive =>
    if best.target.length ≤ directive.target.length then directive else best) ⟨[], none⟩
  decisive.limit

end Filter

/-- A setting wins over the flag. -/
def filter (setting : Option String) (verbose : Bool) : Filter :=
  match setting.bind Filter.ofSetting? with
  | some filter => filter
  | none => [⟨[], some (if verbose then .debug else .warn)⟩]

end Requisite.CommandLine
