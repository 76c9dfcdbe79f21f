import Requisite.CommandLine.Run

/-!
# The program

Reads the files that the arguments name and prints the outcome.
-/

namespace Requisite.CommandLine

def readErrorOf : IO.Error → ReadError
  | .noFileOrDirectory .. => .notFound
  | .permissionDenied .. => ⟨.permissionDenied, "Permission denied (os error 13)"⟩
  | .inappropriateType _ code _ => if code == 21 then .isADirectory else .notADirectory
  | error => ⟨.notFound, toString error⟩

def readFile (path : String) : IO (Except ReadError String) := do
  try
    let bytes ← IO.FS.readBinFile path
    return match String.fromUTF8? bytes with
      | some text => .ok text
      | none => .error .invalidData
  catch error => return .error (readErrorOf error)

/-- The files that a request can ask for. -/
def filesOf (arguments : List String) : List String :=
  match read? arguments with
  | some (.run arguments) => arguments.config.toList ++ [arguments.file]
  | _ => []

def faultText : Json.Fault → String
  | .eof => "the text ends too early"
  | .grammar => "the text is not JSON"
  | .shape => "the text spells no options"

def eventLine : Event → String
  | .resolved format =>
    "DEBUG resolved the module type module_type=" ++ (format.map Format.label).getD "none"
  | .gaveUp path error =>
    " WARN no dependencies extracted file=" ++ path ++ " error=" ++ error.message

end Requisite.CommandLine

open Requisite Requisite.CommandLine

def main (arguments : List String) : IO UInt32 := do
  let contents ← (filesOf arguments).mapM fun path => return (path, ← readFile path)
  let files : FileSystem := ⟨fun path => (contents.lookup path).getD (.error .notFound)⟩
  let outcome := outcome files (← IO.getEnv "PRECINCT_LOG") arguments
    fun _ fault => [faultText fault]
  for event in outcome.events do
    IO.eprintln (eventLine event)
  IO.print outcome.output
  if let some message := outcome.message then IO.eprintln message
  if outcome.exitCode == 2 then IO.eprint usageText
  return outcome.exitCode.toUInt32
