import Requisite.CommandLine.Arguments
import Requisite.CommandLine.Filter
import Requisite.Extraction
import Requisite.Options.Decode

/-!
# Running the command line

The dependencies of one file, a line each. Flags win over the configuration file. The format
is never taken from the name of the file here.
-/

namespace Requisite.CommandLine

inductive Failure where
  | unreadableConfig (path : String) (cause : ReadError)
  /-- The text of the file spells no options. -/
  | badConfig (path text : String) (fault : Json.Fault)
  | unreadable (path : String) (cause : ReadError)
  deriving Repr

/-- How a reader of JSON words the causes of a fault in a text. -/
abbrev Wording := String → Json.Fault → List String

/-- A failure and its causes, the outermost first. -/
def Failure.chain (wording : Wording) : Failure → List String
  | .unreadableConfig path cause => ["Failed to read config file: " ++ path, cause.text]
  | .badConfig path text fault => ("Failed to parse config file: " ++ path) :: wording text fault
  | .unreadable path cause => [(Error.unreadable path cause).message, cause.text]

def Failure.message (wording : Wording) (failure : Failure) : String :=
  ": ".intercalate (failure.chain wording)

/-! ## Options -/

def loadConfig (files : FileSystem) (path : String) : Except Failure FileOptions :=
  match files.read path with
  | .error cause => .error (.unreadableConfig path cause)
  | .ok text =>
    match FileOptions.parse text with
    | .ok options => .ok options
    | .error fault => .error (.badConfig path text fault)

/-- Options with the flags on top. -/
def Arguments.override (arguments : Arguments) (options : FileOptions) : FileOptions :=
  let options := if arguments.mixedImports then options.withMixedImports true else options
  let options := match arguments.label with
    | some label => options.withLabel label
    | none => options
  if arguments.excludeCore then options.withIncludeCore false else options

def Arguments.options (arguments : Arguments) (files : FileSystem) :
    Except Failure FileOptions :=
  match arguments.config with
  | some path => (loadConfig files path).map arguments.override
  | none => .ok (arguments.override {})

/-! ## Logging -/

/-- What a run has to tell besides its list. -/
inductive Event where
  | resolved (format : Option Format)
  | gaveUp (path : String) (error : Error)
  deriving Repr

def Event.level : Event → Level
  | .resolved _ => .debug
  | .gaveUp _ _ => .warn

def Event.place : Event → String
  | .resolved _ => "precinct::resolve"
  | .gaveUp _ _ => "precinct::cli::run"

def Event.isShown (event : Event) (filter : Filter) : Bool :=
  (filter.limitAt event.place).any (event.level.rank ≤ ·.rank)

/-! ## The run -/

structure Listing where
  dependencies : List String
  events : List Event

/-- Errors of a finder are told, and leave the list empty. -/
def run (files : FileSystem) (arguments : Arguments) : Except Failure Listing := do
  let options ← arguments.options files
  let text ← match files.read arguments.file with
    | .ok text => pure text
    | .error cause => .error (.unreadable arguments.file cause)
  let content := Content.text text
  let resolved := match content.subject? options.text.label with
    | some subject => [Event.resolved subject.format]
    | none => []
  let (dependencies, failed) := match (extract content options.text none).1 with
    | .ok extraction => (extraction.dependencies, [])
    | .error error => ([], [Event.gaveUp arguments.file error])
  return {
    dependencies := if options.includeCore then dependencies
      else options.core.withoutCore dependencies
    events := resolved ++ failed }

/-! ## What is printed -/

structure Outcome where
  exitCode : Nat
  output : String := ""
  message : Option String := none
  events : List Event := []

def versionText : String := "precinct 0.1.0\n"

def usageText : String := "Usage: precinct [OPTIONS] <FILENAME>\n"

def optionHelp : List (String × String) :=
  [("    --es6-mixed-imports", "Collect both ES module imports and CommonJS requires"),
    ("-t, --type <TYPE>", "Type of the content (commonjs, es6, amd, ts, tsx, css, sass, scss, " ++
      "less, stylus); detected from the content when omitted"),
    ("-c, --config <PATH>", "JSON options file; command-line flags override its values"),
    ("    --exclude-core", "Leave built-in modules out of the output"),
    ("-v, --verbose", "Enable verbose output"),
    ("-h, --help", "Print help"),
    ("-V, --version", "Print version")]

def helpTable (rows : List (String × String)) : String :=
  let width := rows.foldl (fun width row => max width row.1.length) 0
  String.join (rows.map fun (name, text) =>
    "  " ++ name ++ "".pushn ' ' (width - name.length + 2) ++ text ++ "\n")

def helpText : String :=
  "Find the module dependencies of a JavaScript, TypeScript or style-sheet file\n\n" ++
    usageText ++ "\nArguments:\n" ++
    helpTable [("<FILENAME>", "File to list the dependencies of")] ++
    "\nOptions:\n" ++ helpTable optionHelp

def lines (texts : List String) : String := String.join (texts.map (· ++ "\n"))

/-- The outcome of a run, with the events that the setting shows. -/
def Arguments.outcome (arguments : Arguments) (files : FileSystem) (setting : Option String)
    (wording : Wording) : Outcome :=
  match run files arguments with
  | .error failure => { exitCode := 1, message := some ("Error: " ++ failure.message wording) }
  | .ok listing =>
    { exitCode := 0
      output := lines listing.dependencies
      events := listing.events.filter (·.isShown (filter setting arguments.verbose)) }

/-- The outcome of a command line. Causes that a reader of JSON would word are left out unless
its words are given. -/
def outcome (files : FileSystem) (setting : Option String) (arguments : List String)
    (wording : Wording := fun _ _ => []) : Outcome :=
  match read? arguments with
  | none => { exitCode := 2 }
  | some .version => { exitCode := 0, output := versionText }
  | some .help => { exitCode := 0, output := helpText }
  | some (.run arguments) => arguments.outcome files setting wording

end Requisite.CommandLine
